import IotMonitoring.Operator.ServerConnection
import IotMonitoring.Server.OperatorMessages
import IotMonitoring.Text.LineReader

/-!
# From the server to the topics

The replies and alerts that the handlers send to the operator client come in on one stream, which
TCP divides as it likes. `authenticate` takes the first two lines as its replies, and the reader
thread publishes a list of sensors for every reply to GET_SENSORS and an alert for every alert. When
messages fit into their buffers, alerts are sent whole and no reply is overwritten while it is sent,
what is published stands, in order, for the messages that have been sent, up to those that are still
to be read: no alert is lost, doubled or overtaken.
-/

namespace IotMonitoring.Operator.Link

open Text Machine Server Server.HandleClient Server.OperatorStream ParseSensors

/-! ## The connection -/

/-- The connection with both of its ends: what the handlers have sent, whether their end is closed,
how many bytes have arrived, the reader `in`, what `authenticate` has read from it, and the
service. -/
structure State (ι : Type*) where
  stream : OperatorStream.State ι
  closed : Bool
  received : ℕ
  reader : LineReader
  replies : List JavaString
  service : ServerConnection.State

/-- A step of the handlers, the end of the connection's own handler, bytes that arrive, a line that
`authenticate` or the reader thread reads, or another step of the service. -/
inductive Event (ι : Type*) where
  | server (event : OperatorStream.Event ι)
  | leave
  | receive (length : ℕ)
  | readReply
  | readLine
  | client (event : ServerConnection.Event)

/-- `resp.startsWith("OK")`. -/
def startsWithOk (resp : JavaString) : Bool := "OK".toList.isPrefixOf resp

variable {ι : Type*}

/-- The stream is closed and has arrived. -/
def State.ended (s : State ι) : Bool := s.closed ∧ s.received = s.stream.delivered.length

/-- `in.readLine()`, for a line. Line ends are ASCII, so it does not matter that Java decodes the
stream before it divides it. -/
def State.readLine (charset : Charset) (s : State ι) : Option (JavaString × State ι) :=
  (s.reader.readLine s.ended).map fun read ↦ (charset.decode read.1, { s with reader := read.2 })

/-- The reader thread is started when both replies are OK, its lines are those of `in`, and `in` has
come to its end when there is no line left. -/
def State.admits (s : State ι) : ServerConnection.Event → Bool
  | .connect .accepted => s.replies.length = 2 ∧ s.replies.all startsWithOk
  | .line _ => false
  | .endOfStream => s.ended ∧ s.reader.readLine true = none
  | _ => true

variable [DecidableEq ι]

/-- Handlers, network and client. The handler of the connection removes it from the registry before
it closes it, so that nobody is sending on it then. -/
def link (self : ι) (charset : Charset) : Labelled (State ι) (Event ι) where
  step s event :=
    match event with
    | .server event =>
      if s.closed then none
      else ((stream self).step s.stream event).map fun stream ↦ { s with stream := stream }
    | .leave =>
      if s.stream.phase self = .idle ∧ s.stream.writeMutex = none then
        some { s with closed := true }
      else none
    | .receive length =>
      if s.received + length ≤ s.stream.delivered.length then
        some { s with
          received := s.received + length
          reader := s.reader.feed ((s.stream.delivered.drop s.received).take length) }
      else none
    | .readReply =>
      if s.service.reader = .notStarted ∧ s.replies.length < 2 ∧ s.replies.all startsWithOk then
        (s.readLine charset).map fun read ↦ { read.2 with replies := s.replies ++ [read.1] }
      else none
    | .readLine =>
      (s.readLine charset).bind fun read ↦
        (ServerConnection.service.step s.service (.line read.1)).map fun service ↦
          { read.2 with service := service }
    | .client event =>
      if s.admits event then
        (ServerConnection.service.step s.service event).map fun service ↦
          { s with service := service }
      else none

omit [DecidableEq ι] in
/-- A new connection. -/
def init : State ι := ⟨OperatorStream.init, false, 0, .fresh, [], ServerConnection.init⟩

/-! ## What messages stand for -/

/-- The line of a message. -/
def line (sending : Sending) : Bytes := (sending.text.before isLineEnd).bytes

/-- What a message leads to on the topics. -/
def topic (charset : Charset) (sending : Sending) : List ServerConnection.Message :=
  match sending with
  | .alert _ => [.alert (charset.decode (line sending))]
  | .reply text =>
    if (CString.lit "SENSORS ").bytes.isPrefixOf text.bytes then
      [.sensors (parseSensors (charset.decode (line sending)))]
    else []

omit [DecidableEq ι] in
/-- What a step begins to send. -/
def begun (s : State ι) : Event ι → List Sending
  | .server event => begins s.stream event
  | _ => []

omit [DecidableEq ι] in
/-- Handlers begin to send replies that fit and alerts that fit, the `send` of an alert accepts all
of it, and no reply is overwritten in `resp_buf` while it is sent. -/
def Regular (self : ι) (D κ : Type) [CDouble D] (now : ℤ) (s : State ι) : Event ι → Prop
  | .server event =>
    WholeSend self s.stream event ∧ ∀ sending ∈ begins s.stream event, Spoken D κ now sending
  | _ => True

/-! ## Lines -/

theorem prefix_append_iff {α : Type*} {word front : List α} (h : ¬ front <+: word)
    (rest : List α) : word <+: front ++ rest ↔ word <+: front := by
  constructor
  · intro hword
    exact (List.prefix_or_prefix_of_prefix hword (List.prefix_append front rest)).resolve_right h
  · exact fun hword ↦ hword.trans (List.prefix_append front rest)

/-- What the decoded line of a message starts with is decided by the keyword of the message. -/
theorem isPrefixOf_decode_line (charset : Charset) {keyword : CString} {sending : Sending}
    (hkeyword : keyword.bytes <+: sending.text.bytes)
    (hsafe : keyword.bytes.all fun b ↦ b < 128 ∧ isLineEnd b = false) {word : JavaString}
    (hword : ¬ keyword.bytes.map character <+: word) :
    word.isPrefixOf (charset.decode (line sending)) =
      word.isPrefixOf (keyword.bytes.map character) := by
  simp only [List.all_eq_true, decide_eq_true_eq] at hsafe
  obtain ⟨rest, hrest⟩ := hkeyword
  have hpass : ∀ b ∈ keyword.bytes, (! isLineEnd b) = true := fun b hb ↦ by simp [(hsafe b hb).2]
  have hline : line sending = keyword.bytes ++ rest.takeWhile (! isLineEnd ·) := by
    rw [line, CString.before]
    simp only [← hrest]
    exact List.takeWhile_append_of_pos hpass
  rw [hline, charset.decode_append fun b hb ↦ (hsafe b hb).1, Bool.eq_iff_iff,
    List.isPrefixOf_iff_prefix, List.isPrefixOf_iff_prefix]
  exact prefix_append_iff hword _

/-- The line of a message is what stands in front of its line end. -/
theorem line_of_bytes {sending : Sending} {text : Bytes}
    (htext : sending.text.bytes = text ++ [13, 10]) (hsafe : ∀ b ∈ text, isLineEnd b = false) :
    line sending = text := by
  rw [line, CString.before]
  simp only [htext]
  rw [List.takeWhile_append_of_pos (by simpa using hsafe)]
  simp [isLineEnd]

theorem line_eq {D κ : Type} [CDouble D] {now : ℤ} {sending : Sending}
    (h : Spoken D κ now sending) :
    sending.text.bytes = line sending ++ [13, 10] ∧ ∀ b ∈ line sending, isLineEnd b = false := by
  obtain ⟨text, htext, hsafe⟩ := h.isLine
  rw [line_of_bytes htext hsafe]
  exact ⟨htext, hsafe⟩

/-- Among the replies, the listing of the sensors alone is published. -/
theorem isPrefixOf_reply (charset : Charset) {text : CString} (h : StartsWithKeyword text) :
    "ALERTA".toList.isPrefixOf (charset.decode (line (.reply text))) = false ∧
      "SENSORS".toList.isPrefixOf (charset.decode (line (.reply text))) =
        (CString.lit "SENSORS ").bytes.isPrefixOf text.bytes := by
  obtain ⟨keyword, hmem, hkeyword⟩ := h
  have hfacts : replyKeywords.all (fun keyword ↦
      keyword.bytes.all (fun b ↦ b < 128 ∧ isLineEnd b = false) ∧
      ¬ keyword.bytes.map character <+: "ALERTA".toList ∧
      ¬ keyword.bytes.map character <+: "SENSORS".toList ∧
      "ALERTA".toList.isPrefixOf (keyword.bytes.map character) = false ∧
      "SENSORS".toList.isPrefixOf (keyword.bytes.map character) =
        (CString.lit "SENSORS ").bytes.isPrefixOf keyword.bytes ∧
      (keyword.bytes <+: (CString.lit "SENSORS ").bytes →
        (CString.lit "SENSORS ").bytes <+: keyword.bytes)) = true := by decide
  have hfact := List.all_eq_true.mp hfacts keyword hmem
  rw [decide_eq_true_eq] at hfact
  obtain ⟨hsafe, halerta, hsensors, hnoAlert, hlisting, hwhole⟩ := hfact
  constructor
  · exact (isPrefixOf_decode_line charset hkeyword hsafe halerta).trans hnoAlert
  · rw [isPrefixOf_decode_line charset hkeyword hsafe hsensors, hlisting, Bool.eq_iff_iff,
      List.isPrefixOf_iff_prefix, List.isPrefixOf_iff_prefix]
    constructor
    · exact fun hword ↦ hword.trans hkeyword
    · intro hword
      exact (List.prefix_or_prefix_of_prefix hword hkeyword).elim id hwhole

/-- An alert is neither a reply nor a listing. -/
theorem isPrefixOf_alert (charset : Charset) {text : CString}
    (h : (CString.lit "ALERTA ").bytes <+: text.bytes) :
    "ALERTA".toList.isPrefixOf (charset.decode (line (.alert text))) = true ∧
      "SENSORS".toList.isPrefixOf (charset.decode (line (.alert text))) = false ∧
      startsWithOk (charset.decode (line (.alert text))) = false := by
  have hsafe : (CString.lit "ALERTA ").bytes.all fun b ↦ b < 128 ∧ isLineEnd b = false := by decide
  have hword {word : JavaString} (hword : ¬ (CString.lit "ALERTA ").bytes.map character <+: word) :
      word.isPrefixOf (charset.decode (line (.alert text))) =
        word.isPrefixOf ((CString.lit "ALERTA ").bytes.map character) :=
    isPrefixOf_decode_line charset h hsafe hword
  refine ⟨?_, ?_, ?_⟩
  · exact (hword (by decide)).trans (by decide)
  · exact (hword (by decide)).trans (by decide)
  · exact (hword (by decide)).trans (by decide)

/-- What the reader thread does with a line is what its message stands for. -/
theorem published_handleLine {D κ : Type} [CDouble D] {now : ℤ} (charset : Charset)
    {sending : Sending} (h : Spoken D κ now sending) (s : ServerConnection.State) :
    (ServerConnection.handleLine (charset.decode (line sending)) s).published =
      s.published ++ topic charset sending := by
  cases sending with
  | alert text =>
    obtain ⟨⟨s', hreach, env, client, chunk, hbroadcast⟩, hwhole⟩ := h
    have hkeyword := (exists_alertText_of_broadcast hreach hbroadcast hwhole).2
    obtain ⟨halert, hlisting, -⟩ := isPrefixOf_alert charset hkeyword
    rw [ServerConnection.handleLine, hlisting, halert]
    rfl
  | reply text =>
    obtain ⟨s', -, env, client, chunk, rfl, -⟩ := h
    obtain ⟨halert, hlisting⟩ :=
      isPrefixOf_reply charset (startsWithKeyword_respond env client chunk s')
    rw [ServerConnection.handleLine, hlisting, halert, topic]
    split <;> simp

/-- A line that is taken for a reply is one. -/
theorem exists_reply_of_startsWithOk {D κ : Type} [CDouble D] {now : ℤ} {charset : Charset}
    {sending : Sending} (h : Spoken D κ now sending)
    (hok : startsWithOk (charset.decode (line sending)) = true) :
    ∃ text, sending = .reply text := by
  cases sending with
  | alert text =>
    obtain ⟨⟨s', hreach, env, client, chunk, hbroadcast⟩, hwhole⟩ := h
    have hkeyword := (exists_alertText_of_broadcast hreach hbroadcast hwhole).2
    rw [(isPrefixOf_alert charset hkeyword).2.2] at hok
    cases hok
  | reply text => exact ⟨text, rfl⟩

/-! ## The service -/

/-- What the service publishes besides lines is the loss of the connection. -/
def topics (s : ServerConnection.State) : List ServerConnection.Message :=
  s.published.filter (· ≠ .lost)

/-- The steps of the service that read no line publish nothing on the topics, and only `connect`
starts the reader thread. -/
theorem service_step {s t : ServerConnection.State} {event : ServerConnection.Event}
    (hline : ∀ text, event ≠ .line text)
    (hstep : ServerConnection.service.step s event = some t) :
    topics t = topics s ∧ (t.reader = .notStarted → s.reader = .notStarted) ∧
      (t.reader ≠ .notStarted → s.reader ≠ .notStarted ∨ event = .connect .accepted) := by
  cases event with
  | connect outcome =>
    obtain ⟨-, hstep⟩ := Option.ite_none_left_eq_some.mp hstep
    cases outcome with
    | refused =>
      obtain rfl := Option.some.inj hstep
      exact ⟨rfl, id, .inl⟩
    | rejected =>
      obtain rfl := Option.some.inj hstep
      exact ⟨rfl, id, .inl⟩
    | accepted =>
      obtain rfl := Option.some.inj hstep
      exact ⟨rfl, nofun, fun _ ↦ .inr rfl⟩
  | checkRunning =>
    obtain ⟨hchecking, rfl⟩ := Option.ite_some_none_eq_some.mp hstep
    cases s.running <;> simp [topics, hchecking]
  | line text => exact absurd rfl (hline text)
  | endOfStream =>
    obtain ⟨hreading, rfl⟩ := Option.ite_some_none_eq_some.mp hstep
    simp [topics, hreading]
  | readFails =>
    obtain ⟨hreading, rfl⟩ := Option.ite_some_none_eq_some.mp hstep
    simp [topics, hreading]
  | handleFailure =>
    obtain ⟨hcatching, rfl⟩ := Option.ite_some_none_eq_some.mp hstep
    cases s.running <;> simp [topics, hcatching]
  | pollSensors =>
    obtain rfl := Option.some.inj hstep
    split <;> simp [topics]
  | disconnect =>
    obtain rfl := Option.some.inj hstep
    simp [topics]
  | closeSocket =>
    obtain ⟨-, rfl⟩ := Option.ite_some_none_eq_some.mp hstep
    simp [topics]

/-- What has been published stays published. -/
theorem published_service_step {s t : ServerConnection.State} {event : ServerConnection.Event}
    (hstep : ServerConnection.service.step s event = some t) : s.published <+: t.published := by
  cases event with
  | connect outcome =>
    obtain ⟨-, hstep⟩ := Option.ite_none_left_eq_some.mp hstep
    cases outcome <;> obtain rfl := Option.some.inj hstep <;> exact List.prefix_refl _
  | checkRunning =>
    obtain ⟨-, rfl⟩ := Option.ite_some_none_eq_some.mp hstep
    exact List.prefix_refl _
  | line text =>
    obtain ⟨-, rfl⟩ := Option.ite_some_none_eq_some.mp hstep
    unfold ServerConnection.handleLine
    split
    · exact List.prefix_append _ _
    · split
      · exact List.prefix_append _ _
      · exact List.prefix_refl _
  | endOfStream =>
    obtain ⟨-, rfl⟩ := Option.ite_some_none_eq_some.mp hstep
    exact List.prefix_refl _
  | readFails =>
    obtain ⟨-, rfl⟩ := Option.ite_some_none_eq_some.mp hstep
    exact List.prefix_refl _
  | handleFailure =>
    obtain ⟨-, rfl⟩ := Option.ite_some_none_eq_some.mp hstep
    cases hrunning : s.running with
    | true => exact List.prefix_append _ _
    | false => exact List.prefix_refl _
  | pollSensors =>
    obtain rfl := Option.some.inj hstep
    split <;> exact List.prefix_refl _
  | disconnect =>
    obtain rfl := Option.some.inj hstep
    exact List.prefix_refl _
  | closeSocket =>
    obtain ⟨-, rfl⟩ := Option.ite_some_none_eq_some.mp hstep
    exact List.prefix_refl _

theorem published_step {self : ι} {charset : Charset} {s t : State ι} {event : Event ι}
    (hstep : (link self charset).step s event = some t) :
    s.service.published <+: t.service.published := by
  cases event with
  | server event =>
    obtain ⟨-, hstep⟩ := Option.ite_none_left_eq_some.mp hstep
    obtain ⟨stream', -, rfl⟩ := Option.map_eq_some_iff.mp hstep
    exact List.prefix_refl _
  | leave =>
    obtain ⟨-, rfl⟩ := Option.ite_some_none_eq_some.mp hstep
    exact List.prefix_refl _
  | receive length =>
    obtain ⟨-, rfl⟩ := Option.ite_some_none_eq_some.mp hstep
    exact List.prefix_refl _
  | readReply =>
    obtain ⟨-, hstep⟩ := Option.ite_none_right_eq_some.mp hstep
    obtain ⟨read, hread, rfl⟩ := Option.map_eq_some_iff.mp hstep
    obtain ⟨line, -, rfl⟩ := Option.map_eq_some_iff.mp hread
    exact List.prefix_refl _
  | readLine =>
    obtain ⟨read, hread, hstep⟩ := Option.bind_eq_some_iff.mp hstep
    obtain ⟨service, hservice, rfl⟩ := Option.map_eq_some_iff.mp hstep
    exact published_service_step hservice
  | client event =>
    obtain ⟨-, hstep⟩ := Option.ite_none_right_eq_some.mp hstep
    obtain ⟨service, hservice, rfl⟩ := Option.map_eq_some_iff.mp hstep
    exact published_service_step hservice

/-! ## Reading the stream -/

/-- How far the client has come: it has read the messages of the handshake, then those that it has
published. -/
structure Progress (charset : Charset) (s : State ι) (handshake read : List Sending) : Prop where
  reads : s.reader.Reads (s.stream.delivered.take s.received) ((handshake ++ read).map line)
  replies : s.replies = handshake.map fun sending ↦ charset.decode (line sending)
  notStarted : s.service.reader = .notStarted → read = []
  started : s.service.reader ≠ .notStarted →
    handshake.length = 2 ∧ s.replies.all startsWithOk = true
  published : topics s.service = read.flatMap (topic charset)

/-- The stream carries the messages that have begun, and the client follows. -/
structure Follows (D κ : Type) [CDouble D] (now : ℤ) (charset : Charset)
    (messages : List Sending) (s : State ι) : Prop where
  stream : OperatorStream.Invariant s.stream
  messages_eq : s.stream.messages = messages.map Sending.text
  spoken : ∀ sending ∈ messages, Spoken D κ now sending
  closed : s.closed = true → s.stream.writeMutex = none
  received : s.received ≤ s.stream.delivered.length
  progress : ∃ handshake read pending, messages = handshake ++ read ++ pending ∧
    Progress charset s handshake read

variable {D κ : Type} [CDouble D] {now : ℤ} {charset : Charset} {messages : List Sending}
  {s s' : State ι}

omit [DecidableEq ι] in
theorem flatten_messages (hspoken : ∀ sending ∈ messages, Spoken D κ now sending) :
    ((messages.map Sending.text).map CString.bytes).flatten =
      LineReader.frames (messages.map line) := by
  induction messages with
  | nil => rfl
  | cons sending messages ih =>
    rw [List.forall_mem_cons] at hspoken
    rw [List.map_cons, List.map_cons, List.flatten_cons, ih hspoken.2, (line_eq hspoken.1).1,
      List.map_cons, LineReader.frames_cons]
    simp

omit [DecidableEq ι] in
theorem follows_init : Follows D κ now charset [] (init : State ι) where
  stream := invariant_init
  messages_eq := rfl
  spoken := nofun
  closed := nofun
  received := le_refl 0
  progress := ⟨[], [], [], rfl, LineReader.reads_fresh, rfl, fun _ ↦ rfl, fun h ↦ absurd rfl h, rfl⟩

omit [DecidableEq ι] in
/-- The next line that is read is the next message. -/
theorem Follows.next (h : Follows D κ now charset messages s)
    {handshake read pending : List Sending} (hmessages : messages = handshake ++ read ++ pending)
    (hprogress : Progress charset s handshake read) {text : JavaString}
    (hread : s.readLine charset = some (text, s')) :
    ∃ sending rest, pending = sending :: rest ∧ text = charset.decode (line sending) ∧
      ∃ reader, s' = { s with reader := reader } ∧
        reader.Reads (s.stream.delivered.take s.received)
          ((handshake ++ read).map line ++ [line sending]) := by
  obtain ⟨⟨bytes, reader⟩, hline, heq⟩ := Option.map_eq_some_iff.mp hread
  obtain ⟨rfl, rfl⟩ := Prod.mk.inj heq
  obtain ⟨unsent, hunsent⟩ := h.stream.delivered_prefix
  rw [h.messages_eq, flatten_messages h.spoken, hmessages, List.map_append] at hunsent
  have hstream : s.stream.delivered.take s.received ++
      (s.stream.delivered.drop s.received ++ unsent) =
        LineReader.frames ((handshake ++ read).map line ++ pending.map line) := by
    rw [← List.append_assoc, List.take_append_drop, hunsent]
  have hsafe : ∀ text ∈ pending.map line, ∀ b ∈ text, isLineEnd b = false := by
    intro text htext
    obtain ⟨sending, hmem, rfl⟩ := List.mem_map.mp htext
    exact (line_eq (h.spoken sending (hmessages ▸ List.mem_append_right _ hmem))).2
  have hended : s.ended = true → s.stream.delivered.drop s.received ++ unsent = [] := by
    intro hend
    rw [State.ended, decide_eq_true_eq] at hend
    have hall := h.stream.delivered_eq (h.closed hend.1)
    rw [h.messages_eq, flatten_messages h.spoken, hmessages, List.map_append, ← hunsent,
      List.self_eq_append_right] at hall
    rw [hend.2, List.drop_length, hall]
    rfl
  obtain ⟨others, hpending, hreads⟩ := hprogress.reads.readLine hsafe hstream hended hline
  obtain ⟨sending, rest, rfl, rfl, -⟩ := List.map_eq_cons_iff.mp hpending
  exact ⟨sending, rest, rfl, rfl, reader, rfl, hreads⟩

/-- A step of the handlers. -/
theorem Follows.server {self : ι} {event : OperatorStream.Event ι}
    {stream' : OperatorStream.State ι} (h : Follows D κ now charset messages s)
    (hopen : ¬ s.closed = true)
    (hwhole : WholeSend self s.stream event)
    (hspoken : ∀ sending ∈ begins s.stream event, Spoken D κ now sending)
    (hstep : (OperatorStream.stream self).step s.stream event = some stream') :
    Follows D κ now charset (messages ++ begins s.stream event) { s with stream := stream' } := by
  have hprefix := delivered_step hstep
  obtain ⟨handshake, read, pending, hmessages, hprogress⟩ := h.progress
  refine ⟨invariant_step self s.stream event stream' h.stream hwhole hstep, ?_, ?_, ?_, ?_, ?_⟩
  · rw [messages_step h.stream hstep, h.messages_eq, List.map_append]
  · exact fun sending hmem ↦ (List.mem_append.mp hmem).elim (h.spoken sending) (hspoken sending)
  · exact fun hclosed ↦ absurd hclosed hopen
  · exact h.received.trans hprefix.length_le
  · refine ⟨handshake, read, pending ++ begins s.stream event, ?_, { hprogress with reads := ?_ }⟩
    · rw [hmessages, List.append_assoc]
    · have htake : stream'.delivered.take s.received = s.stream.delivered.take s.received := by
        obtain ⟨more, hmore⟩ := hprefix
        rw [← hmore, List.take_append_of_le_length h.received]
      exact htake ▸ hprogress.reads

omit [DecidableEq ι] in
/-- Bytes arrive. -/
theorem Follows.receive (h : Follows D κ now charset messages s) {length : ℕ}
    (hlength : s.received + length ≤ s.stream.delivered.length) :
    Follows D κ now charset messages
      { s with
        received := s.received + length
        reader := s.reader.feed ((s.stream.delivered.drop s.received).take length) } := by
  obtain ⟨handshake, read, pending, hmessages, hprogress⟩ := h.progress
  refine { h with received := hlength, progress := ⟨handshake, read, pending, hmessages, ?_⟩ }
  refine { hprogress with reads := ?_ }
  rw [List.take_add]
  exact hprogress.reads.feed _

omit [DecidableEq ι] in
/-- A line of the handshake. -/
theorem Follows.readReply (h : Follows D κ now charset messages s)
    (hstarted : s.service.reader = .notStarted) {text : JavaString}
    (hread : s.readLine charset = some (text, s')) :
    Follows D κ now charset messages { s' with replies := s.replies ++ [text] } := by
  obtain ⟨handshake, read, pending, hmessages, hprogress⟩ := h.progress
  obtain ⟨sending, rest, rfl, rfl, reader, rfl, hreads⟩ := h.next hmessages hprogress hread
  obtain rfl := hprogress.notStarted hstarted
  refine { h with progress := ⟨handshake ++ [sending], [], rest, by simp [hmessages], ?_⟩ }
  refine { hprogress with reads := ?_, replies := ?_, started := ?_ }
  · simpa using hreads
  · rw [hprogress.replies, List.map_append]
    rfl
  · exact fun hnot ↦ absurd hstarted hnot

omit [DecidableEq ι] in
/-- A line of the reader thread. -/
theorem Follows.readLine (h : Follows D κ now charset messages s) {text : JavaString}
    (hread : s.readLine charset = some (text, s')) {service : ServerConnection.State}
    (hservice : ServerConnection.service.step s.service (.line text) = some service) :
    Follows D κ now charset messages { s' with service := service } := by
  obtain ⟨handshake, read, pending, hmessages, hprogress⟩ := h.progress
  obtain ⟨sending, rest, rfl, rfl, reader, rfl, hreads⟩ := h.next hmessages hprogress hread
  obtain ⟨hreading, rfl⟩ := Option.ite_some_none_eq_some.mp hservice
  have hspoken : Spoken D κ now sending := h.spoken sending (by simp [hmessages])
  refine { h with progress := ⟨handshake, read ++ [sending], rest, by simp [hmessages], ?_⟩ }
  refine ⟨?_, hprogress.replies, nofun, fun _ ↦ ?_, ?_⟩
  · simpa using hreads
  · exact hprogress.started (by rw [hreading]; nofun)
  · have hpublished := hprogress.published
    have htopic : (topic charset sending).filter (· ≠ .lost) = topic charset sending := by
      cases sending with
      | alert text => rfl
      | reply text => rw [topic]; split <;> rfl
    rw [topics] at hpublished ⊢
    rw [published_handleLine charset hspoken, List.filter_append, hpublished, htopic]
    simp

omit [DecidableEq ι] in
/-- A step of the service that reads no line. -/
theorem Follows.client (h : Follows D κ now charset messages s) {event : ServerConnection.Event}
    (hadmits : s.admits event = true) {service : ServerConnection.State}
    (hservice : ServerConnection.service.step s.service event = some service) :
    Follows D κ now charset messages { s with service := service } := by
  obtain ⟨handshake, read, pending, hmessages, hprogress⟩ := h.progress
  have hline : ∀ text, event ≠ .line text := by
    rintro text rfl
    cases hadmits
  obtain ⟨htopics, hnotStarted, hstarts⟩ := service_step hline hservice
  refine { h with progress := ⟨handshake, read, pending, hmessages, ?_⟩ }
  refine ⟨hprogress.reads, hprogress.replies, ?_, ?_, htopics.trans hprogress.published⟩
  · exact fun hnot ↦ hprogress.notStarted (hnotStarted hnot)
  · intro hstarted
    obtain hbefore | rfl := hstarts hstarted
    · exact hprogress.started hbefore
    · rw [State.admits, decide_eq_true_eq, hprogress.replies, List.length_map,
        ← hprogress.replies] at hadmits
      exact hadmits

theorem Follows.step {self : ι} (h : Follows D κ now charset messages s) {event : Event ι}
    (hregular : Regular self D κ now s event) (hstep : (link self charset).step s event = some s') :
    Follows D κ now charset (messages ++ begun s event) s' := by
  cases event with
  | server event =>
    obtain ⟨hopen, hstep⟩ := Option.ite_none_left_eq_some.mp hstep
    obtain ⟨stream', hstream, rfl⟩ := Option.map_eq_some_iff.mp hstep
    exact h.server hopen hregular.1 hregular.2 hstream
  | leave =>
    obtain ⟨⟨-, hfree⟩, rfl⟩ := Option.ite_some_none_eq_some.mp hstep
    simp only [begun, List.append_nil]
    obtain ⟨handshake, read, pending, hmessages, hprogress⟩ := h.progress
    exact { h with
      closed := fun _ ↦ hfree
      progress := ⟨handshake, read, pending, hmessages, { hprogress with }⟩ }
  | receive length =>
    obtain ⟨hlength, rfl⟩ := Option.ite_some_none_eq_some.mp hstep
    simp only [begun, List.append_nil]
    exact h.receive hlength
  | readReply =>
    obtain ⟨⟨hstarted, -⟩, hstep⟩ := Option.ite_none_right_eq_some.mp hstep
    obtain ⟨⟨text, s''⟩, hread, rfl⟩ := Option.map_eq_some_iff.mp hstep
    simp only [begun, List.append_nil]
    exact h.readReply hstarted hread
  | readLine =>
    obtain ⟨⟨text, s''⟩, hread, hstep⟩ := Option.bind_eq_some_iff.mp hstep
    obtain ⟨service, hservice, rfl⟩ := Option.map_eq_some_iff.mp hstep
    simp only [begun, List.append_nil]
    exact h.readLine hread hservice
  | client event =>
    obtain ⟨hadmits, hstep⟩ := Option.ite_none_right_eq_some.mp hstep
    obtain ⟨service, hservice, rfl⟩ := Option.map_eq_some_iff.mp hstep
    simp only [begun, List.append_nil]
    exact h.client hadmits hservice

theorem follows_of_run {self : ι} {events : List (Event ι)}
    (hmeets : (link self charset).Meets (Regular self D κ now) init events)
    (hrun : (link self charset).run init events = some s) :
    Follows D κ now charset ((link self charset).outputs begun init events) s :=
  Labelled.inv_of_meets_outputs (Follows D κ now charset)
    (fun _ _ _ _ h hregular hstep ↦ h.step hregular hstep) follows_init hmeets hrun

omit [DecidableEq ι] in
/-- When all has been sent and has arrived and no line is left, every message has been read. -/
theorem Follows.eq_nil_of_drained (h : Follows D κ now charset messages s)
    {handshake read pending : List Sending} (hmessages : messages = handshake ++ read ++ pending)
    (hprogress : Progress charset s handshake read) (hfree : s.stream.writeMutex = none)
    (harrived : s.received = s.stream.delivered.length)
    (hread : s.reader.readLine s.ended = none) : pending = [] := by
  have hstream : s.stream.delivered.take s.received =
      LineReader.frames ((handshake ++ read).map line ++ pending.map line) := by
    rw [harrived, List.take_length, h.stream.delivered_eq hfree, h.messages_eq,
      flatten_messages h.spoken, hmessages, List.map_append]
  have hsafe : ∀ text ∈ pending.map line, ∀ b ∈ text, isLineEnd b = false := by
    intro text htext
    obtain ⟨sending, hmem, rfl⟩ := List.mem_map.mp htext
    exact (line_eq (h.spoken sending (hmessages ▸ List.mem_append_right _ hmem))).2
  exact List.map_eq_nil_iff.mp (hprogress.reads.eq_nil_of_readLine hsafe hstream hread)

omit [DecidableEq ι] in
/-- A started client has taken two replies, and no alert, in its handshake. -/
theorem Follows.exists_read (h : Follows D κ now charset messages s)
    (hstarted : s.service.reader ≠ .notStarted) :
    ∃ first second read pending,
      messages = .reply first :: .reply second :: (read ++ pending) ∧
      topics s.service = read.flatMap (topic charset) ∧
      (s.stream.writeMutex = none → s.received = s.stream.delivered.length →
        s.reader.readLine s.ended = none → pending = []) := by
  obtain ⟨handshake, read, pending, hmessages, hprogress⟩ := h.progress
  obtain ⟨hlength, hok⟩ := hprogress.started hstarted
  obtain ⟨first, second, rfl⟩ := List.length_eq_two.mp hlength
  rw [hprogress.replies, List.map_cons, List.map_cons, List.map_nil, List.all_cons, List.all_cons,
    List.all_nil, Bool.and_true, Bool.and_eq_true] at hok
  obtain ⟨firstReply, rfl⟩ :=
    exists_reply_of_startsWithOk (h.spoken first (by simp [hmessages])) hok.1
  obtain ⟨secondReply, rfl⟩ :=
    exists_reply_of_startsWithOk (h.spoken second (by simp [hmessages])) hok.2
  exact ⟨firstReply, secondReply, read, pending, hmessages, hprogress.published,
    h.eq_nil_of_drained hmessages hprogress⟩

/-- In every run in which messages fit, alerts are sent whole and replies are sent as they were
measured, a reader thread that has been started has lost nothing: behind the two replies of the
handshake, what is published stands in order for the messages that have been sent, up to those that
are still to be read, and none is left when the stream has been read. -/
theorem published_of_run {self : ι} {events : List (Event ι)}
    (hmeets : (link self charset).Meets (Regular self D κ now) init events)
    (hrun : (link self charset).run init events = some s)
    (hstarted : s.service.reader ≠ .notStarted) :
    ∃ first second read pending,
      (link self charset).outputs begun init events =
        .reply first :: .reply second :: (read ++ pending) ∧
      topics s.service = read.flatMap (topic charset) ∧
      (s.stream.writeMutex = none → s.received = s.stream.delivered.length →
        s.reader.readLine s.ended = none → pending = []) :=
  (follows_of_run hmeets hrun).exists_read hstarted

/-! ## One alert -/

/-- The replies to LOGIN and OPERATOR_IDENTIFY, and an alert. -/
def someMessages : List Sending :=
  [.reply (.lit "OK ROLE_operator\r\n"), .reply (.lit "OK OPERATOR_CONNECTED\r\n"),
    .alert (.lit "ALERTA s1,temperature,60.00,C\r\n")]

/-- Handler 0 answers the handshake, the second reply in two parts; handler 1 builds its own reply
and broadcasts, and the alert arrives in two parts. -/
def oneAlert : List (Event ℕ) :=
  [.server (.build 0 (.lit "OK ROLE_operator\r\n")), .server (.lockForReply .respBuf),
    .server (.sendReply 18), .server (.unlock 0),
    .server (.build 0 (.lit "OK OPERATOR_CONNECTED\r\n")), .server (.lockForReply .respBuf),
    .server (.sendReply 3), .server (.sendReply 20), .server (.unlock 0), .receive 41, .readReply,
    .readReply, .client (.connect .accepted), .client .checkRunning,
    .server (.build 1 (.lit "OK MEASUREMENT_RECEIVED\r\n")),
    .server (.lockOperators 1 (.lit "ALERTA s1,temperature,60.00,C\r\n")),
    .server (.lockForAlert 1), .server (.sendAlert 1 31), .server (.unlock 1),
    .server (.unlockOperators 1), .receive 30, .readLine, .receive 1]

/-- The steps of this run: known messages, and what is sent is what was to be sent. -/
def isKnown (s : State ℕ) : Event ℕ → Bool
  | .server (.sendAlert i accepted) =>
    match s.stream.phase i with
    | .alerting text => accepted = text.length
    | _ => true
  | .server (.sendReply accepted) =>
    match s.stream.phase 0 with
    | .replying response text totalSent =>
      s.stream.sent response totalSent accepted = (text.bytes.drop totalSent).take accepted
    | _ => true
  | .server event => (begins s.stream event).all (· ∈ someMessages)
  | _ => true

def operatorEnv : Env := ⟨0, fun _ ↦ 0, some fun _ ↦ ascii "ROLE:operator\n"⟩

theorem spoken_someMessages : ∀ sending ∈ someMessages, Spoken ℚ ℕ 0 sending := by
  have hinit : (Server.HandleClient.server ℚ ℕ).Reachable (serverInit 0) (serverInit 0) :=
    Labelled.Reachable.refl _ _
  obtain ⟨s, hrun, hs⟩ : ∃ s, (Server.HandleClient.server ℚ ℕ).run (serverInit 0)
      [.request sensorEnv ⟨5, 0⟩ registerChunk] = some s ∧
        (respond sensorEnv ⟨5, 0⟩ (measurementChunk 1) s).broadcast =
          some (.lit "ALERTA s1,temperature,60.00,C\r\n") :=
    ⟨_, rfl, by decide +kernel⟩
  simp only [someMessages, List.forall_mem_cons, List.not_mem_nil, false_implies, implies_true,
    and_true]
  refine ⟨⟨_, hinit, operatorEnv, ⟨5, 0⟩,
      ⟨ascii "LOGIN op secret\r\n", by decide, by decide⟩, by decide +kernel, trivial⟩,
    ⟨_, hinit, operatorEnv, ⟨5, 0⟩,
      ⟨ascii "OPERATOR_IDENTIFY\r\n", by decide, by decide⟩, by decide +kernel, trivial⟩,
    ⟨s, ⟨_, hrun⟩, sensorEnv, ⟨5, 0⟩, measurementChunk 1, hs⟩, by decide⟩

theorem regular_of_isKnown (s : State ℕ) (event : Event ℕ) (h : isKnown s event = true) :
    Regular 0 ℚ ℕ 0 s event := by
  cases event with
  | server event =>
    cases event with
    | sendAlert i accepted =>
      refine ⟨fun text hphase ↦ ?_, nofun⟩
      simpa [isKnown, hphase] using h
    | sendReply accepted =>
      refine ⟨fun response text totalSent hphase ↦ ?_, nofun⟩
      simpa [isKnown, hphase] using h
    | _ =>
      refine ⟨trivial, fun sending hmem ↦ spoken_someMessages sending ?_⟩
      exact of_decide_eq_true (List.all_eq_true.mp h sending hmem)
  | _ => exact trivial

theorem published_of_run_one_alert :
    ∃ s, (link 0 Charset.usAscii).run init oneAlert = some s ∧
      topics s.service = [.alert "ALERTA s1,temperature,60.00,C".toList] ∧
      ∃ first second read pending,
        (link 0 Charset.usAscii).outputs begun init oneAlert =
          .reply first :: .reply second :: (read ++ pending) ∧
        topics s.service = read.flatMap (topic Charset.usAscii) ∧
        (s.stream.writeMutex = none → s.received = s.stream.delivered.length →
          s.reader.readLine s.ended = none → pending = []) := by
  obtain ⟨s, hrun, hs⟩ : ∃ s, (link 0 Charset.usAscii).run init oneAlert = some s ∧
      (s.service.reader, topics s.service) =
        (.checking, [.alert "ALERTA s1,temperature,60.00,C".toList]) :=
    Option.map_eq_some_iff.mp (by decide +kernel)
  obtain ⟨hreader, htopics⟩ := Prod.mk.inj hs
  have hknown : (link 0 Charset.usAscii).Meets (fun s event ↦ isKnown s event = true) init
      oneAlert := by decide +kernel
  have hmeets := hknown.imp regular_of_isKnown
  exact ⟨s, hrun, htopics, published_of_run hmeets hrun (by rw [hreader]; nofun)⟩

end IotMonitoring.Operator.Link
