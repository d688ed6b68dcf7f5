import IotMonitoring.Sensors.Answers
import IotMonitoring.Sensors.RunLoop
import IotMonitoring.Server.Threads

/-!
# A sensor and its server

The loop of one sensor beside the shared data of the server, which the calls of other handlers may
change at any time, with any arguments. A message that fits into the buffer of the server is read
whole and answered once, and the answer is read whole. The handler may read anything as the message,
since the tokenizer is shared, and may send anything, since the buffer of the replies is shared.
When it reads its own message and sends its own reply, what the sensor is answered depends on its id
alone, except that the table may be full. The connection may fail between any two calls.
-/

namespace IotMonitoring.Sensors.SensorBase

open Text Machine
open Server (CDouble)
open Server.Protocol hiding isSpace
open Server.SensorManager Server.HandleClient
open Auth.AuthServer (PyString encode)

variable {D κ : Type}

/-- What is on the connection of the sensor. -/
inductive Wire where
  | idle
  | request (message : PyString)
  | reply (data : Bytes)
deriving DecidableEq

/-- The message that the server can receive. -/
def Wire.message : Wire → Option PyString
  | request message => some message
  | idle | reply _ => none

/-- The connection after some actions of the sensor. -/
def Wire.after (wire : Wire) (acts : List Action) : Wire :=
  match acts.getLast? with
  | none => wire
  | some (.sent _ message) => .request message
  | some _ => .idle

/-- Data is received when it is on the connection; a connection may end at any time. -/
def Wire.delivers (wire : Wire) : Event → Bool
  | .recv (some data) => data = [] ∨ wire = .reply data
  | _ => true

structure Session (D κ : Type) where
  loop : Loop
  wire : Wire
  server : ServerState D κ

/-- A call of the sensor, an iteration of its handler with what it reads as the message and sends as
the reply, or any other call of a handler. The second update of a MEASUREMENT belongs to the
iteration or is left to the other calls. -/
inductive SessionEvent (κ : Type) where
  | sensor (event : Event)
  | serve (env : Env) (client : Client κ) (parsed : Parsed) (whole : Bool) (reply : Bytes)
  | other (call : HandlerCall κ)

/-- What the handler calls for its message. -/
def treatment (env : Env) (client : Client κ) (parsed : Parsed) (whole : Bool) : HandlerCall κ :=
  if whole then .command env client parsed else .store env parsed.args

section Machine

variable [CDouble D]

/-- The handler receives the message on the connection and answers. -/
def Session.serve (env : Env) (client : Client κ) (parsed : Parsed) (whole : Bool) (reply : Bytes)
    (s : Session D κ) : Option (Session D κ) :=
  match s.wire with
  | .request message =>
    if 0 < (sendBytes message).length ∧ (sendBytes message).length < maxBufferSize then
      ((threads D κ).step s.server (treatment env client parsed whole)).map fun later ↦
        ⟨s.loop, .reply reply, later⟩
    else none
  | _ => none

def session (config : Config) : Labelled (Session D κ) (SessionEvent κ) where
  step s event :=
    match event with
    | .sensor event =>
      if s.wire.delivers event then
        (s.loop.perform config event).map fun result ↦
          ⟨result.1, s.wire.after result.2, s.server⟩
      else none
    | .serve env client parsed whole reply => s.serve env client parsed whole reply
    | .other call => ((threads D κ).step s.server call).map fun later ↦ ⟨s.loop, s.wire, later⟩

/-- The handler of the sensor reads the message that it has received, and sends the reply that it
has built. -/
def Isolated (s : Session D κ) : SessionEvent κ → Prop
  | .serve env client parsed whole reply => ∀ message ∈ s.wire.message,
      ∀ h : 0 < (sendBytes message).length ∧ (sendBytes message).length < maxBufferSize,
        let chunk : Chunk := ⟨sendBytes message, h.1, h.2⟩
        parsed = ownParse chunk ∧ (whole = false → parsed.type = .measurement) ∧
          reply = (respond env client chunk s.server).response.text.bytes
  | .sensor _ | .other _ => True

instance decidableIsolated (s : Session D κ) : ∀ event, Decidable (Isolated s event)
  | .serve env client parsed whole reply =>
    inferInstanceAs (Decidable (∀ message ∈ s.wire.message,
      ∀ h : 0 < (sendBytes message).length ∧ (sendBytes message).length < maxBufferSize,
        let chunk : Chunk := ⟨sendBytes message, h.1, h.2⟩
        parsed = ownParse chunk ∧ (whole = false → parsed.type = .measurement) ∧
          reply = (respond env client chunk s.server).response.text.bytes))
  | .sensor _ | .other _ => instDecidableTrue

/-- The actions of the sensor in one event. -/
def sessionActions (config : Config) (s : Session D κ) : SessionEvent κ → List Action
  | .sensor event => actions config s.loop event
  | .serve .. | .other _ => []

end Machine

/-! ## Answers -/

variable (config : Config)

/-- The answers to the messages of the sensor, after the actions so far. -/
inductive Expected (shown : List Action) : PyString → PyString → Prop where
  | noType (hline : config.sensorId.getLast? = some '\n') :
    Expected shown (registerMessage config.sensorId config.sensorType) typeMissing
  | accepted (hline : config.sensorId.getLast? ≠ some '\n') :
    Expected shown (registerMessage config.sensorId config.sensorType) registered
  | full (hline : config.sensorId.getLast? ≠ some '\n')
    (hfirst : config.sensorId.length ≤ 31 → ∀ fd, .received fd registered ∉ shown) :
    Expected shown (registerMessage config.sensorId config.sensorType) tableFull
  | measured (value : Number) (timestamp : ℤ) (hline : config.sensorId.getLast? ≠ some '\n')
    (hlength : config.sensorId.length ≤ 31) :
    Expected shown (measurementMessage config.sensorId value (unitMap config.sensorType).toList
      timestamp) measurementReceived
  | unknown (value : Number) (timestamp : ℤ) (hline : config.sensorId.getLast? ≠ some '\n')
    (hlength : 31 < config.sensorId.length) :
    Expected shown (measurementMessage config.sensorId value (unitMap config.sensorType).toList
      timestamp) notRegistered

/-- Every response answers the message before it. -/
def Answered (shown : List Action) : Prop :=
  ∀ front fd response rest, shown = front ++ .received fd response :: rest →
    ∃ before message, front = before ++ [.sent fd message] ∧
      Expected config before message response

/-- The id of the sensor is in the table, if it fits into a slot. -/
def Stored (s : ServerState D κ) : Prop :=
  config.sensorId.length ≤ 31 → ∀ sensorId : CString, sensorId.bytes = encode config.sensorId →
    ∃ i, findSensor s.sensors sensorId = some i

/-- What holds of a session and the actions of its sensor so far. -/
structure Attuned (shown : List Action) (s : Session D κ) : Prop where
  conversing : Conversing config shown s.loop
  answered : Answered config shown
  legible : ∀ fd data, .garbled fd data ∉ shown
  requested : ∀ message, s.wire = .request message →
    ∃ fd, shown.getLast? = some (.sent fd message)
  replied : ∀ data, s.wire = .reply data → ∃ before fd message response,
    shown = before ++ [.sent fd message] ∧ recv data = .ok response ∧
      Expected config before message response ∧ (response = registered → Stored config s.server)
  stored : ∀ fd, .received fd registered ∈ shown → Stored config s.server

variable {config}

theorem Stored.of_grow {s t : ServerState D κ} (h : Stored config s)
    (hgrow : directory s.sensors <+: directory t.sensors) : Stored config t := by
  intro hlength sensorId hid
  obtain ⟨i, hfind⟩ := h hlength sensorId hid
  exact ⟨i, findSensor_of_grow hgrow hfind⟩

/-! ## Actions -/

/-- An action that receives nothing. -/
def Silent (action : Action) : Prop :=
  (∃ fd, action = .opened fd) ∨ (∃ fd, action = .closed fd) ∨
    ∃ fd message, action = .sent fd message

theorem silent_disconnect (loop : Loop) (phase : Phase) :
    ∀ action ∈ (loop.disconnect phase).2, ∃ fd, action = .closed fd := by
  simp only [Loop.disconnect, List.mem_map]
  rintro action ⟨fd, -, rfl⟩
  exact ⟨fd, rfl⟩

theorem silent_networkError (loop : Loop) : ∀ action ∈ loop.networkError.2, Silent action :=
  fun action haction ↦ .inr (.inl (silent_disconnect loop .retrying action haction))

/-- What the sensor receives in one call. -/
def Receives (loop : Loop) (data : Bytes) (acts : List Action) : Prop :=
  data ≠ [] ∧ (loop.phase = .awaitingRegistration ∨ loop.phase = .awaitingReply) ∧
    (recv data = .error .value ∧ acts = loop.sock.toList.map (.garbled · data) ∨
      ∃ response tail, recv data = .ok response ∧
        acts = loop.sock.toList.map (.received · response) ++ tail ∧
        ∀ action ∈ tail, ∃ fd, action = .closed fd)

theorem receive_cases (loop : Loop) (data : Option Bytes) {next : PyString → Loop × List Action}
    (hphase : loop.phase = .awaitingRegistration ∨ loop.phase = .awaitingReply)
    (hnext : ∀ response, ∀ action ∈ (next response).2, ∃ fd, action = .closed fd) :
    (∀ action ∈ (loop.receive data next).2, Silent action) ∨
      ∃ bytes, data = some bytes ∧ Receives loop bytes (loop.receive data next).2 := by
  unfold Loop.receive
  split
  · exact .inl (silent_networkError loop)
  · rename_i bytes
    split
    · exact .inl (silent_networkError loop)
    · rename_i hrecv
      refine .inr ⟨bytes, rfl, ?_, hphase, .inl ⟨hrecv, rfl⟩⟩
      rintro rfl
      cases hrecv
    · rename_i response hrecv
      refine .inr ⟨bytes, rfl, ?_, hphase, .inr ⟨response, _, hrecv, rfl, hnext response⟩⟩
      rintro rfl
      cases hrecv

/-- One call receives nothing, or it is a `recv` while a response is awaited. -/
theorem perform_cases {loop : Loop} {event : Event} {result : Loop × List Action}
    (hstep : loop.perform config event = some result) :
    (∀ action ∈ result.2, Silent action) ∨
      ∃ data, event = .recv (some data) ∧ Receives loop data result.2 := by
  unfold Loop.perform at hstep
  split at hstep
  · cases hstep
  · cases hstep
  · rw [← Option.some.inj hstep]
    exact .inl fun action haction ↦ .inr (.inl (silent_disconnect loop .stopped action haction))
  · rw [← Option.some.inj hstep]
    exact .inl (silent_networkError loop)
  · rw [← Option.some.inj hstep]
    exact .inl (List.forall_mem_singleton.mpr (.inl ⟨_, rfl⟩))
  · rw [← Option.some.inj hstep]
    split
    · exact .inl nofun
    · exact .inl (silent_networkError loop)
  · rw [← Option.some.inj hstep]
    split
    · refine .inl fun action haction ↦ ?_
      obtain ⟨fd, -, rfl⟩ := List.mem_map.mp haction
      exact .inr (.inr ⟨fd, _, rfl⟩)
    · exact .inl (silent_networkError loop)
  · rename_i data hphase
    rw [← Option.some.inj hstep]
    refine (receive_cases loop data (.inl hphase) fun response ↦ ?_).imp_right ?_
    · split
      · exact nofun
      · exact silent_disconnect loop .retrying
    · rintro ⟨bytes, rfl, hreceives⟩
      exact ⟨bytes, rfl, hreceives⟩
  · rename_i value timestamp sent hphase
    dsimp only at hstep
    split at hstep
    · rw [← Option.some.inj hstep]
      exact .inl nofun
    · rw [← Option.some.inj hstep]
      split
      · refine .inl fun action haction ↦ ?_
        obtain ⟨fd, -, rfl⟩ := List.mem_map.mp haction
        exact .inr (.inr ⟨fd, _, rfl⟩)
      · exact .inl (silent_networkError loop)
  · rename_i data hphase
    rw [← Option.some.inj hstep]
    refine (receive_cases loop data (.inr hphase) fun response action haction ↦
      absurd haction List.not_mem_nil).imp_right ?_
    rintro ⟨bytes, rfl, hreceives⟩
    exact ⟨bytes, rfl, hreceives⟩
  · rw [← Option.some.inj hstep]
    exact .inl nofun
  · rw [← Option.some.inj hstep]
    exact .inl nofun
  · cases hstep

/-! ## The connection -/

theorem Wire.after_eq_request {wire : Wire} {acts : List Action} {message : PyString}
    (h : wire.after acts = .request message) :
    acts = [] ∧ wire = .request message ∨ ∃ fd, acts.getLast? = some (.sent fd message) := by
  unfold Wire.after at h
  split at h
  · rename_i hnone
    exact .inl ⟨List.getLast?_eq_none_iff.mp hnone, h⟩
  · rename_i fd message' hlast
    cases h
    exact .inr ⟨fd, hlast⟩
  · cases h

theorem Wire.after_eq_reply {wire : Wire} {acts : List Action} {data : Bytes}
    (h : wire.after acts = .reply data) : acts = [] ∧ wire = .reply data := by
  unfold Wire.after at h
  split at h
  · rename_i hnone
    exact ⟨List.getLast?_eq_none_iff.mp hnone, h⟩
  · cases h
  · cases h

/-! ## Single actions -/

theorem Answered.append_silent {shown acts : List Action} (h : Answered config shown)
    (hacts : ∀ action ∈ acts, ∀ fd response, action ≠ .received fd response) :
    Answered config (shown ++ acts) := by
  intro front fd response rest heq
  obtain ⟨between, hfront, hacts'⟩ | ⟨between, hshown, hrest⟩ := List.append_eq_append_iff.mp heq
  · refine absurd rfl (hacts (.received fd response) ?_ fd response)
    rw [hacts']
    exact List.mem_append_right between List.mem_cons_self
  · cases between with
    | nil =>
      refine absurd rfl (hacts (.received fd response) ?_ fd response)
      rw [List.nil_append] at hrest
      exact hrest ▸ List.mem_cons_self
    | cons action between =>
      obtain ⟨rfl, -⟩ := List.cons.inj hrest
      exact h front fd response between hshown

theorem Answered.append_received {before : List Action} {fd : ℤ} {message response : PyString}
    (h : Answered config (before ++ [.sent fd message]))
    (hexpected : Expected config before message response) :
    Answered config (before ++ [.sent fd message] ++ [.received fd response]) := by
  intro front fd' response' rest heq
  obtain rfl | ⟨others, last, rfl⟩ := List.eq_nil_or_concat rest
  · obtain ⟨rfl, hlast⟩ := List.append_inj' heq rfl
    obtain ⟨rfl, rfl⟩ := Action.received.inj (List.cons.inj hlast).1
    exact ⟨before, message, rfl, hexpected⟩
  · rw [List.concat_eq_append, ← List.cons_append, ← List.append_assoc] at heq
    obtain ⟨heq', -⟩ := List.append_inj' heq rfl
    exact h front fd' response' others heq'

/-- The connection of the last message is the present one. -/
theorem Conversing.sock_of_awaiting {before : List Action} {fd : ℤ} {message : PyString}
    {loop : Loop} (h : Conversing config (before ++ [.sent fd message]) loop)
    (hphase : loop.phase = .awaitingRegistration ∨ loop.phase = .awaitingReply) :
    loop.sock = some fd := by
  obtain hphase | hphase := hphase
  · obtain ⟨fd', front, hsock, hshown⟩ := by simpa only [Stands, hphase] using h.stands
    have hsplit : before ++ [.sent fd message] = front ++ [.opened fd'] ++
        [.sent fd' (registerMessage config.sensorId config.sensorType)] := by simp [hshown]
    obtain ⟨-, hlast⟩ := List.append_inj' hsplit rfl
    obtain ⟨rfl, -⟩ := Action.sent.inj (List.cons.inj hlast).1
    exact hsock
  · obtain ⟨fd', hsock, front, response, rest, hshown, -, hrest⟩ := by
      simpa only [Stands, hphase] using h.stands
    obtain rfl | ⟨others, last, rfl⟩ := List.eq_nil_or_concat rest
    · have hlast := congrArg List.getLast? hshown
      simp at hlast
    · rw [List.concat_eq_append] at hshown hrest
      rw [← List.append_assoc] at hshown
      obtain ⟨-, hlast⟩ := List.append_inj' hshown rfl
      obtain ⟨text, heq⟩ := hrest last (by simp)
      rw [← (List.cons.inj hlast).1] at heq
      obtain heq | heq := heq
      · obtain ⟨rfl, -⟩ := Action.sent.inj heq
        exact hsock
      · cases heq

theorem registerMessage_ne (sensorId : PyString) (type : SensorType) (value : Number)
    (timestamp : ℤ) : registerMessage sensorId type ≠
      measurementMessage sensorId value (unitMap type).toList timestamp := by
  have hregister : (registerMessage sensorId type).head? = some 'R' := rfl
  have hmeasurement : (measurementMessage sensorId value (unitMap type).toList timestamp).head? =
      some 'M' := rfl
  intro heq
  rw [heq, hmeasurement] at hregister
  exact absurd hregister (by decide)

/-- A sensor that has been registered got the one response that accepts it. -/
theorem Answered.of_registered {fd : ℤ} {shown : List Action} (h : Answered config shown)
    (hregistered : Registered config fd shown) :
    .received fd registered ∈ shown ∧ config.sensorId.getLast? ≠ some '\n' := by
  obtain ⟨front, response, rest, rfl, hok, -⟩ := hregistered
  have hsplit : front ++ [.opened fd, .sent fd (registerMessage config.sensorId config.sensorType),
      .received fd response] ++ rest = (front ++ [.opened fd,
        .sent fd (registerMessage config.sensorId config.sensorType)]) ++
        .received fd response :: rest := by simp
  obtain ⟨before, message, hfront, hexpected⟩ := h _ fd response rest hsplit
  cases hexpected with
  | noType => exact absurd hok (by decide)
  | accepted hline => exact ⟨by simp, hline⟩
  | full => exact absurd hok (by decide)
  | measured value timestamp =>
    have hlast := congrArg List.getLast? hfront
    rw [List.getLast?_append, List.getLast?_append] at hlast
    obtain ⟨-, hmessage⟩ := Action.sent.inj (Option.some.inj hlast)
    exact absurd hmessage (registerMessage_ne config.sensorId config.sensorType value timestamp)
  | unknown => exact absurd hok (by decide)

/-! ## Steps -/

/-- A call of the sensor that receives nothing. -/
theorem Attuned.append_silent {shown : List Action} {s : Session D κ} {result : Loop × List Action}
    (h : Attuned config shown s) (hconversing : Conversing config (shown ++ result.2) result.1)
    (hsilent : ∀ action ∈ result.2, Silent action) :
    Attuned config (shown ++ result.2) ⟨result.1, s.wire.after result.2, s.server⟩ := by
  have hquiet : ∀ action ∈ result.2, ∀ fd response, action ≠ .received fd response := by
    rintro _ haction fd response rfl
    obtain ⟨_, hcase⟩ | ⟨_, hcase⟩ | ⟨_, _, hcase⟩ := hsilent _ haction <;> cases hcase
  refine ⟨hconversing, h.answered.append_silent hquiet, ?_, ?_, ?_, ?_⟩
  · intro fd data hmem
    obtain hmem | hmem := List.mem_append.mp hmem
    · exact h.legible fd data hmem
    · obtain ⟨_, hcase⟩ | ⟨_, hcase⟩ | ⟨_, _, hcase⟩ := hsilent _ hmem <;> cases hcase
  · intro message hwire
    obtain ⟨hnil, hbefore⟩ | ⟨fd, hlast⟩ := Wire.after_eq_request hwire
    · rw [hnil, List.append_nil]
      exact h.requested message hbefore
    · exact ⟨fd, by rw [List.getLast?_append, hlast]; rfl⟩
  · intro data hwire
    obtain ⟨hnil, hbefore⟩ := Wire.after_eq_reply hwire
    rw [hnil, List.append_nil]
    exact h.replied data hbefore
  · intro fd hmem
    obtain hmem | hmem := List.mem_append.mp hmem
    · exact h.stored fd hmem
    · exact absurd rfl (hquiet _ hmem fd registered)

/-- A response empties the connection, whether the sensor closes it then or not. -/
theorem Wire.after_received (wire : Wire) (fd : ℤ) (response : PyString) {tail : List Action}
    (htail : ∀ action ∈ tail, ∃ fd, action = .closed fd) :
    wire.after (.received fd response :: tail) = .idle := by
  have hne : Action.received fd response :: tail ≠ [] := List.cons_ne_nil _ _
  have hmem := List.getLast_mem hne
  rw [Wire.after, List.getLast?_eq_some_getLast hne]
  obtain hlast | hmem := List.mem_cons.mp hmem
  · rw [hlast]
  · obtain ⟨fd', hlast⟩ := htail _ hmem
    rw [hlast]

/-- The response on the connection answers the last message. -/
theorem Attuned.append_received {shown : List Action} {s : Session D κ} {data : Bytes}
    {result : Loop × List Action} (h : Attuned config shown s)
    (hconversing : Conversing config (shown ++ result.2) result.1) (hwire : s.wire = .reply data)
    (hreceives : Receives s.loop data result.2) :
    Attuned config (shown ++ result.2) ⟨result.1, s.wire.after result.2, s.server⟩ := by
  obtain ⟨before, fd, message, response, rfl, hrecv, hexpected, hstored⟩ := h.replied data hwire
  obtain ⟨-, hphase, ⟨hgarbled, -⟩ | ⟨response', tail, hrecv', hacts, htail⟩⟩ := hreceives
  · rw [hrecv] at hgarbled
    cases hgarbled
  · rw [hrecv] at hrecv'
    obtain rfl := Except.ok.inj hrecv'
    rw [h.conversing.sock_of_awaiting hphase, Option.toList_some, List.map_singleton] at hacts
    have hreceived : Answered config (before ++ [.sent fd message] ++ [.received fd response]) :=
      h.answered.append_received hexpected
    have hquiet : ∀ action ∈ tail, ∀ fd response, action ≠ .received fd response := by
      rintro _ haction fd response rfl
      obtain ⟨_, hcase⟩ := htail _ haction
      cases hcase
    have hidle : s.wire.after result.2 = .idle :=
      hacts ▸ Wire.after_received s.wire fd response htail
    rw [hidle]
    rw [hacts, ← List.append_assoc] at hconversing ⊢
    refine ⟨hconversing, hreceived.append_silent hquiet, ?_, nofun, nofun, ?_⟩
    · intro fd' data' hmem
      obtain hmem | hmem := List.mem_append.mp hmem
      · exact h.legible fd' data' (by simpa using hmem)
      · obtain ⟨_, hcase⟩ := htail _ hmem
        cases hcase
    · intro fd' hmem
      obtain hmem | hmem := List.mem_append.mp hmem
      · obtain hmem | hmem := List.mem_append.mp hmem
        · exact h.stored fd' hmem
        · exact hstored (Action.received.inj (List.mem_singleton.mp hmem)).2.symm
      · exact absurd rfl (hquiet _ hmem fd' registered)

/-- A call of the sensor. -/
theorem Attuned.sensor {shown : List Action} {s : Session D κ} {event : Event}
    {result : Loop × List Action} (h : Attuned config shown s)
    (hdelivers : s.wire.delivers event) (hstep : s.loop.perform config event = some result) :
    Attuned config (shown ++ result.2) ⟨result.1, s.wire.after result.2, s.server⟩ := by
  have hconversing := h.conversing.perform hstep
  obtain hsilent | ⟨data, rfl, hreceives⟩ := perform_cases hstep
  · exact h.append_silent hconversing hsilent
  · have hwire : s.wire = .reply data := by simpa [Wire.delivers, hreceives.1] using hdelivers
    exact h.append_received hconversing hwire hreceives

/-- The id that the client accepts is a name, or a name and a newline. -/
theorem exists_name (hid : idPatternMatch config.sensorId) :
    ∃ name, VisibleText name ∧ name.length ≤ 32 ∧
      (config.sensorId = name ∧ config.sensorId.getLast? ≠ some '\n' ∨
        config.sensorId = name ++ ['\n']) := by
  obtain ⟨name, hne, hlength, hall, hid⟩ := idPatternMatch_iff.mp hid
  refine ⟨name, ⟨hne, fun c hc ↦ visible_of_isIdChar (hall c hc)⟩, hlength, hid.imp_left ?_⟩
  rintro rfl
  refine ⟨rfl, fun hnewline ↦ ?_⟩
  exact absurd (hall _ (List.mem_of_getLast? hnewline)) (by decide)

variable [CDouble D]

omit [CDouble D] in
theorem type_registerMessage (hid : idPatternMatch config.sensorId) {chunk : Chunk}
    (hchunk : chunk.bytes = sendBytes (registerMessage config.sensorId config.sensorType)) :
    chunk.message.type = .registerSensor := by
  obtain ⟨name, hname, -, ⟨rfl, -⟩ | hnewline⟩ := exists_name hid
  · obtain ⟨sensorId, hbytes, -⟩ := exists_idString hname
    exact (args_registerMessage hname hchunk hbytes).1
  · rw [hnewline] at hchunk
    exact (args_registerMessage_newline hname hchunk).1

/-- A registration is answered as the id and the table say, and stores the id when it is
accepted. -/
theorem expected_register {before : List Action} {s : ServerState D κ}
    (hid : idPatternMatch config.sensorId)
    (hstored : ∀ fd, .received fd registered ∈ before → Stored config s) {chunk : Chunk}
    (hchunk : chunk.bytes = sendBytes (registerMessage config.sensorId config.sensorType))
    (env : Env) (client : Client κ) :
    ∃ response, recv (respond env client chunk s).response.text.bytes = .ok response ∧
      Expected config before (registerMessage config.sensorId config.sensorType) response ∧
      (response = registered → Stored config (respond env client chunk s).state) := by
  obtain ⟨name, hname, hlength, ⟨rfl, hline⟩ | hnewline⟩ := exists_name hid
  · obtain ⟨sensorId, hbytes, hsize⟩ := exists_idString hname
    obtain ⟨typeText, hrespond⟩ :=
      respond_registerMessage hname hchunk hbytes env client s
    rw [hrespond]
    by_cases hzero : (register env.time typeText sensorId s.sensors).2 = 0
    · simp only [registerSensor, if_pos hzero]
      refine ⟨registered, recv_registered, .accepted hline, fun _ hfits sensorId' hbytes' ↦ ?_⟩
      obtain rfl : sensorId' = sensorId := CString.ext (hbytes'.trans hbytes.symm)
      exact findSensor_register hzero (hsize.trans_le hfits)
    · simp only [registerSensor, if_neg hzero]
      refine ⟨tableFull, recv_tableFull, .full hline fun hfits fd hmem ↦ hzero ?_,
        fun heq ↦ absurd heq (by decide)⟩
      obtain ⟨i, hfind⟩ := hstored fd hmem hfits sensorId hbytes
      simp only [register, hfind]
  · rw [hnewline] at hchunk
    rw [respond_registerMessage_newline hname hchunk]
    exact ⟨typeMissing, recv_typeMissing, .noType (by simp [hnewline]),
      fun heq ↦ absurd heq (by decide)⟩

/-- A measurement is answered as the length of the id says. -/
theorem expected_measurement {before : List Action} {s : ServerState D κ}
    (hid : idPatternMatch config.sensorId) (hline : config.sensorId.getLast? ≠ some '\n')
    (hstored : Stored config s) {value : Number} {timestamp : ℤ} {chunk : Chunk}
    (hchunk : chunk.bytes = sendBytes (measurementMessage config.sensorId value
      (unitMap config.sensorType).toList timestamp)) (env : Env) (client : Client κ) :
    ∃ response, recv (respond env client chunk s).response.text.bytes = .ok response ∧
      Expected config before (measurementMessage config.sensorId value
        (unitMap config.sensorType).toList timestamp) response ∧ response ≠ registered := by
  obtain ⟨name, hname, hlength, ⟨rfl, -⟩ | hnewline⟩ := exists_name hid
  · obtain ⟨sensorId, hbytes, hsize⟩ := exists_idString hname
    obtain ⟨valueText, unit, time, -, -, hrespond⟩ :=
      respond_measurementMessage hname hchunk hbytes env client s
    rw [hrespond]
    by_cases hfits : config.sensorId.length ≤ 31
    · obtain ⟨i, hfind⟩ := hstored hfits sensorId hbytes
      rw [measurement_of_findSensor env valueText unit [time] hfind]
      exact ⟨measurementReceived, recv_measurementReceived, .measured value timestamp hline hfits,
        by decide⟩
    · have hlong : 31 < sensorId.length := hsize ▸ not_le.mp hfits
      rw [measurement_of_findSensor_eq_none env valueText unit [time]
        (findSensor_of_long hlong s.sensors)]
      exact ⟨notRegistered, recv_notRegistered, .unknown value timestamp hline (not_le.mp hfits),
        by decide⟩
  · simp [hnewline] at hline

/-- An isolated iteration of the handler. -/
theorem Attuned.serve {shown : List Action} {s t : Session D κ}
    (hid : idPatternMatch config.sensorId) (h : Attuned config shown s) {env : Env}
    {client : Client κ} {parsed : Parsed} {whole : Bool} {reply : Bytes}
    (hisolated : Isolated s (.serve env client parsed whole reply))
    (hstep : s.serve env client parsed whole reply = some t) : Attuned config shown t := by
  unfold Session.serve at hstep
  split at hstep
  · rename_i message hwire
    obtain ⟨hsize, hstep⟩ := Option.ite_none_right_eq_some.mp hstep
    obtain ⟨later, hcall, rfl⟩ := Option.map_eq_some_iff.mp hstep
    have hgrow := directory_call hcall
    have hmessage : s.wire.message = some message := by rw [hwire, Wire.message]
    obtain ⟨rfl, hpart, rfl⟩ := hisolated message hmessage hsize
    have hlater (hwhole : whole = true) :
        (respond env client ⟨sendBytes message, hsize.1, hsize.2⟩ s.server).state = later := by
      rw [treatment, if_pos hwhole] at hcall
      rw [respond_eq]
      exact Option.some.inj hcall
    obtain ⟨fd, hlast⟩ := h.requested message hwire
    obtain ⟨before, rfl⟩ := List.getLast?_eq_some_iff.mp hlast
    refine ⟨h.conversing, h.answered, h.legible, nofun, ?_, fun fd' hmem ↦
      (h.stored fd' hmem).of_grow hgrow⟩
    rintro data ⟨⟩
    obtain ⟨rfl, -⟩ | ⟨value, timestamp, response, rfl, -, hregistered, -⟩ :=
      h.conversing.proper before fd message [] rfl
    · have hchunk : (Chunk.mk _ hsize.1 hsize.2).bytes =
        sendBytes (registerMessage config.sensorId config.sensorType) := rfl
      obtain ⟨response, hrecv, hexpected, hstored⟩ := expected_register hid
        (fun fd' hmem ↦ h.stored fd' (List.mem_append_left _ hmem)) hchunk env client
      -- A registration is one call, whose state is the one of the reply.
      obtain rfl : whole = true := by
        by_contra hwhole
        have htype := hpart (eq_false_of_ne_true hwhole)
        rw [ownParse, type_registerMessage hid hchunk] at htype
        cases htype
      exact ⟨before, fd, _, response, rfl, hrecv, hexpected, hlater rfl ▸ hstored⟩
    · obtain ⟨hmem, hline⟩ := h.answered.of_registered (hregistered.append ⟨_, .inl rfl⟩)
      have hchunk : (Chunk.mk _ hsize.1 hsize.2).bytes = sendBytes (measurementMessage
        config.sensorId value (unitMap config.sensorType).toList timestamp) := rfl
      obtain ⟨response', hrecv, hexpected, hne⟩ := expected_measurement hid hline
        (h.stored fd hmem) hchunk env client
      exact ⟨before, fd, _, response', rfl, hrecv, hexpected, fun heq ↦ absurd heq hne⟩
  · cases hstep

/-- A call of another handler. -/
theorem Attuned.other {shown : List Action} {s : Session D κ} {call : HandlerCall κ}
    {later : ServerState D κ} (h : Attuned config shown s)
    (hstep : (threads D κ).step s.server call = some later) :
    Attuned config shown ⟨s.loop, s.wire, later⟩ := by
  have hgrow := directory_call hstep
  refine ⟨h.conversing, h.answered, h.legible, h.requested, fun data hwire ↦ ?_, fun fd hmem ↦
    (h.stored fd hmem).of_grow hgrow⟩
  obtain ⟨before, fd, message, response, hshown, hrecv, hexpected, hstored⟩ := h.replied data hwire
  exact ⟨before, fd, message, response, hshown, hrecv, hexpected,
    fun heq ↦ (hstored heq).of_grow hgrow⟩

/-- In every run with an isolated handler, whatever other handlers do and wherever connections fail,
each response answers the message before it. The measurements of an id of 32 characters are all
rejected, those of a shorter one are all received; an id that has been accepted is accepted again,
unless it has 32 characters; a sensor that measures is in the table; and none crashes whose
intervals can be waited for. -/
theorem answered_of_session (hid : idPatternMatch config.sensorId) {s : ServerState D κ}
    {events : List (SessionEvent κ)} {t : Session D κ}
    (hmeets : (session config).Meets Isolated ⟨.start, .idle, s⟩ events)
    (hrun : (session config).run ⟨.start, .idle, s⟩ events = some t) :
    Answered config ((session config).outputs (sessionActions config) ⟨.start, .idle, s⟩ events) ∧
      (t.loop.phase ∈ [.measuring, .awaitingReply, .sleeping] →
        config.sensorId.getLast? ≠ some '\n' ∧ Stored config t.server) ∧
      (sleepable config.interval → sleepable config.retryInterval → t.loop.phase ≠ .crashed) := by
  have hstart : Attuned config [] (⟨.start, .idle, s⟩ : Session D κ) := by
    refine ⟨⟨by simp [Proper], ⟨[], rfl⟩, rfl⟩, by simp [Answered], nofun, nofun, nofun, nofun⟩
  have hkeep : ∀ (shown : List Action) (s : Session D κ) event t, Attuned config shown s →
      Isolated s event → (session config).step s event = some t →
      Attuned config (shown ++ sessionActions config s event) t := by
    intro shown s event t hs hisolated hstep
    cases event with
    | sensor event =>
      obtain ⟨hdelivers, hstep⟩ := Option.ite_none_right_eq_some.mp hstep
      obtain ⟨result, hresult, rfl⟩ := Option.map_eq_some_iff.mp hstep
      have hafter := hs.sensor hdelivers hresult
      simpa only [sessionActions, actions, hresult, Option.map_some, Option.getD_some] using hafter
    | serve env client parsed whole reply =>
      rw [sessionActions, List.append_nil]
      exact hs.serve hid hisolated hstep
    | other call =>
      obtain ⟨later, hlater, rfl⟩ := Option.map_eq_some_iff.mp hstep
      rw [sessionActions, List.append_nil]
      exact hs.other hlater
  have hend := Labelled.inv_of_meets_outputs _ hkeep hstart hmeets hrun
  rw [List.nil_append] at hend
  have hregistered : t.loop.phase ∈ [.measuring, .awaitingReply, .sleeping] → ∃ fd,
      Registered config fd
        ((session config).outputs (sessionActions config) ⟨.start, .idle, s⟩ events) := by
    intro hphase
    have hstands := hend.conversing.stands
    simp only [List.mem_cons, List.not_mem_nil, or_false] at hphase
    obtain hphase | hphase | hphase := hphase
    · obtain ⟨fd, response, -, hregistered, -⟩ := by simpa only [Stands, hphase] using hstands
      exact ⟨fd, hregistered⟩
    · obtain ⟨fd, -, hregistered⟩ := by simpa only [Stands, hphase] using hstands
      exact ⟨fd, hregistered⟩
    · obtain ⟨fd, response, -, hregistered, -⟩ := by simpa only [Stands, hphase] using hstands
      exact ⟨fd, hregistered⟩
  refine ⟨hend.answered, fun hphase ↦ ?_, fun hinterval hretry hcrashed ↦ ?_⟩
  · obtain ⟨fd, hfd⟩ := hregistered hphase
    obtain ⟨hmem, hline⟩ := hend.answered.of_registered hfd
    exact ⟨hline, hend.stored fd hmem⟩
  · obtain ⟨fd, -, hbad | hlong | ⟨data, hmem, -⟩⟩ | ⟨-, hlong⟩ := by
      simpa only [Stands, hcrashed] using hend.conversing.stands
    · exact hbad hid
    · exact absurd hinterval (by simp [hlong])
    · exact hend.legible fd data hmem
    · exact absurd hretry (by simp [hlong])

/-- Two sensors with one registration each. The first one is interrupted by the end of its
connection and registers again, while the handler of the second one reads its words as a
measurement. -/
theorem answered_of_session_boiler :
    let config : Config := ⟨"boiler".toList, .temperature, .finite false 5, .finite false 3⟩
    let env : Env := ⟨0, fun _ ↦ 0, none⟩
    let start : Session ℚ ℕ := ⟨.start, .idle, serverInit 0⟩
    let okRegistered := (ok "SENSOR_REGISTERED").text.bytes
    let okReceived := (ok "MEASUREMENT_RECEIVED").text.bytes
    let registration : Parsed := ⟨.registerSensor, [.lit "boiler", .lit "temperature"]⟩
    let events : List (SessionEvent ℕ) := [.sensor (.socket (some 3)), .sensor (.connect true),
      .sensor (.register true), .serve env ⟨7, 0⟩ registration true okRegistered,
      .other (.command env ⟨9, 2⟩ ⟨.registerSensor, [.lit "engine", .lit "vibration"]⟩),
      .sensor (.recv (some okRegistered)), .sensor (.measure (.finite false 20) 0 true),
      .sensor (.recv (some [])), .sensor .wake,
      .other (.command env ⟨9, 2⟩ ⟨.measurement, [.lit "boiler", .lit "60", .lit "C"]⟩),
      .sensor (.socket (some 3)), .sensor (.connect true), .sensor (.register true),
      .serve env ⟨8, 0⟩ registration true okRegistered, .sensor (.recv (some okRegistered)),
      .sensor (.measure (.finite false 20) 1 true),
      .serve env ⟨8, 0⟩ ⟨.measurement, [.lit "boiler", .lit "20.0000", .lit "C", .lit "1"]⟩ false
        okReceived,
      .other (.check env [.lit "boiler", .lit "20.0000", .lit "C", .lit "1"] ⟨0, by decide⟩),
      .sensor (.recv (some okReceived)), .sensor .wake]
    ∃ t, (session config).run start events = some t ∧
      Answered config ((session config).outputs (sessionActions config) start events) ∧
      (t.loop.phase ∈ [.measuring, .awaitingReply, .sleeping] →
        config.sensorId.getLast? ≠ some '\n' ∧ Stored config t.server) ∧
      (sleepable config.interval → sleepable config.retryInterval → t.loop.phase ≠ .crashed) := by
  intro config env start okRegistered okReceived registration events
  obtain ⟨t, hrun⟩ : ∃ t, (session config).run start events = some t :=
    Option.isSome_iff_exists.mp (by decide +kernel)
  have hmeets : (session config).Meets Isolated start events := by decide +kernel
  exact ⟨t, hrun, answered_of_session (by decide) hmeets hrun⟩

end IotMonitoring.Sensors.SensorBase
