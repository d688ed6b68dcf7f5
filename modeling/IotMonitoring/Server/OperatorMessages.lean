import IotMonitoring.Server.AlertLine
import IotMonitoring.Server.OperatorStream

/-!
# The messages to an operator

Every message to an operator is the reply of some command or the alert of some measurement. A reply
begins with one of six keywords, so it is never taken for an alert; a reply whose records fit and an
alert that has room in its buffer are one line and its line end. When every alert is sent whole and
no reply is overwritten while it is sent, the bytes of the stream are those of the messages whose
sending has begun, in the order in which their senders have taken `write_mutex`.
-/

namespace IotMonitoring.Server

open Text Machine

/-! ## Replies -/

namespace HandleClient

open Protocol

variable {D κ : Type} [CDouble D]

/-- A message that is one line and its line end. -/
def IsLine (message : CString) : Prop :=
  ∃ line, message.bytes = line ++ [13, 10] ∧ ∀ b ∈ line, isLineEnd b = false

/-- The words that replies begin with. -/
def replyKeywords : List CString :=
  [.lit "PONG", .lit "OK ", .lit "ERROR ", .lit "SENSORS ", .lit "ALERTS ", .lit "STATUS "]

/-- The message begins with one of these words. -/
def StartsWithKeyword (message : CString) : Prop :=
  ∃ keyword ∈ replyKeywords, keyword.bytes <+: message.bytes

omit [CDouble D] in
theorem isLine_of_framed {message payload : CString} (h : Framed message payload) :
    IsLine message := by
  obtain ⟨line, hline, hsafe, -⟩ := h
  exact ⟨line, hline, hsafe⟩

omit [CDouble D] in
theorem startsWithKeyword_buildLine {keyword text : CString} (hkeyword : keyword ∈ replyKeywords)
    (htext : keyword.bytes <+: text.bytes) : StartsWithKeyword (buildLine text) := by
  have hshort : replyKeywords.all (·.bytes.length ≤ respBufSize - 1) := by decide
  have hlength := List.all_eq_true.mp hshort keyword hkeyword
  refine ⟨keyword, hkeyword, List.prefix_take_iff.mpr ⟨?_, by simpa using hlength⟩⟩
  exact htext.trans (List.prefix_append _ _)

omit [CDouble D] in
theorem startsWithKeyword_ok (details : CString) :
    StartsWithKeyword (protocolBuildOk (some details)) :=
  startsWithKeyword_buildLine (by simp [replyKeywords]) (List.prefix_append _ _)

omit [CDouble D] in
theorem startsWithKeyword_error (code desc : String) :
    StartsWithKeyword (error code desc).text := by
  have herror : CString.lit "ERROR " ∈ replyKeywords := by simp [replyKeywords]
  refine startsWithKeyword_buildLine herror ?_
  exact (List.prefix_append _ _).trans ((List.prefix_append _ _).trans (List.prefix_append _ _))

theorem startsWithKeyword_registerSensor (env : Env) (args : List CString) (s : ServerState D κ) :
    StartsWithKeyword (registerSensor env args s).response.text := by
  unfold registerSensor
  split
  · dsimp only
    split
    · exact startsWithKeyword_ok _
    · exact startsWithKeyword_error _ _
  · exact startsWithKeyword_error _ _

theorem startsWithKeyword_measurement (env : Env) (args : List CString) (s : ServerState D κ) :
    StartsWithKeyword (measurement env args s).response.text := by
  unfold measurement
  split
  · dsimp only
    split
    · split <;> exact startsWithKeyword_ok _
    · exact startsWithKeyword_error _ _
  · exact startsWithKeyword_error _ _

omit [CDouble D] in
theorem startsWithKeyword_login (env : Env) (client : Client κ) (args : List CString)
    (s : ServerState D κ) : StartsWithKeyword (login env client args s).response.text := by
  unfold login
  split
  · split
    · exact startsWithKeyword_ok _
    · exact startsWithKeyword_error _ _
    · exact startsWithKeyword_error _ _
  · exact startsWithKeyword_error _ _

/-- Every reply begins with a keyword. -/
theorem startsWithKeyword_respond (env : Env) (client : Client κ) (chunk : Chunk)
    (s : ServerState D κ) : StartsWithKeyword (respond env client chunk s).response.text := by
  rw [respond_eq]
  cases chunk.message.type with
  | ping =>
    have hpong : (CString.lit "PONG").bytes <+: Response.pong.text.bytes := by decide
    exact ⟨.lit "PONG", by simp [replyKeywords], hpong⟩
  | registerSensor => exact startsWithKeyword_registerSensor env _ s
  | measurement => exact startsWithKeyword_measurement env _ s
  | login => exact startsWithKeyword_login env client _ s
  | operatorIdentify => exact startsWithKeyword_ok _
  | getSensors =>
    exact startsWithKeyword_buildLine (by simp [replyKeywords]) (List.prefix_append _ _)
  | getAlerts =>
    exact startsWithKeyword_buildLine (by simp [replyKeywords]) (List.prefix_append _ _)
  | getStatus =>
    exact startsWithKeyword_buildLine (by simp [replyKeywords]) (List.prefix_append _ _)
  | unknown => exact startsWithKeyword_error _ _

/-- In a reachable state, a reply with room for its records is one line. -/
theorem isLine_respond {now : ℤ} {s : ServerState D κ}
    (hreach : (server D κ).Reachable (serverInit now) s) (env : Env) (client : Client κ)
    {chunk : Chunk} (hfits : FitsReply chunk.message.type s) :
    IsLine (respond env client chunk s).response.text := by
  have hsafe := lineSafe_of_reachable hreach
  rw [respond_eq]
  cases htype : chunk.message.type with
  | getSensors => exact isLine_of_framed ((framed_getSensors_iff hsafe).mpr (htype ▸ hfits))
  | getAlerts => exact isLine_of_framed ((framed_getAlerts_iff hsafe).mpr (htype ▸ hfits))
  | ping => exact isLine_of_framed framed_pong
  | login => exact isLine_of_framed (framed_login env client _ s)
  | registerSensor => exact isLine_of_framed (framed_registerSensor env _ s)
  | measurement => exact isLine_of_framed (framed_measurement env _ s)
  | operatorIdentify =>
    exact isLine_of_framed (framed_ok (CString.lineSafe_lit (by decide)) (by decide))
  | getStatus =>
    have hstatus : (CString.lit "STATUS " ++
        CString.snprintf 128 (.lit "5 sensors active - System OK")).LineSafe :=
      (CString.lineSafe_lit (by decide)).append ((CString.lineSafe_lit (by decide)).snprintf 128)
    have hnil : (∅ : CString).bytes <:+ (CString.lit "STATUS " ++
        CString.snprintf 128 (.lit "5 sensors active - System OK")).bytes := List.nil_suffix
    exact isLine_of_framed ((framed_buildLine_iff hstatus hnil).mpr (by decide))
  | unknown =>
    exact isLine_of_framed (framed_error (CString.lineSafe_lit (by decide))
      (CString.lineSafe_lit (by decide)) (by decide))

/-! ## Alerts -/

/-- In a reachable state, an alert that ends with its line end is one line behind `ALERTA `. -/
theorem exists_alertText_of_broadcast {now : ℤ} {s : ServerState D κ}
    (hreach : (server D κ).Reachable (serverInit now) s) {env : Env} {client : Client κ}
    {chunk : Chunk} {line : CString}
    (hbroadcast : (respond env client chunk s).broadcast = some line)
    (hwhole : crlf.bytes <:+ line.bytes) :
    IsLine line ∧ (CString.lit "ALERTA ").bytes <+: line.bytes := by
  obtain ⟨-, sensorId, valueText, unit, pointer, h⟩ := broadcasts_of_respond hbroadcast
  have hfits := (h.crlf_suffix_iff hreach).mp hwhole
  have hline := h.line_eq.trans ((alertLine_eq_iff _ _ _ _).mpr hfits)
  obtain ⟨rest, hargs⟩ := h.args_eq
  have hsensor := (lineSafe_of_reachable hreach).sensors _
    (List.mem_of_getElem? (s.sensors.live_getElem? (SensorManager.findSensor_eq_some h.found).1))
  have hid : sensorId.LineSafe := chunk.lineSafe_of_mem_args (by simp [hargs])
  have hunit : unit.LineSafe := chunk.lineSafe_of_mem_args (by simp [hargs])
  have htype : (SensorManager.typeAt s.sensors pointer).LineSafe := hsensor.2.1
  have htext := lineSafe_alertText hid htype (CDouble.atof valueText : D) hunit
  rw [hline]
  refine ⟨⟨_, by rw [CString.bytes_append, bytes_crlf], htext⟩, ?_⟩
  simp only [alertText, CString.bytes_append, List.append_assoc]
  exact List.prefix_append _ _

end HandleClient

/-! ## The stream -/

namespace OperatorStream

open HandleClient

/-- A message as its sender begins to send it. -/
inductive Sending where
  | alert (line : CString)
  | reply (text : CString)
deriving DecidableEq

def Sending.text : Sending → CString
  | alert line => line
  | reply text => text

/-- What can be sent: the alert of a measurement that has room in its buffer, and the reply to a
command whose records have room in theirs. -/
def Spoken (D κ : Type) [CDouble D] (now : ℤ) : Sending → Prop
  | .alert line =>
    (∃ s : ServerState D κ, (server D κ).Reachable (serverInit now) s ∧
      ∃ env client chunk, (respond env client chunk s).broadcast = some line) ∧
    crlf.bytes <:+ line.bytes
  | .reply text =>
    ∃ s : ServerState D κ, (server D κ).Reachable (serverInit now) s ∧
      ∃ env client chunk, (respond env client chunk s).response.text = text ∧
        FitsReply chunk.message.type s

theorem Spoken.isLine {D κ : Type} [CDouble D] {now : ℤ} {sending : Sending}
    (h : Spoken D κ now sending) : IsLine sending.text := by
  cases sending with
  | alert line =>
    obtain ⟨⟨s, hreach, env, client, chunk, hbroadcast⟩, hwhole⟩ := h
    exact (exists_alertText_of_broadcast hreach hbroadcast hwhole).1
  | reply text =>
    obtain ⟨s, hreach, env, client, chunk, rfl, hfits⟩ := h
    exact isLine_respond hreach env client hfits

variable {ι : Type*}

/-- The message whose sender has just taken `write_mutex`. -/
def begins (s : State ι) : Event ι → List Sending
  | .lockForAlert i =>
    match s.phase i with
    | .broadcasting line => [.alert line]
    | _ => []
  | .lockForReply response => [.reply (.read (s.memory response))]
  | _ => []

/-- The message of a handler that holds `write_mutex`. -/
def Phase.message : Phase → List CString
  | alerting line => [line]
  | alerted line => [line]
  | replying _ text _ => [text]
  | _ => []

/-- All messages whose sending has begun. -/
def State.messages (s : State ι) : List CString :=
  s.finished ++
    match s.writeMutex with
    | some i => (s.phase i).message
    | none => []

variable [DecidableEq ι]

/-- A handler without a message, before and after its step, has no part in the messages. -/
theorem messages_outside (s : State ι) {i : ι} {phase : Phase} (hbefore : (s.phase i).message = [])
    (hafter : phase.message = []) (operatorMutex : Option ι) :
    State.messages { s.enter i phase with operatorMutex := operatorMutex } = s.messages := by
  have hmessage (j : ι) : ((s.enter i phase).phase j).message = (s.phase j).message := by
    obtain rfl | hij := eq_or_ne j i
    · rw [phase_enter_self, hbefore, hafter]
    · rw [phase_enter_ne s hij]
  simp only [State.messages, hmessage]
  rfl

/-- A step begins to send at most one message. -/
theorem messages_step {self : ι} {s s' : State ι} {event : Event ι} (h : Invariant s)
    (hstep : (stream self).step s event = some s') :
    s'.messages = s.messages ++ (begins s event).map Sending.text := by
  cases event with
  | build i text =>
    obtain ⟨-, rfl⟩ := Option.ite_some_none_eq_some.mp hstep
    exact (List.append_nil _).symm
  | lockOperators i line =>
    obtain ⟨⟨hidle, -⟩, rfl⟩ := Option.ite_some_none_eq_some.mp hstep
    rw [messages_outside s (by rw [hidle]; rfl) rfl]
    exact (List.append_nil _).symm
  | lockForAlert i =>
    simp only [stream] at hstep
    split at hstep
    · rename_i line hphase
      obtain ⟨hfree, rfl⟩ := Option.ite_some_none_eq_some.mp hstep
      simp [State.messages, begins, hphase, hfree, Phase.message, Sending.text]
    · cases hstep
  | sendAlert i accepted =>
    obtain ⟨line, hphase, -, rfl⟩ := stream_sendAlert hstep
    have hheld : s.writeMutex = some i := (h.holder i).mp (by rw [hphase]; rfl)
    simp [State.messages, begins, hheld, hphase, Phase.message]
  | unlockOperators i =>
    simp only [stream] at hstep
    split at hstep
    · rename_i line hphase
      obtain rfl := Option.some.inj hstep
      rw [messages_outside s (by rw [hphase]; rfl) rfl]
      exact (List.append_nil _).symm
    · cases hstep
  | lockForReply response =>
    obtain ⟨⟨-, hfree⟩, rfl⟩ := Option.ite_some_none_eq_some.mp hstep
    simp [State.messages, begins, hfree, Phase.message, Sending.text]
  | sendReply accepted =>
    obtain ⟨response, text, totalSent, hphase, rfl⟩ := stream_sendReply hstep
    have hheld : s.writeMutex = some self := (h.holder self).mp (by rw [hphase]; rfl)
    simp [State.messages, begins, hheld, hphase, Phase.message]
  | unlock i =>
    simp only [stream] at hstep
    split at hstep
    · rename_i line hphase
      obtain rfl := Option.some.inj hstep
      have hheld : s.writeMutex = some i := (h.holder i).mp (by rw [hphase]; rfl)
      simp [State.messages, begins, hheld, hphase, Phase.message]
    · rename_i response text totalSent hphase
      obtain ⟨-, rfl⟩ := Option.ite_some_none_eq_some.mp hstep
      have hheld : s.writeMutex = some i := (h.holder i).mp (by rw [hphase]; rfl)
      simp [State.messages, begins, hheld, hphase, Phase.message]
    · cases hstep

/-- What has been sent stays sent. -/
theorem delivered_step {self : ι} {s s' : State ι} {event : Event ι}
    (hstep : (stream self).step s event = some s') : s.delivered <+: s'.delivered := by
  cases event with
  | build i text =>
    obtain ⟨-, rfl⟩ := Option.ite_some_none_eq_some.mp hstep
    exact List.prefix_refl _
  | lockOperators i line =>
    obtain ⟨-, rfl⟩ := Option.ite_some_none_eq_some.mp hstep
    exact List.prefix_refl _
  | lockForAlert i =>
    simp only [stream] at hstep
    split at hstep
    · obtain ⟨-, rfl⟩ := Option.ite_some_none_eq_some.mp hstep
      exact List.prefix_refl _
    · cases hstep
  | sendAlert i accepted =>
    obtain ⟨line, -, -, rfl⟩ := stream_sendAlert hstep
    exact List.prefix_append _ _
  | unlockOperators i =>
    simp only [stream] at hstep
    split at hstep
    · obtain rfl := Option.some.inj hstep
      exact List.prefix_refl _
    · cases hstep
  | lockForReply response =>
    obtain ⟨-, rfl⟩ := Option.ite_some_none_eq_some.mp hstep
    exact List.prefix_refl _
  | sendReply accepted =>
    obtain ⟨response, text, totalSent, -, rfl⟩ := stream_sendReply hstep
    exact List.prefix_append _ _
  | unlock i =>
    simp only [stream] at hstep
    split at hstep
    · obtain rfl := Option.some.inj hstep
      exact List.prefix_refl _
    · obtain ⟨-, rfl⟩ := Option.ite_some_none_eq_some.mp hstep
      exact List.prefix_refl _
    · cases hstep

omit [DecidableEq ι] in
/-- The stream ends with or within the last message. -/
theorem Invariant.delivered_prefix {s : State ι} (h : Invariant s) :
    s.delivered <+: (s.messages.map CString.bytes).flatten := by
  rw [h.whole, State.messages, State.current, List.map_append, List.flatten_append]
  apply (List.prefix_append_right_inj _).mpr
  cases s.writeMutex with
  | none => exact List.nil_prefix
  | some i =>
    cases hphase : s.phase i with
    | replying response text totalSent =>
      simpa [hphase, Phase.part, Phase.message] using List.take_prefix totalSent text.bytes
    | _ => simp [hphase, Phase.part, Phase.message]

omit [DecidableEq ι] in
/-- When nobody sends, all messages have been sent in full. -/
theorem Invariant.delivered_eq {s : State ι} (h : Invariant s) (hfree : s.writeMutex = none) :
    s.delivered = (s.messages.map CString.bytes).flatten := by
  rw [h.whole, State.messages, State.current, hfree, List.append_nil, List.append_nil]

end OperatorStream

end IotMonitoring.Server
