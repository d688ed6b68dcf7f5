import IotMonitoring.Server.HandleClient
import Mathlib.Data.List.Infix

/-!
# The handshake of the operator client

`authenticate` sends LOGIN, reads one line, sends OPERATOR_IDENTIFY and reads one line. Its handler
registers the connection for alerts before it sends the reply to LOGIN, and alerts go out on the
same channel. Whatever lines arrive first are read as the two replies, so the handshake succeeds
exactly when no alert is sent to the connection before the reply to OPERATOR_IDENTIFY.
-/

namespace IotMonitoring.Operator.Handshake

open Text Machine Server Protocol OperatorRegistry HandleClient

/-- What `authenticate` sends. -/
inductive Request where
  | login
  | operatorIdentify
deriving DecidableEq

/-- Where the client stands; it is `running` when the reader thread has been started. -/
inductive ClientPhase where
  | connecting
  | awaitingLogin
  | identifying
  | awaitingIdentify
  | running
  | failed
deriving DecidableEq

/-- Where the handler of the connection stands. -/
inductive HandlerPhase where
  | receivingLogin
  | sendingLogin
  | receivingIdentify
  | sendingIdentify
  | served
deriving DecidableEq

variable {D κ : Type}

/-- Both parties, the requests and lines under way, the registry, and the lines the client has read
as replies. -/
structure State (κ : Type) where
  client : ClientPhase
  requests : List Request
  handler : HandlerPhase
  operators : Registry κ
  lines : List CString
  consumed : List CString

/-- A step of the client or of its handler, a broadcast by a sensor's handler, or a step of another
operator's handler. -/
inductive Event (D κ : Type) where
  | client
  | handler
  | broadcast (sensorId sensorType : CString) (value : D) (unit : CString)
  | otherLogin (fd : ℤ) (context : κ)
  | otherDisconnect (fd : ℤ)

def Event.isHandshake : Event D κ → Bool
  | client => true
  | handler => true
  | _ => false

/-- A message as `readLine` returns it. -/
def asLine (message : CString) : CString := message.before isLineEnd

/-- The reply to a LOGIN that the authentication service has accepted. -/
def loginReply (role : CString) : CString :=
  protocolBuildOk (some (CString.snprintf 128 (.lit "ROLE_" ++ role)))

def identifyReply : CString := protocolBuildOk (some (.lit "OPERATOR_CONNECTED"))

/-- `resp.startsWith("OK")`. -/
def startsWithOk (line : CString) : Bool := (ascii "OK").isPrefixOf line.bytes

variable [CDouble D]

/-- The lines a broadcast puts on the connection's channel. -/
def alertLines (connection : Client κ) (s : State κ) (sensorId sensorType : CString) (value : D)
    (unit : CString) : List CString :=
  ((broadcastTargets s.operators).filter fun target ↦ target.1 = connection.fd).map fun _ ↦
    asLine (alertLine sensorId sensorType value unit)

/-- Client, handler and traffic as one machine. Reading waits for a line, receiving for a
request. -/
def system (D : Type) [CDouble D] (connection : Client κ) (role : CString) :
    Labelled (State κ) (Event D κ) where
  step s event :=
    match event with
    | .client =>
      match s.client, s.lines with
      | .connecting, _ =>
        some { s with client := .awaitingLogin, requests := s.requests ++ [.login] }
      | .awaitingLogin, line :: rest =>
        some { s with
          client := if startsWithOk line then .identifying else .failed
          lines := rest
          consumed := s.consumed ++ [line] }
      | .identifying, _ =>
        some { s with
          client := .awaitingIdentify
          requests := s.requests ++ [.operatorIdentify] }
      | .awaitingIdentify, line :: rest =>
        some { s with
          client := if startsWithOk line then .running else .failed
          lines := rest
          consumed := s.consumed ++ [line] }
      | _, _ => none
    | .handler =>
      match s.handler, s.requests with
      | .receivingLogin, .login :: rest =>
        some { s with
          handler := .sendingLogin
          requests := rest
          operators := registerOperator connection.fd connection.context s.operators }
      | .sendingLogin, _ =>
        some { s with
          handler := .receivingIdentify
          lines := s.lines ++ [asLine (loginReply role)] }
      | .receivingIdentify, .operatorIdentify :: rest =>
        some { s with handler := .sendingIdentify, requests := rest }
      | .sendingIdentify, _ =>
        some { s with handler := .served, lines := s.lines ++ [asLine identifyReply] }
      | _, _ => none
    | .broadcast sensorId sensorType value unit =>
      some { s with
        lines := s.lines ++ alertLines connection s sensorId sensorType value unit }
    | .otherLogin fd context =>
      some { s with operators := registerOperator fd context s.operators }
    | .otherDisconnect fd => some { s with operators := removeOperator fd s.operators }

/-- A fresh connection, with any operators registered before. -/
def init (operators : Registry κ) : State κ := ⟨.connecting, [], .receivingLogin, operators, [], []⟩

/-- The number of steps the client and its handler have still to take. -/
def State.remaining (s : State κ) : ℕ :=
  (match s.client with
    | .connecting => 4
    | .awaitingLogin => 3
    | .identifying => 2
    | .awaitingIdentify => 1
    | .running => 0
    | .failed => 0) +
  match s.handler with
    | .receivingLogin => 4
    | .sendingLogin => 3
    | .receivingIdentify => 2
    | .sendingIdentify => 1
    | .served => 0

/-- `authenticate` has not failed, has read nothing but the two replies, has returned or can be
brought forward by a step of the client or its handler, and such steps alone let it return. -/
structure Succeeds (D : Type) [CDouble D] (connection : Client κ) (role : CString)
    (s : State κ) : Prop where
  notFailed : s.client ≠ .failed
  replies : s.consumed <+: [asLine (loginReply role), asLine identifyReply]
  advances : s.client = .running ∨
    ∃ event, event.isHandshake ∧ ((system D connection role).step s event).isSome
  finishes : ∃ events t, (∀ event ∈ events, Event.isHandshake event) ∧
    (system D connection role).run s events = some t ∧ t.client = .running

/-- No alert goes to the connection before the reply to OPERATOR_IDENTIFY has been sent. -/
def Quiet (connection : Client κ) (s : State κ) : Event D κ → Prop
  | .broadcast _ _ _ _ =>
    s.handler = .served ∨ ∀ target ∈ broadcastTargets s.operators, target.1 ≠ connection.fd
  | _ => True

/-! ## The handler's iterations -/

/-- The LOGIN step of the handler is an iteration whose LOGIN is accepted. -/
theorem respond_login {env : Env} {chunk : Chunk} {role : CString}
    (h : grantedRole env chunk = some role) (connection : Client κ) (s : ServerState D κ) :
    (respond env connection chunk s).state.operators =
        registerOperator connection.fd connection.context s.operators ∧
      (respond env connection chunk s).response.text = loginReply role := by
  rw [respond_of_granted h]
  exact ⟨rfl, rfl⟩

/-- The OPERATOR_IDENTIFY step of the handler is an iteration on that command. -/
theorem respond_operatorIdentify (env : Env) {chunk : Chunk}
    (h : chunk.message.type = .operatorIdentify) (connection : Client κ) (s : ServerState D κ) :
    (respond env connection chunk s).state = s ∧
      (respond env connection chunk s).response.text = identifyReply := by
  rw [respond_eq, h]
  exact ⟨rfl, rfl⟩

/-! ## Lines -/

omit [CDouble D] in
theorem startsWithOk_protocolBuildOk (details : CString) :
    startsWithOk (asLine (protocolBuildOk (some details))) = true := by
  have hlit : (CString.lit "OK ").bytes = [79, 75, 32] := by decide
  simp [startsWithOk, asLine, CString.before, protocolBuildOk, buildLine, CString.snprintf,
    respBufSize, hlit, isLineEnd, ascii]

theorem startsWithOk_alertLine (sensorId sensorType : CString) (value : D) (unit : CString) :
    startsWithOk (asLine (alertLine sensorId sensorType value unit)) = false := by
  have hlit : (CString.lit "ALERTA ").bytes = [65, 76, 69, 82, 84, 65, 32] := by decide
  simp [startsWithOk, asLine, CString.before, alertLine, CString.snprintf, hlit, isLineEnd, ascii,
    List.isPrefixOf]

theorem startsWithOk_of_mem_alertLines {connection : Client κ} {s : State κ}
    {sensorId sensorType : CString} {value : D} {unit line : CString}
    (hmem : line ∈ alertLines connection s sensorId sensorType value unit) :
    startsWithOk line = false := by
  obtain ⟨_, -, rfl⟩ := List.mem_map.mp hmem
  exact startsWithOk_alertLine sensorId sensorType value unit

theorem alertLines_eq_nil_iff {connection : Client κ} {s : State κ}
    {sensorId sensorType : CString} {value : D} {unit : CString} :
    alertLines connection s sensorId sensorType value unit = [] ↔
      ∀ target ∈ broadcastTargets s.operators, target.1 ≠ connection.fd := by
  simp [alertLines, List.filter_eq_nil_iff]

/-! ## Undisturbed handshakes -/

/-- The states of a handshake in which no alert has come between the replies. -/
inductive Clean (role : CString) : State κ → Prop
  | connecting (operators) : Clean role ⟨.connecting, [], .receivingLogin, operators, [], []⟩
  | loginSent (operators) : Clean role
      ⟨.awaitingLogin, [.login], .receivingLogin, operators, [], []⟩
  | registered (operators) : Clean role ⟨.awaitingLogin, [], .sendingLogin, operators, [], []⟩
  | loginAnswered (operators) : Clean role
      ⟨.awaitingLogin, [], .receivingIdentify, operators, [asLine (loginReply role)], []⟩
  | loggedIn (operators) : Clean role
      ⟨.identifying, [], .receivingIdentify, operators, [], [asLine (loginReply role)]⟩
  | identifySent (operators) : Clean role
      ⟨.awaitingIdentify, [.operatorIdentify], .receivingIdentify, operators, [],
        [asLine (loginReply role)]⟩
  | identifyReceived (operators) : Clean role
      ⟨.awaitingIdentify, [], .sendingIdentify, operators, [], [asLine (loginReply role)]⟩
  | identifyAnswered (operators alerts) : Clean role
      ⟨.awaitingIdentify, [], .served, operators, asLine identifyReply :: alerts,
        [asLine (loginReply role)]⟩
  | running (operators alerts) : Clean role
      ⟨.running, [], .served, operators, alerts,
        [asLine (loginReply role), asLine identifyReply]⟩

omit [CDouble D] in
theorem Clean.withOperators {role : CString} {s : State κ} (h : Clean role s)
    (operators : Registry κ) : Clean role { s with operators := operators } := by
  cases h <;> constructor

omit [CDouble D] in
theorem Clean.withLines {role : CString} {s : State κ} (h : Clean role s)
    (hserved : s.handler = .served) (more : List CString) :
    Clean role { s with lines := s.lines ++ more } := by
  cases h with
  | identifyAnswered operators alerts => exact .identifyAnswered operators (alerts ++ more)
  | running operators alerts => exact .running operators (alerts ++ more)
  | _ => cases hserved

theorem Clean.step {connection : Client κ} {role : CString} {s s' : State κ} {event : Event D κ}
    (h : Clean role s) (hquiet : Quiet connection s event)
    (hstep : (system D connection role).step s event = some s') : Clean role s' := by
  cases event with
  | client =>
    cases h with
    | connecting operators => exact Option.some.inj hstep ▸ .loginSent operators
    | loginAnswered operators =>
      have hok : startsWithOk (asLine (loginReply role)) = true := startsWithOk_protocolBuildOk _
      simp only [system, hok, if_true] at hstep
      exact Option.some.inj hstep ▸ .loggedIn operators
    | loggedIn operators => exact Option.some.inj hstep ▸ .identifySent operators
    | identifyAnswered operators alerts =>
      have hok : startsWithOk (asLine identifyReply) = true := startsWithOk_protocolBuildOk _
      simp only [system, hok, if_true] at hstep
      exact Option.some.inj hstep ▸ .running operators alerts
    | _ => cases hstep
  | handler =>
    cases h with
    | loginSent operators => exact Option.some.inj hstep ▸ .registered _
    | registered operators => exact Option.some.inj hstep ▸ .loginAnswered operators
    | identifySent operators => exact Option.some.inj hstep ▸ .identifyReceived operators
    | identifyReceived operators => exact Option.some.inj hstep ▸ .identifyAnswered operators []
    | _ => cases hstep
  | broadcast sensorId sensorType value unit =>
    rw [← Option.some.inj hstep]
    obtain hserved | hapart := hquiet
    · exact h.withLines hserved _
    · rw [alertLines_eq_nil_iff.mpr hapart, List.append_nil]
      exact h
  | otherLogin fd context => exact Option.some.inj hstep ▸ h.withOperators _
  | otherDisconnect fd => exact Option.some.inj hstep ▸ h.withOperators _

/-- A step of the client or its handler brings the handshake forward. -/
theorem remaining_lt_of_step {connection : Client κ} {role : CString} {s s' : State κ}
    {event : Event D κ} (hhandshake : event.isHandshake)
    (hstep : (system D connection role).step s event = some s') : s'.remaining < s.remaining := by
  cases event with
  | client =>
    simp only [system] at hstep
    split at hstep
    all_goals cases hstep
    all_goals simp only [State.remaining, *]
    all_goals try split_ifs
    all_goals simp
  | handler =>
    simp only [system] at hstep
    split at hstep
    all_goals cases hstep
    all_goals simp only [State.remaining, *]
    all_goals simp
  | _ => cases hhandshake

/-- Before `authenticate` has returned, the client or its handler can move. -/
theorem Clean.progress (D : Type) [CDouble D] (connection : Client κ) {role : CString}
    {s : State κ} (h : Clean role s) : s.client = .running ∨
      ∃ event s', Event.isHandshake event ∧ (system D connection role).step s event = some s' := by
  cases h with
  | connecting => exact .inr ⟨.client, _, rfl, rfl⟩
  | loginSent => exact .inr ⟨.handler, _, rfl, rfl⟩
  | registered => exact .inr ⟨.handler, _, rfl, rfl⟩
  | loginAnswered => exact .inr ⟨.client, _, rfl, rfl⟩
  | loggedIn => exact .inr ⟨.client, _, rfl, rfl⟩
  | identifySent => exact .inr ⟨.handler, _, rfl, rfl⟩
  | identifyReceived => exact .inr ⟨.handler, _, rfl, rfl⟩
  | identifyAnswered => exact .inr ⟨.client, _, rfl, rfl⟩
  | running => exact .inl rfl

omit [CDouble D] in
theorem Quiet.of_isHandshake (connection : Client κ) (s : State κ) {event : Event D κ}
    (h : event.isHandshake) : Quiet connection s event := by
  cases event with
  | broadcast => cases h
  | _ => trivial

theorem Clean.succeeds (connection : Client κ) {role : CString} {s : State κ}
    (h : Clean role s) : Succeeds D connection role s where
  notFailed := by cases h <;> simp
  replies := by cases h <;> simp
  advances := by
    refine (h.progress D connection).imp_right fun ⟨event, s', hhandshake, hstep⟩ ↦ ?_
    exact ⟨event, hhandshake, Option.isSome_of_eq_some hstep⟩
  finishes := by
    refine Labelled.exists_run_of_variant State.remaining (fun s h ↦ ?_) h
    refine (h.progress D connection).imp_right fun ⟨event, s', hhandshake, hstep⟩ ↦ ?_
    exact ⟨event, s', hhandshake, hstep, h.step (.of_isHandshake connection s hhandshake) hstep,
      remaining_lt_of_step hhandshake hstep⟩

/-! ## Disturbed handshakes -/

/-- The number of replies the client has read where it stands. -/
def ClientPhase.replies : ClientPhase → ℕ
  | connecting => 0
  | awaitingLogin => 0
  | identifying => 1
  | awaitingIdentify => 1
  | running => 2
  | failed => 0

/-- Until it fails, the client has read as many lines as replies, each starting with `OK`. -/
def Reads (s : State κ) : Prop :=
  s.client ≠ .failed →
    s.consumed.length = s.client.replies ∧ ∀ line ∈ s.consumed, startsWithOk line = true

/-- One of the two lines that are read as replies does not start with `OK`. -/
def Spoiled (s : State κ) : Prop :=
  ∃ line ∈ (s.consumed ++ s.lines).take 2, startsWithOk line = false

omit [CDouble D] in
theorem Reads.readLine {s : State κ} (h : Reads s) (hclient : s.client ≠ .failed)
    {next : ClientPhase} (hnext : next.replies = s.client.replies + 1) (line : CString)
    (rest : List CString) :
    Reads { s with
      client := if startsWithOk line then next else .failed
      lines := rest
      consumed := s.consumed ++ [line] } := by
  intro hfailed
  obtain ⟨hlength, hall⟩ := h hclient
  by_cases hok : startsWithOk line
  · simp only [hok, if_true]
    refine ⟨by rw [List.length_append, hlength, hnext, List.length_singleton], ?_⟩
    simpa [or_imp, forall_and, hok] using hall
  · simp [hok] at hfailed

theorem reads_step {connection : Client κ} {role : CString} {s s' : State κ} {event : Event D κ}
    (h : Reads s) (hstep : (system D connection role).step s event = some s') : Reads s' := by
  cases event with
  | client =>
    simp only [system] at hstep
    split at hstep
    · rename_i hclient
      cases hstep
      exact fun _ ↦ by simpa [hclient, ClientPhase.replies] using h (by simp [hclient])
    · rename_i line rest hclient _
      exact Option.some.inj hstep ▸
        h.readLine (by simp [hclient]) (by simp [hclient, ClientPhase.replies]) line rest
    · rename_i hclient
      cases hstep
      exact fun _ ↦ by simpa [hclient, ClientPhase.replies] using h (by simp [hclient])
    · rename_i line rest hclient _
      exact Option.some.inj hstep ▸
        h.readLine (by simp [hclient]) (by simp [hclient, ClientPhase.replies]) line rest
    · cases hstep
  | handler =>
    simp only [system] at hstep
    split at hstep
    all_goals cases hstep
    all_goals exact h
  | _ => exact Option.some.inj hstep ▸ h

/-- Lines are read in the order in which they were sent. -/
theorem history_step {connection : Client κ} {role : CString} {s s' : State κ} {event : Event D κ}
    (hstep : (system D connection role).step s event = some s') :
    s.consumed ++ s.lines <+: s'.consumed ++ s'.lines := by
  cases event with
  | client =>
    simp only [system] at hstep
    split at hstep
    all_goals cases hstep
    all_goals simp [*]
  | handler =>
    simp only [system] at hstep
    split at hstep
    all_goals cases hstep
    all_goals simp
  | broadcast => cases hstep; simp
  | otherLogin => cases hstep; simp
  | otherDisconnect => cases hstep; simp

theorem spoiled_step {connection : Client κ} {role : CString} {s s' : State κ} {event : Event D κ}
    (h : Spoiled s) (hstep : (system D connection role).step s event = some s') : Spoiled s' := by
  obtain ⟨line, hmem, hline⟩ := h
  exact ⟨line, ((history_step hstep).take 2).mem hmem, hline⟩

theorem Clean.length_history_le {role : CString} {s : State κ} (h : Clean role s)
    (hserved : s.handler ≠ .served) : (s.consumed ++ s.lines).length ≤ 1 := by
  cases h with
  | identifyAnswered => exact absurd rfl hserved
  | running => exact absurd rfl hserved
  | _ => simp

/-- An alert that comes before the reply to OPERATOR_IDENTIFY takes the place of a reply. -/
theorem Clean.spoiled_of_not_quiet {connection : Client κ} {role : CString} {s s' : State κ}
    {event : Event D κ} (h : Clean role s) (hquiet : ¬ Quiet connection s event)
    (hstep : (system D connection role).step s event = some s') : Spoiled s' := by
  cases event with
  | broadcast sensorId sensorType value unit =>
    obtain ⟨hserved, htargets⟩ := not_or.mp hquiet
    have halerts : alertLines connection s sensorId sensorType value unit ≠ [] :=
      mt alertLines_eq_nil_iff.mp htargets
    obtain ⟨line, alerts, halerts⟩ := List.exists_cons_of_ne_nil halerts
    have hmem : line ∈ alertLines connection s sensorId sensorType value unit :=
      halerts ▸ List.mem_cons_self
    have hfirst := startsWithOk_of_mem_alertLines hmem
    have hroom : 0 < 2 - (s.consumed ++ s.lines).length := by
      have hshort := h.length_history_le hserved
      omega
    rw [← Option.some.inj hstep]
    refine ⟨line, ?_, hfirst⟩
    rw [halerts, ← List.append_assoc, List.take_append]
    refine List.mem_append_right _ ?_
    rw [List.take_cons hroom]
    exact List.mem_cons_self
  | _ => exact absurd trivial hquiet

theorem Reads.not_spoiled {s : State κ} (h : Reads s) (hrunning : s.client = .running) :
    ¬ Spoiled s := by
  rintro ⟨line, hmem, hline⟩
  obtain ⟨hlength, hok⟩ := h (by simp [hrunning])
  rw [List.take_append_of_le_length (by simp [hlength, hrunning, ClientPhase.replies])] at hmem
  exact Bool.false_ne_true (hline.symm.trans (hok line (List.mem_of_mem_take hmem)))

theorem not_succeeds_of_spoiled {connection : Client κ} {role : CString} {s : State κ}
    (hreads : Reads s) (h : Spoiled s) : ¬ Succeeds D connection role s := by
  intro hsucceeds
  obtain ⟨events, t, -, hrun, hrunning⟩ := hsucceeds.finishes
  have hreads' : Reads t :=
    Labelled.inv_of_reachable Reads (fun _ _ _ ↦ reads_step) hreads ⟨events, hrun⟩
  have hspoiled : Spoiled t :=
    Labelled.inv_of_reachable Spoiled (fun _ _ _ ↦ spoiled_step) h ⟨events, hrun⟩
  exact hreads'.not_spoiled hrunning hspoiled

/-- The handshake succeeds exactly when no alert goes to the connection before the reply to
OPERATOR_IDENTIFY has been sent. -/
theorem succeeds_iff_quiet (connection : Client κ) (role : CString) (operators : Registry κ)
    {events : List (Event D κ)} {t : State κ}
    (hrun : (system D connection role).run (init operators) events = some t) :
    (Succeeds D connection role t ↔
      (system D connection role).Meets (Quiet connection) (init operators) events) ∧
    (t.client = .running ∨ t.client = .failed →
      (t.client = .running ↔
        (system D connection role).Meets (Quiet connection) (init operators) events)) ∧
    ∀ event t', Event.isHandshake event → (system D connection role).step t event = some t' →
      t'.remaining < t.remaining := by
  have hclean : (system D connection role).Meets (Quiet connection) (init operators) events →
      Clean role t := fun hmeets ↦
    Labelled.inv_of_run (Clean role) (fun _ _ _ ↦ Clean.step) (.connecting operators) hmeets hrun
  have hspoiled : (system D connection role).Meets (Quiet connection) (init operators) events ∨
      Spoiled t :=
    Labelled.meets_or_of_run (fun _ _ _ ↦ Clean.step) (fun _ _ _ ↦ Clean.spoiled_of_not_quiet)
      (fun _ _ _ ↦ spoiled_step) (.connecting operators) hrun
  have hreads : Reads t :=
    Labelled.inv_of_reachable Reads (fun _ _ _ ↦ reads_step) (by simp [Reads, init,
      ClientPhase.replies]) ⟨events, hrun⟩
  refine ⟨⟨fun hsucceeds ↦ ?_, fun hmeets ↦ (hclean hmeets).succeeds connection⟩, ?_, ?_⟩
  · exact hspoiled.resolve_right fun h ↦ not_succeeds_of_spoiled hreads h hsucceeds
  · intro hover
    constructor
    · exact fun hrunning ↦ hspoiled.resolve_right (hreads.not_spoiled hrunning)
    · intro hmeets
      have hsucceeds : Succeeds D connection role t := (hclean hmeets).succeeds connection
      exact hover.resolve_right hsucceeds.notFailed
  · exact fun event t' hhandshake hstep ↦ remaining_lt_of_step hhandshake hstep

/-! ## One operator -/

def operatorConnection : Client ℕ := ⟨5, 0⟩

def operatorRole : CString := .lit "operator"

/-- An alert for a temperature of 50 degrees. -/
def hotAlert : Event ℚ ℕ := .broadcast (.lit "s1") (.lit "temperature") 50 (.lit "C")

/-- The handshake, followed by an alert. -/
theorem succeeds_iff_quiet_alert_after : ∃ t,
    (system ℚ operatorConnection operatorRole).run (init OperatorRegistry.init)
      [.client, .handler, .handler, .client, .client, .handler, .handler, hotAlert, .client] =
        some t ∧ t.client = .running ∧ Succeeds ℚ operatorConnection operatorRole t := by
  have hclient : ((system ℚ operatorConnection operatorRole).run (init OperatorRegistry.init)
      [.client, .handler, .handler, .client, .client, .handler, .handler, hotAlert, .client]).map
        State.client = some .running := by decide +kernel
  obtain ⟨t, hrun, hrunning⟩ := Option.map_eq_some_iff.mp hclient
  obtain ⟨hsucceeds, hover, -⟩ :=
    succeeds_iff_quiet operatorConnection operatorRole OperatorRegistry.init hrun
  exact ⟨t, hrun, hrunning, hsucceeds.mpr ((hover (.inl hrunning)).mp hrunning)⟩

/-- An alert between the registration and the reply to LOGIN makes `authenticate` fail. -/
theorem not_succeeds_of_early_alert : ∃ t,
    (system ℚ operatorConnection operatorRole).run (init OperatorRegistry.init)
      [.client, .handler, hotAlert, .client] = some t ∧
    t.client = .failed ∧ t.consumed = [.lit "ALERTA s1,temperature,50.00,C"] ∧
    ¬ Succeeds ℚ operatorConnection operatorRole t := by
  have hstate : ((system ℚ operatorConnection operatorRole).run (init OperatorRegistry.init)
      [.client, .handler, hotAlert, .client]).map (fun t ↦ (t.client, t.consumed)) =
        some (.failed, [.lit "ALERTA s1,temperature,50.00,C"]) := by decide +kernel
  obtain ⟨t, hrun, ht⟩ := Option.map_eq_some_iff.mp hstate
  obtain ⟨hfailed, hconsumed⟩ := Prod.mk.inj ht
  exact ⟨t, hrun, hfailed, hconsumed, fun hsucceeds ↦ hsucceeds.notFailed hfailed⟩

end IotMonitoring.Operator.Handshake
