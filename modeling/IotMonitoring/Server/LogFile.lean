import IotMonitoring.Server.LogCalls

/-!
# The log of the process

The accept loop and all handlers log into one file. A thread makes its calls in order, and the
calls of different threads come in any order. The file is then the text it held before followed by
the records of all calls so far. While each handler reads its own words, who splits it at line feeds
and skips empty lines finds one line for each call, so nothing that a peer sends can look like a
record of its own, and nothing of a LOGIN but the spelling of its command and the verdict of the
service has any influence on the file or on the shared data. What a handler reads is part of its
activity and arbitrary: other threads move the pointer of the tokenizer and write the buffers.
-/

namespace IotMonitoring.Server.Logger

open Text Machine Protocol SensorManager AlertEngine OperatorRegistry AuthClient HandleClient

variable {D κ : Type} [CDouble D]

/-! ## Threads -/

/-- What a thread does between two stretches of logging, with what it reads. The updates of a
MEASUREMENT may also happen one at a time, and its reply after them. -/
inductive Activity (κ : Type) where
  | incoming (peer : Peer)
  | acceptError (error : AcceptError)
  | started (peer : Peer) (configured : Bool)
  | round (peer : Peer) (client : Client κ) (turn : Round) (heard : Heard)
  | store (env : Env) (chunk : Chunk) (args : List Argument)
  | check (env : Env) (chunk : Chunk) (args : List Argument) (pointer : Fin maxSensors)
  | stored (peer : Peer) (chunk : Chunk) (sent : Bool) (rawMessage : Option CString)
    (response : CString)
  | finished (peer : Peer) (client : Client κ) (closed : Bool)

/-- The call on the shared data that an activity is. -/
def Activity.call : Activity κ → Option (HandlerCall κ)
  | round _ client turn heard => some (.command turn.env client heard.parsed)
  | store env _ args => some (.store env (args.map (·.value)))
  | check env _ args pointer => some (.check env (args.map (·.value)) pointer)
  | finished _ client _ => some (.disconnect client)
  | _ => none

/-- The calls of the logger that it makes. -/
def Activity.calls (s : ServerState D κ) : Activity κ → List LogCall
  | incoming peer => incomingCalls peer
  | acceptError error => [loggerError error.message]
  | started peer configured => startedCalls peer configured
  | round peer _ turn heard => iterationCalls peer turn.env turn.sent heard s
  | store _ _ args => storeCalls args s
  | check env _ args pointer => checkCalls env args pointer s
  | stored peer _ sent rawMessage response =>
    (sendEvents sent rawMessage response).map (eventCall peer)
  | finished peer _ closed => finishedCalls peer closed

/-- The handler reads the words of its own chunk, in its update and in its calls of the logger, and
logs the reply that it has built. -/
def Activity.OwnWords (s : ServerState D κ) : Activity κ → Prop
  | round _ client turn heard => heard = ownWords turn.env client turn.chunk s
  | store _ chunk args => args = ownArgs chunk
  | check _ chunk args _ => args = ownArgs chunk
  | stored _ chunk _ rawMessage response =>
    rawMessage = HandleClient.rawMessage chunk.bytes ∧ response = (ok "MEASUREMENT_RECEIVED").text
  | incoming _ | acceptError _ | started .. | finished .. => True

instance Activity.decidableOwnWords (s : ServerState D κ) :
    ∀ activity : Activity κ, Decidable (activity.OwnWords s)
  | round _ client turn heard =>
    inferInstanceAs (Decidable (heard = ownWords turn.env client turn.chunk s))
  | store _ chunk args => inferInstanceAs (Decidable (args = ownArgs chunk))
  | check _ chunk args _ => inferInstanceAs (Decidable (args = ownArgs chunk))
  | stored _ chunk _ rawMessage response => inferInstanceAs (Decidable
    (rawMessage = HandleClient.rawMessage chunk.bytes ∧
      response = (ok "MEASUREMENT_RECEIVED").text))
  | incoming _ | acceptError _ | started .. | finished .. => instDecidableTrue

/-- The shared data, the calls that each thread has still to make, and the log. -/
structure Process (D κ : Type) where
  shared : ServerState D κ
  pending : ℕ → List LogCall
  log : LogState

inductive Action (κ : Type) where
  | act (thread : ℕ) (activity : Activity κ)
  | log (thread : ℕ) (localTime : Option Tm)

def Action.thread : Action κ → ℕ
  | act thread _ => thread
  | log thread _ => thread

/-- The shared data behind an activity. -/
def Activity.apply (activity : Activity κ) (s : ServerState D κ) : Option (ServerState D κ) :=
  match activity.call with
  | some call => (threads D κ).step s call
  | none => some s

/-- All threads with the logger between them. A thread acts once its calls are made. -/
def process (D κ : Type) [CDouble D] : Labelled (Process D κ) (Action κ) where
  step p action :=
    match action with
    | .act thread activity =>
      if p.pending thread = [] then
        (activity.apply p.shared).map fun shared ↦
          { p with
            shared := shared
            pending := Function.update p.pending thread (activity.calls p.shared) }
      else none
    | .log thread localTime =>
      match p.pending thread with
      | call :: rest => some
          { p with
            pending := Function.update p.pending thread rest
            log := loggerWrite ⟨localTime, thread⟩ call p.log }
      | [] => none

/-- Every handler reads its own words. -/
def Isolated (p : Process D κ) : Action κ → Prop
  | .act _ activity => activity.OwnWords p.shared
  | .log _ _ => True

instance decidableIsolated (p : Process D κ) : ∀ action, Decidable (Isolated p action)
  | .act _ activity => inferInstanceAs (Decidable (activity.OwnWords p.shared))
  | .log _ _ => instDecidableTrue

/-- The process before its first connection, with the log as `start_server` has opened it. -/
def initialProcess (now : ℤ) (log : LogState) : Process D κ where
  shared := serverInit now
  pending _ := []
  log := log

/-- The call an action writes, with its stamp. -/
def written (p : Process D κ) : Action κ → List (Stamp × LogCall)
  | .act _ _ => []
  | .log thread localTime => ((p.pending thread).take 1).map fun call ↦ (⟨localTime, thread⟩, call)

/-- The calls an action puts before a thread. -/
def issued (p : Process D κ) : Action κ → List (ℕ × LogCall)
  | .act thread activity => (activity.calls p.shared).map fun call ↦ (thread, call)
  | .log _ _ => []

/-! ## Steps -/

theorem process_act_eq_some {p p' : Process D κ} {thread : ℕ} {activity : Activity κ} :
    (process D κ).step p (.act thread activity) = some p' ↔
      p.pending thread = [] ∧ ∃ shared, activity.apply p.shared = some shared ∧
        p' = { p with
          shared := shared
          pending := Function.update p.pending thread (activity.calls p.shared) } := by
  simp only [process]
  split
  · rename_i hidle
    simp only [hidle, true_and, Option.map_eq_some_iff]
    exact exists_congr fun shared ↦ and_congr_right fun _ ↦ eq_comm
  · rename_i hbusy
    simp [hbusy]

theorem process_log_eq_some {p p' : Process D κ} {thread : ℕ} {localTime : Option Tm} :
    (process D κ).step p (.log thread localTime) = some p' ↔
      ∃ call rest, p.pending thread = call :: rest ∧
        p' = { p with
          pending := Function.update p.pending thread rest
          log := loggerWrite ⟨localTime, thread⟩ call p.log } := by
  simp only [process]
  split
  · rename_i call rest hpending
    simp [hpending, eq_comm]
  · rename_i hidle
    simp [hidle]

/-! ## Own words -/

omit [CDouble D] in
theorem values_ownArgs (chunk : Chunk) : (ownArgs chunk).map (·.value) = (ownParse chunk).args := by
  simp [ownArgs, Argument.steady, Function.comp_def]

theorem parsed_ownWords (env : Env) (client : Client κ) (chunk : Chunk) (s : ServerState D κ) :
    (ownWords env client chunk s).parsed = ownParse chunk := by
  rw [Heard.parsed, ownWords, values_ownArgs]

/-- What a handler with its own words does to the shared data is a step of the server. -/
theorem apply_cases {activity : Activity κ} {s s' : ServerState D κ}
    (hown : activity.OwnWords s) (hstep : activity.apply s = some s') :
    s' = s ∨ ∃ event, (server D κ).step s event = some s' := by
  cases activity with
  | incoming | acceptError | started | stored => exact .inl (Option.some.inj hstep).symm
  | round peer client turn heard =>
    obtain rfl := hown
    refine .inr ⟨.request turn.env client turn.chunk, ?_⟩
    rw [← threads_step_call, Event.call, ← parsed_ownWords turn.env client turn.chunk s]
    exact hstep
  | store env chunk args =>
    obtain rfl := hown
    refine .inr ⟨.store env chunk, ?_⟩
    rw [← threads_step_call, Event.call, ← values_ownArgs chunk]
    exact hstep
  | check env chunk args pointer =>
    obtain rfl := hown
    refine .inr ⟨.check env chunk pointer, ?_⟩
    rw [← threads_step_call, Event.call, ← values_ownArgs chunk]
    exact hstep
  | finished peer client closed =>
    refine .inr ⟨.disconnect client, ?_⟩
    rw [← threads_step_call]
    exact hstep

/-! ## One line for each call -/

theorem single_activity_calls (activity : Activity κ) {s s' : ServerState D κ} (h : s.LineSafe)
    (hown : activity.OwnWords s) (hstep : activity.apply s = some s') :
    ∀ call ∈ activity.calls s, Single call.text := by
  cases activity with
  | incoming peer =>
    exact List.forall_mem_singleton.mpr (single_eventCall peer (CString.lineSafe_lit (by decide))
      (single_of_lineSafe CString.lineSafe_empty))
  | acceptError error =>
    refine List.forall_mem_singleton.mpr ?_
    cases error with
    | network => exact single_lit (by decide)
    | memory => exact single_lit (by decide)
    | thread => exact single_lit (by decide)
  | started peer configured =>
    refine List.forall_mem_append.mpr ⟨?_, List.forall_mem_singleton.mpr
      (single_eventCall peer (CString.lineSafe_lit (by decide)) (single_lit (by decide)))⟩
    split
    · simp
    · exact List.forall_mem_singleton.mpr (single_lit (by decide))
  | round peer client turn heard =>
    obtain rfl := hown
    exact single_iterationCalls peer client turn h
  | store env chunk args =>
    obtain rfl := hown
    exact single_storeCalls (fun arg harg ↦ (lineSafe_ownArgs harg).2) s
  | check env chunk args pointer =>
    obtain rfl := hown
    obtain ⟨hpointer, -⟩ := Option.ite_some_none_eq_some.mp hstep
    exact single_checkCalls env (fun arg harg ↦ (lineSafe_ownArgs harg).2) h hpointer
  | stored peer chunk sent rawMessage response =>
    obtain ⟨rfl, rfl⟩ := hown
    exact single_sendEvents peer sent (lineSafe_rawMessage chunk) (single_of_framed
      (framed_ok (CString.lineSafe_lit (by decide)) (by decide)))
  | finished peer client closed =>
    have hevent : Single (eventCall peer ⟨.info, some (.lit
        (if closed then "Client disconnected" else "Receive error or timeout")), ∅⟩).text := by
      apply single_eventCall peer _ (single_of_lineSafe CString.lineSafe_empty)
      cases closed with
      | true => exact CString.lineSafe_lit (by decide)
      | false => exact CString.lineSafe_lit (by decide)
    intro call hcall
    simp only [Activity.calls, finishedCalls, List.mem_cons, List.not_mem_nil, or_false,
      or_self] at hcall
    exact hcall ▸ hevent

/-- The shared data is reachable for the server alone, and all calls in flight are single. -/
structure Process.Safe (now : ℤ) (p : Process D κ) : Prop where
  reachable : (server D κ).Reachable (serverInit now) p.shared
  single : ∀ thread, ∀ call ∈ p.pending thread, Single call.text

theorem Process.Safe.step {now : ℤ} {p p' : Process D κ} (h : p.Safe now) {action : Action κ}
    (hisolated : Isolated p action) (hstep : (process D κ).step p action = some p') :
    p'.Safe now := by
  cases action with
  | act thread activity =>
    obtain ⟨hidle, shared, hshared, rfl⟩ := process_act_eq_some.mp hstep
    refine ⟨?_, fun other ↦ ?_⟩
    · obtain rfl | ⟨event, hevent⟩ := apply_cases hisolated hshared
      · exact h.reachable
      · exact h.reachable.step hevent
    · obtain rfl | hother := eq_or_ne other thread
      · simpa using
          single_activity_calls activity (lineSafe_of_reachable h.reachable) hisolated hshared
      · simpa [hother] using h.single other
  | log thread localTime =>
    obtain ⟨call, rest, hpending, rfl⟩ := process_log_eq_some.mp hstep
    refine ⟨h.reachable, fun other ↦ ?_⟩
    have hrest := (List.forall_mem_cons.mp (hpending ▸ h.single thread)).2
    obtain rfl | hother := eq_or_ne other thread
    · simpa using hrest
    · simpa [hother] using h.single other

/-! ## The file -/

/-- The log grows by the records of the calls that an action writes, in the open file too. -/
theorem log_of_step {p p' : Process D κ} {action : Action κ} {path : CString}
    (hopen : p.log.logFile = some path) (hstep : (process D κ).step p action = some p') :
    let text := ((written p action).map fun call ↦ (record call.1 call.2).bytes).flatten
    p'.log.logFile = some path ∧ p'.log.disk path = p.log.disk path ++ text ∧
      p'.log.stdout = p.log.stdout ++ text := by
  cases action with
  | act thread activity =>
    obtain ⟨-, shared, -, rfl⟩ := process_act_eq_some.mp hstep
    simp [written, hopen]
  | log thread localTime =>
    obtain ⟨call, rest, hpending, rfl⟩ := process_log_eq_some.mp hstep
    simp [written, hpending, hopen, disk_loggerWrite_of_open hopen]

/-- The calls of one thread. -/
def callsOf (thread : ℕ) (calls : List (ℕ × LogCall)) : List LogCall :=
  calls.filterMap fun call ↦ if call.1 = thread then some call.2 else none

/-- Each thread has written what was put before it, except for what is still pending. -/
theorem pending_of_step {p p' : Process D κ} {action : Action κ}
    (hstep : (process D κ).step p action = some p') (thread : ℕ) :
    p.pending thread ++ callsOf thread (issued p action) =
      callsOf thread ((written p action).map fun call ↦ (call.1.thread, call.2)) ++
        p'.pending thread := by
  cases action with
  | act other activity =>
    obtain ⟨hidle, shared, -, rfl⟩ := process_act_eq_some.mp hstep
    obtain rfl | hother := eq_or_ne thread other
    · simp [callsOf, written, issued, hidle, List.filterMap_map]
    · simp [callsOf, written, issued, hother, hother.symm, List.filterMap_map]
  | log other localTime =>
    obtain ⟨call, rest, hpending, rfl⟩ := process_log_eq_some.mp hstep
    obtain rfl | hother := eq_or_ne thread other
    · simp [callsOf, written, issued, hpending]
    · simp [callsOf, written, issued, hpending, hother, hother.symm]

/-- In every run each thread has written what was put before it, up to what is still pending. -/
theorem queues_of_run {p p' : Process D κ} {actions : List (Action κ)}
    (hrun : (process D κ).run p actions = some p') (thread : ℕ) :
    p.pending thread ++ callsOf thread ((process D κ).outputs issued p actions) =
      callsOf thread (((process D κ).outputs written p actions).map fun call ↦
        (call.1.thread, call.2)) ++ p'.pending thread := by
  have hqueue := Labelled.queue_of_run (fun q ↦ q.pending thread)
    (fun q action q' hstep ↦ pending_of_step hstep thread) hrun
  have hwritten : callsOf thread (((process D κ).outputs written p actions).map fun call ↦
        (call.1.thread, call.2)) =
      (process D κ).outputs (fun q action ↦ callsOf thread
        ((written q action).map fun call ↦ (call.1.thread, call.2))) p actions := by
    simp only [callsOf, List.filterMap_map]
    exact (process D κ).outputs_filterMap written _ _ actions
  rw [hwritten, callsOf, (process D κ).outputs_filterMap]
  exact hqueue

theorem single_of_written {now : ℤ} {p : Process D κ} (h : p.Safe now) (action : Action κ) :
    ∀ call ∈ written p action, Single call.2.text := by
  cases action with
  | act thread activity => simp [written]
  | log thread localTime =>
    rw [written, List.forall_mem_map]
    exact fun call hcall ↦ h.single thread call (List.mem_of_mem_take hcall)

/-- In every run in which the handlers read their own words, the log file and the standard output
grow by the same text. Its non-empty lines are the calls that have been written, one line each, and
every thread has written the calls that were put before it, in order, up to those that are still
pending. -/
theorem log_lines_of_run {now : ℤ} {log : LogState} {path : CString}
    (hopen : log.logFile = some path) {p : Process D κ} {actions : List (Action κ)}
    (hmeets : (process D κ).Meets Isolated (initialProcess now log) actions)
    (hrun : (process D κ).run (initialProcess now log) actions = some p) :
    let calls := (process D κ).outputs written (initialProcess now log) actions
    (∃ text, p.log.disk path = log.disk path ++ text ∧ p.log.stdout = log.stdout ++ text ∧
      pieces 10 text = calls.map fun call ↦ entry call.1 call.2) ∧
    ∀ thread, callsOf thread ((process D κ).outputs issued (initialProcess now log) actions) =
      callsOf thread (calls.map fun call ↦ (call.1.thread, call.2)) ++ p.pending thread := by
  intro calls
  constructor
  · let text (shown : List (Stamp × LogCall)) : Bytes :=
      (shown.map fun call ↦ (record call.1 call.2).bytes).flatten
    let inv (shown : List (Stamp × LogCall)) (q : Process D κ) : Prop :=
      q.Safe now ∧ (q.log.logFile = some path ∧ q.log.disk path = log.disk path ++ text shown ∧
        q.log.stdout = log.stdout ++ text shown) ∧ ∀ call ∈ shown, Single call.2.text
    have hstart : inv [] (initialProcess now log) :=
      ⟨⟨Labelled.Reachable.refl _ _, by simp [initialProcess]⟩,
        ⟨hopen, by simp [text, initialProcess]⟩, by simp⟩
    have hkeep (shown : List (Stamp × LogCall)) (q : Process D κ) (action : Action κ)
        (q' : Process D κ) (hinv : inv shown q) (hisolated : Isolated q action)
        (hstep : (process D κ).step q action = some q') :
        inv (shown ++ written q action) q' := by
      obtain ⟨hsafe, ⟨hfile, hdisk, hstdout⟩, hsingle⟩ := hinv
      obtain ⟨hfile', hdisk', hstdout'⟩ := log_of_step hfile hstep
      refine ⟨hsafe.step hisolated hstep, ⟨hfile', ?_, ?_⟩,
        List.forall_mem_append.mpr ⟨hsingle, single_of_written hsafe action⟩⟩
      · simp only [hdisk', hdisk, text, List.map_append, List.flatten_append, List.append_assoc]
      · simp only [hstdout', hstdout, text, List.map_append, List.flatten_append,
          List.append_assoc]
    obtain ⟨-, ⟨-, hdisk, hstdout⟩, hsingle⟩ :=
      Labelled.inv_of_meets_outputs inv hkeep hstart hmeets hrun
    refine ⟨text calls, hdisk, hstdout, ?_⟩
    rw [pieces_flatten, List.map_map]
    · rfl
    · exact List.forall_mem_map.mpr fun call hcall ↦ ended_record (hsingle call hcall) call.1
  · exact fun thread ↦ queues_of_run hrun thread

/-- A log file that is open and empty. -/
def emptyLog : LogState := ⟨[], some (.lit "server.log"), fun _ ↦ []⟩

def somePeer : Peer := ⟨(10, 0, 0, 1), 5000, true⟩

/-- A registration and a measurement, with what a handler reads of them. -/
def registerS1 : Round :=
  ⟨⟨0, fun _ ↦ 0, none⟩, ⟨ascii "REGISTER_SENSOR s1 energy\r\n", by decide, by decide⟩, true⟩

def measureS1 : Round :=
  ⟨⟨0, fun _ ↦ 0, none⟩, ⟨ascii "MEASUREMENT s1 900 W 0\r\n", by decide, by decide⟩, true⟩

def heardRegister : Heard :=
  ⟨.registerSensor, [.lit "s1", .lit "energy"].map .steady, some (.lit "REGISTER_SENSOR"),
    (ok "SENSOR_REGISTERED").text⟩

def heardMeasure : Heard :=
  ⟨.measurement, [.lit "s1", .lit "900", .lit "W", .lit "0"].map .steady,
    some (.lit "MEASUREMENT"), (ok "MEASUREMENT_RECEIVED").text⟩

/-- Two connections; the second one comes in while the first one registers and measures. -/
def sensorActions : List (Action ℕ) :=
  [.act 0 (.incoming somePeer), .log 0 none, .act 7 (.started somePeer true),
    .act 0 (.incoming ⟨(10, 0, 0, 2), 5001, true⟩), .log 7 none,
    .act 7 (.round somePeer ⟨5, 0⟩ registerS1 heardRegister), .log 7 none, .log 0 none, .log 7 none,
    .act 7 (.round somePeer ⟨5, 0⟩ measureS1 heardMeasure), .log 7 none, .log 7 none, .log 7 none,
    .act 8 (.started ⟨(10, 0, 0, 2), 5001, true⟩ false), .log 8 none]

theorem isolated_sensorActions :
    (process ℚ ℕ).Meets Isolated (initialProcess 0 emptyLog) sensorActions := by
  decide +kernel

theorem log_lines_of_run_sensor :
    ∃ p : Process ℚ ℕ, (process ℚ ℕ).run (initialProcess 0 emptyLog) sensorActions = some p ∧
      let calls := (process ℚ ℕ).outputs written (initialProcess 0 emptyLog) sensorActions
      (∃ text, p.log.disk (.lit "server.log") = emptyLog.disk (.lit "server.log") ++ text ∧
        p.log.stdout = emptyLog.stdout ++ text ∧
        pieces 10 text = calls.map fun call ↦ entry call.1 call.2) ∧
      ∀ thread, callsOf thread
          ((process ℚ ℕ).outputs issued (initialProcess 0 emptyLog) sensorActions) =
        callsOf thread (calls.map fun call ↦ (call.1.thread, call.2)) ++ p.pending thread := by
  obtain ⟨p, hrun⟩ : ∃ p, (process ℚ ℕ).run (initialProcess 0 emptyLog) sensorActions = some p :=
    Option.isSome_iff_exists.mp (by decide +kernel)
  exact ⟨p, hrun, log_lines_of_run rfl isolated_sensorActions hrun⟩

/-! ## Credentials -/

omit [CDouble D] in
/-- A LOGIN does the same for every two pairs of credentials with the same verdict. -/
theorem login_congr {env env' : Env} {args args' : List CString}
    (h : verdict env args = verdict env' args') (client : Client κ) (s : ServerState D κ) :
    login env client args s = login env' client args' s := by
  have hlogin (env : Env) (args : List CString) : login env client args s =
      match verdict env args with
      | some (.accepted role) =>
        ⟨{ s with operators := registerOperator client.fd client.context s.operators },
          .built (protocolBuildOk (some (CString.snprintf 128 (.lit "ROLE_" ++ role)))), none⟩
      | some .refused => ⟨s, error "401" "Invalid credentials", none⟩
      | some .unavailable => ⟨s, error "503" "Auth service unavailable", none⟩
      | none => ⟨s, missingArguments, none⟩ := by
    match args with
    | [] | [_] => rfl
    | username :: password :: _ =>
      simp only [login, verdict]
      cases authClientVerify env.authService username password 64 <;> rfl
  rw [hlogin, hlogin, h]

/-- Two rounds that are LOGINs of the same connection with the same spelling of the command and the
same verdict. -/
structure SameLogin (turn turn' : Round) : Prop where
  login : turn.chunk.message.type = .login
  login' : turn'.chunk.message.type = .login
  command : leadingWord isSpace (lineOf turn.chunk.bytes) =
    leadingWord isSpace (lineOf turn'.chunk.bytes)
  verdict : HandleClient.verdict turn.env turn.chunk.message.argStrings =
    HandleClient.verdict turn'.env turn'.chunk.message.argStrings
  sent : turn.sent = turn'.sent

/-- The same action, or two such rounds of the same thread. -/
inductive Alike : Action κ → Action κ → Prop where
  | same (action : Action κ) : Alike action action
  | login (thread : ℕ) (peer : Peer) (client : Client κ) {turn turn' : Round}
      (h : SameLogin turn turn') (heard heard' : Heard) :
      Alike (.act thread (.round peer client turn heard))
        (.act thread (.round peer client turn' heard'))

theorem SameLogin.respond_eq {turn turn' : Round} (h : SameLogin turn turn') (client : Client κ)
    (s : ServerState D κ) :
    respond turn.env client turn.chunk s = respond turn'.env client turn'.chunk s := by
  rw [HandleClient.respond_eq, HandleClient.respond_eq, h.login, h.login', dispatch, dispatch,
    login_congr h.verdict]

theorem SameLogin.iterationCalls_eq {turn turn' : Round} (h : SameLogin turn turn') (peer : Peer)
    (client : Client κ) (s : ServerState D κ) :
    iterationCalls peer turn.env turn.sent (ownWords turn.env client turn.chunk s) s =
      iterationCalls peer turn'.env turn'.sent (ownWords turn'.env client turn'.chunk s) s := by
  have hcalls : dispatchCalls turn.env (ownParse turn.chunk).type (ownArgs turn.chunk) s =
      dispatchCalls turn'.env (ownParse turn'.chunk).type (ownArgs turn'.chunk) s := by
    have hverdict : HandleClient.verdict turn.env (ownParse turn.chunk).args =
        HandleClient.verdict turn'.env (ownParse turn'.chunk).args := h.verdict
    simp only [ownParse, h.login, h.login', dispatchCalls, loginCalls, values_ownArgs] at hverdict ⊢
    rw [hverdict]
  have hevents : roundEvents client turn s = roundEvents client turn' s := by
    have hswitch (chunk : Chunk) (h : chunk.message.type = .login) :
        switchEvents chunk.bytes = [] := by
      simp [switchEvents, chunk.protocolParse_eq, h]
    rw [roundEvents, roundEvents, hswitch _ h.login, hswitch _ h.login', h.respond_eq,
      replyEvents_eq, replyEvents_eq, h.sent, rawMessage_congr h.command]
  rw [iterationCalls, iterationCalls, identify_send_eq_roundEvents, identify_send_eq_roundEvents,
    hevents]
  exact congrArg (· ++ _) hcalls

/-- Credentials leave no trace: runs of handlers with their own words that differ in the arguments
of LOGINs only, where the service gives the same verdicts, lead to the same shared data, the same
file and the same calls to come. -/
theorem run_eq_of_alike {p : Process D κ} {actions actions' : List (Action κ)}
    (h : List.Forall₂ Alike actions actions') (hmeets : (process D κ).Meets Isolated p actions)
    (hmeets' : (process D κ).Meets Isolated p actions') :
    (process D κ).run p actions = (process D κ).run p actions' := by
  refine (process D κ).run_eq_of_forall₂ (fun q action action' halike hown hown' ↦ ?_) h hmeets
    hmeets'
  cases halike with
  | same => rfl
  | @login thread peer client turn turn' hlogin heard heard' =>
    by_cases hidle : q.pending thread = []
    · have hstep (turn : Round) (heard : Heard) : (process D κ).step q
          (.act thread (.round peer client turn heard)) = some
            { q with
              shared :=
                (dispatch turn.env client heard.type (heard.args.map (·.value)) q.shared).state
              pending := Function.update q.pending thread
                (iterationCalls peer turn.env turn.sent heard q.shared) } := if_pos hidle
      obtain rfl : heard = _ := hown _ (hstep turn heard)
      obtain rfl : heard' = _ := hown' _ (hstep turn' heard')
      have hrespond := hlogin.respond_eq client q.shared
      rw [HandleClient.respond_eq, HandleClient.respond_eq] at hrespond
      rw [hstep, hstep, hlogin.iterationCalls_eq peer client q.shared]
      simp only [ownWords, values_ownArgs, ownParse, hrespond]
    · simp only [process, if_neg hidle]

/-- A LOGIN that a service accepts whatever the credentials are. -/
def acceptedLogin (text : String) (hpos : 0 < (ascii text).length)
    (hlt : (ascii text).length < maxBufferSize) : Round :=
  ⟨⟨0, fun _ ↦ 0, some fun _ ↦ ascii "ROLE:admin\n"⟩, ⟨ascii text, hpos, hlt⟩, true⟩

def loginAnn : Round := acceptedLogin "LOGIN ann secret\r\n" (by decide) (by decide)

def loginBob : Round := acceptedLogin "LOGIN bob qwerty\r\n" (by decide) (by decide)

/-- What a handler reads of an accepted LOGIN. -/
def heardLogin (username password : CString) : Heard :=
  ⟨.login, [username, password].map .steady, some (.lit "LOGIN"), (ok "ROLE_admin").text⟩

/-- A sensor registers, an operator logs in, and their calls are logged. -/
def loginActions (turn : Round) (heard : Heard) : List (Action ℕ) :=
  [.act 7 (.round somePeer ⟨5, 0⟩ registerS1 heardRegister), .log 7 none,
    .act 8 (.round ⟨(10, 0, 0, 2), 5001, true⟩ ⟨6, 1⟩ turn heard), .log 8 none, .log 7 none,
    .log 8 none, .log 8 none]

theorem run_eq_of_alike_ann_bob :
    (process ℚ ℕ).run (initialProcess 0 emptyLog)
        (loginActions loginAnn (heardLogin (.lit "ann") (.lit "secret"))) =
      (process ℚ ℕ).run (initialProcess 0 emptyLog)
        (loginActions loginBob (heardLogin (.lit "bob") (.lit "qwerty"))) := by
  have hlogin : SameLogin loginAnn loginBob := ⟨by decide, by decide, by decide, by decide, rfl⟩
  refine run_eq_of_alike ?_ (by decide +kernel) (by decide +kernel)
  exact .cons (.same _) (.cons (.same _) (.cons (.login 8 _ ⟨6, 1⟩ hlogin _ _)
    (.cons (.same _) (.cons (.same _) (.cons (.same _) (.cons (.same _) .nil))))))

end IotMonitoring.Server.Logger
