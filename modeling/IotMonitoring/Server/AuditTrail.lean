import IotMonitoring.Machine.Window
import IotMonitoring.Server.LogFile
import Mathlib.Data.List.Perm.Basic

/-!
# The log as an audit trail

Every slot that a registration takes into use and every alert that a check appends is logged. The
messages can be told from all others by how they start. While the handlers read their own words and
when none has calls to make, the lines of registrations are those of the registrations that took a
slot, which are what the sensor table holds, and the lines of triggered alerts are those of all
alerts that the checks of the run have raised, of which the engine shows the last hundred. The order
of the lines may differ from the order of the updates, since a thread logs a registration after it
has released the mutex of the table.
-/

namespace IotMonitoring.Server.Logger

open Text Machine Protocol SensorManager AlertEngine OperatorRegistry AuthClient HandleClient

variable {D κ : Type} [CDouble D]

/-! ## Messages -/

/-- A message that starts like those of new registrations. -/
def isRegistration : LogCall → Bool
  | .write .info message => (CString.lit "Sensor registered: ").bytes.isPrefixOf message.bytes
  | _ => false

/-- A message that starts like those of triggered alerts. -/
def isAlert : LogCall → Bool
  | .write .error message => (CString.lit "ALERT TRIGGERED: ").bytes.isPrefixOf message.bytes
  | _ => false

/-- Neither of the two. -/
def Plain (calls : List LogCall) : Prop :=
  ∀ call ∈ calls, isRegistration call = false ∧ isAlert call = false

theorem prefix_of_append_cut {front : CString} {n : ℕ} (h : front.length ≤ n) (rest : CString) :
    front.bytes.isPrefixOf ((front ++ rest).cut n).bytes := by
  rw [List.isPrefixOf_iff_prefix, CString.cut_append h]
  exact List.prefix_append _ _

theorem isRegistration_registeredMessage (sensorId sensorType : CString) :
    isRegistration (loggerInfo (registeredMessage sensorId sensorType)) := by
  unfold registeredMessage CString.snprintf
  simp only [CString.append_assoc]
  exact prefix_of_append_cut (by decide) _

omit [CDouble D] in
theorem isAlert_triggeredMessage [CDouble D] (sensorId : CString) (call : AlertCall D) :
    isAlert (loggerError (triggeredMessage sensorId call)) := by
  unfold triggeredMessage CString.snprintf
  simp only [CString.append_assoc]
  exact prefix_of_append_cut (by decide) _

theorem plain_events (peer : Peer) (events : List LogEvent) :
    Plain (events.map (eventCall peer)) :=
  List.forall_mem_map.mpr fun _ _ ↦ ⟨rfl, rfl⟩

theorem plain_nil : Plain [] := fun _ hcall ↦ absurd hcall List.not_mem_nil

theorem plain_singleton {call : LogCall} (hregister : isRegistration call = false)
    (halert : isAlert call = false) : Plain [call] :=
  List.forall_mem_singleton.mpr ⟨hregister, halert⟩

theorem Plain.append {front rest : List LogCall} (hfront : Plain front) (hrest : Plain rest) :
    Plain (front ++ rest) := List.forall_mem_append.mpr ⟨hfront, hrest⟩

theorem Plain.filter_eq_nil {calls : List LogCall} (h : Plain calls) :
    calls.filter isRegistration = [] ∧ calls.filter isAlert = [] :=
  ⟨List.filter_eq_nil_iff.mpr fun call hcall ↦ by simp [(h call hcall).1],
    List.filter_eq_nil_iff.mpr fun call hcall ↦ by simp [(h call hcall).2]⟩

/-! ## Registrations and alerts of a run -/

/-- Id and type of a registration that takes a slot into use. -/
def newRegistration (env : Env) (args : List CString) (s : ServerState D κ) :
    List (CString × CString) :=
  match args with
  | sensorId :: sensorType :: _ =>
    if s.sensors.count < (register env.time sensorType sensorId s.sensors).1.count then
      [(sensorId, sensorType)]
    else []
  | _ => []

/-- The alerts that the second update of a MEASUREMENT raises. -/
def checkAlerts (env : Env) (args : List CString) (pointer : Fin maxSensors)
    (s : ServerState D κ) : List (AlertCall D) :=
  match args with
  | sensorId :: valueText :: _ :: _ =>
    (checkMeasurement env.alertTime sensorId (typeAt s.sensors pointer)
      (CDouble.atof valueText : D) s.engine).2
  | _ => []

/-- The alerts that a MEASUREMENT raises. -/
def measurementAlerts (env : Env) (args : List CString) (s : ServerState D κ) :
    List (AlertCall D) :=
  match args with
  | sensorId :: valueText :: unit :: _ =>
    let value : D := CDouble.atof valueText
    let added := addMeasurement env.time sensorId value unit s.sensors
    if added.2 = 0 then
      match getSensorType sensorId added.1 with
      | some pointer =>
        (checkMeasurement env.alertTime sensorId (typeAt added.1 pointer) value s.engine).2
      | none => []
    else []
  | _ => []

/-- What a command registers. -/
def commandRegisters (env : Env) (parsed : Parsed) (s : ServerState D κ) :
    List (CString × CString) :=
  match parsed.type with
  | .registerSensor => newRegistration env parsed.args s
  | _ => []

/-- What a command raises. -/
def commandRaises (env : Env) (parsed : Parsed) (s : ServerState D κ) : List (AlertCall D) :=
  match parsed.type with
  | .measurement => measurementAlerts env parsed.args s
  | _ => []

/-- The registrations of an action that take a slot into use. -/
def registered (p : Process D κ) : Action κ → List (CString × CString)
  | .act _ (.round _ _ turn heard) => commandRegisters turn.env heard.parsed p.shared
  | _ => []

/-- The alerts that the checks of an action raise. -/
def raised (p : Process D κ) : Action κ → List (AlertCall D)
  | .act _ (.round _ _ turn heard) => commandRaises turn.env heard.parsed p.shared
  | .act _ (.check env _ args pointer) => checkAlerts env (args.map (·.value)) pointer p.shared
  | _ => []

/-! ## Updates and their messages -/

/-- What the table keeps of a registration. -/
def storedEntry (entry : CString × CString) : CString × CString := (entry.1.cut 31, entry.2.cut 15)

/-- The line of a registration. -/
def registrationCall (entry : CString × CString) : LogCall :=
  loggerInfo (registeredMessage entry.1 entry.2)

/-- What an alert says: id, type, value, level and message. -/
def alertEntry (alert : ActiveAlert D) : CString × CString × D × AlertLevel × CString :=
  (alert.sensorId.str, alert.sensorType.str, alert.value, alert.level, alert.message.str)

/-- What the array keeps of a call of `add_active_alert`. -/
def storedAlert (call : AlertCall D) : CString × CString × D × AlertLevel × CString :=
  (call.sensorId.cut 31, call.sensorType.cut 15, call.value, call.level, call.message.cut 255)

/-- The line of an alert. -/
def alertCall (call : AlertCall D) : LogCall :=
  loggerError (triggeredMessage call.sensorId call)

/-- The update appends the registrations and the alerts, and the calls are their lines. -/
structure Audited (s s' : ServerState D κ) (registered : List (CString × CString))
    (raised : List (AlertCall D)) (calls : List LogCall) : Prop where
  table : directory s'.sensors = directory s.sensors ++ registered.map storedEntry
  alerts : s'.engine.activeAlerts.live.map alertEntry =
    (s.engine.activeAlerts.live.map alertEntry ++ raised.map storedAlert).rtake maxAlerts
  registrationLines : calls.filter isRegistration = registered.map registrationCall
  alertLines : calls.filter isAlert = raised.map alertCall

omit [CDouble D] in
theorem rtake_entries (alerts : AlertList D) :
    (alerts.live.map alertEntry).rtake maxAlerts = alerts.live.map alertEntry :=
  rtake_of_length_le (by simpa using alerts.count_le)

/-- What changes neither table nor alerts has plain messages. -/
theorem audited_of_plain {s s' : ServerState D κ} {calls : List LogCall}
    (hsensors : directory s'.sensors = directory s.sensors) (hengine : s'.engine = s.engine)
    (h : Plain calls) : Audited s s' [] [] calls where
  table := by simp [hsensors]
  alerts := by simp [hengine, rtake_entries]
  registrationLines := h.filter_eq_nil.1
  alertLines := h.filter_eq_nil.2

theorem Audited.trans {s t u : ServerState D κ} {registered registered' : List (CString × CString)}
    {raised raised' : List (AlertCall D)} {calls calls' : List LogCall}
    (h : Audited s t registered raised calls) (h' : Audited t u registered' raised' calls') :
    Audited s u (registered ++ registered') (raised ++ raised') (calls ++ calls') where
  table := by rw [h'.table, h.table, List.map_append, List.append_assoc]
  alerts := by
    rw [h'.alerts, h.alerts, rtake_rtake_append, List.map_append, List.append_assoc]
  registrationLines := by
    rw [List.filter_append, h.registrationLines, h'.registrationLines, List.map_append]
  alertLines := by rw [List.filter_append, h.alertLines, h'.alertLines, List.map_append]

/-! ## The functions -/

theorem audited_register (env : Env) (sensorId sensorType : CString) (rest : List CString)
    (s : ServerState D κ) :
    Audited s { s with sensors := (register env.time sensorType sensorId s.sensors).1 }
      (newRegistration env (sensorId :: sensorType :: rest) s) []
      (registerCalls (.steady sensorType) (.steady sensorId) s.sensors) := by
  rw [newRegistration]
  obtain ⟨i, hfind, heq⟩ | ⟨hfind, hroom, heq⟩ | ⟨hfind, hfull, heq⟩ :=
    register_cases env.time sensorType sensorId s.sensors
  · have hkeys : directory (s.sensors.modify i Sensor.activate) = directory s.sensors :=
      s.sensors.keys_modify Sensor.entry i fun _ ↦ rfl
    rw [heq, if_neg (by simp)]
    refine audited_of_plain hkeys rfl ?_
    simp only [registerCalls, Argument.steady, hfind]
    exact plain_singleton rfl rfl
  · have hgrow : s.sensors.count < (s.sensors.push hroom
        ((s.sensors.next hroom).fill env.time sensorType sensorId)).count := Nat.lt_succ_self _
    rw [heq, if_pos hgrow]
    refine ⟨?_, by simp [rtake_entries], ?_, ?_⟩
    · simp [directory, Slots.keys_push, storedEntry]
    · simp only [registerCalls, Argument.steady, hfind, if_pos hroom]
      rw [List.filter_cons_of_pos (isRegistration_registeredMessage sensorId sensorType)]
      rfl
    · simp only [registerCalls, Argument.steady, hfind, if_pos hroom]
      rfl
  · rw [heq, if_neg (lt_irrefl _)]
    refine audited_of_plain rfl rfl ?_
    simp only [registerCalls, Argument.steady, hfind, hfull, lt_irrefl, if_false]
    exact plain_singleton rfl (by decide)

theorem audited_store (env : Env) (args : List CString) (s : ServerState D κ) :
    Audited s (storeMeasurement env args s) [] [] (storeCalls (args.map .steady) s) := by
  match args with
  | [] | [_] | [_, _] => exact audited_of_plain rfl rfl plain_nil
  | sensorId :: valueText :: unit :: rest =>
    refine audited_of_plain (directory_addMeasurement _ _ _ _ _) rfl ?_
    rw [List.map_cons, List.map_cons, List.map_cons, storeCalls, addMeasurementCalls]
    split
    · exact plain_singleton rfl rfl
    · exact plain_singleton rfl (by decide)

/-- The alerts of the array are the last ones of those there were and those that are raised. -/
theorem entries_checkLoop (now : Fin maxAlerts → ℤ) (sensorId sensorType : CString) (value : D)
    (rounds : List (Fin maxAlerts)) (engine : Engine D) :
    let result := checkLoop now sensorId sensorType value rounds engine
    result.1.activeAlerts.live.map alertEntry =
      (engine.activeAlerts.live.map alertEntry ++ result.2.map storedAlert).rtake maxAlerts := by
  induction rounds generalizing engine with
  | nil => simpa [checkLoop] using (rtake_entries engine.activeAlerts).symm
  | cons i rest ih =>
    cases hcall : triggered sensorId sensorType value (engine.thresholds.get i) with
    | none => simpa only [checkLoop, hcall] using ih engine
    | some call =>
      obtain ⟨slot, hlive⟩ := live_addActiveAlert (now i) call engine.activeAlerts
      have hentry : alertEntry (ActiveAlert.fill slot (now i) call) = storedAlert call := by
        simp [alertEntry, ActiveAlert.fill, storedAlert]
      simp only [checkLoop, hcall, List.map_cons]
      rw [ih, hlive, map_rtake, rtake_rtake_append, List.map_append, List.map_singleton, hentry,
        List.append_assoc, List.singleton_append]

theorem audited_check (env : Env) (args : List CString) (pointer : Fin maxSensors)
    (s : ServerState D κ) :
    Audited s (checkStored env args pointer s) [] (checkAlerts env args pointer s)
      (checkCalls env (args.map .steady) pointer s) := by
  match args with
  | [] | [_] | [_, _] => exact audited_of_plain rfl rfl plain_nil
  | sensorId :: valueText :: unit :: rest =>
    have hcalls : checkCalls env ((sensorId :: valueText :: unit :: rest).map .steady) pointer s =
        (checkAlerts env (sensorId :: valueText :: unit :: rest) pointer s).map alertCall := by
      refine List.map_congr_left fun call hcall ↦ ?_
      rw [calls_checkMeasurement, List.mem_filterMap] at hcall
      obtain ⟨threshold, -, htriggered⟩ := hcall
      rw [alertCall, AlertLog.sensorId_of_triggered htriggered, Argument.steady]
    rw [hcalls]
    refine ⟨by simp [checkStored], entries_checkLoop _ _ _ _ _ _, ?_, ?_⟩
    · rw [List.map_nil, List.filter_eq_nil_iff, List.forall_mem_map]
      exact fun call _ ↦ by simp [isRegistration, alertCall, loggerError]
    · refine List.filter_eq_self.mpr (List.forall_mem_map.mpr fun call _ ↦ ?_)
      exact isAlert_triggeredMessage call.sensorId call

/-- A MEASUREMENT stores and logs nothing, or makes its first update, or both. -/
theorem measurement_cases (env : Env) (args : List CString) (s : ServerState D κ) :
    ((measurement env args s).state = s ∧ measurementCalls env (args.map .steady) s = [] ∧
      measurementAlerts env args s = []) ∨
    ((measurement env args s).state = storeMeasurement env args s ∧
      measurementCalls env (args.map .steady) s = storeCalls (args.map .steady) s ∧
      measurementAlerts env args s = []) ∨
    ∃ pointer : Fin maxSensors,
      (measurement env args s).state =
        checkStored env args pointer (storeMeasurement env args s) ∧
      measurementCalls env (args.map .steady) s = storeCalls (args.map .steady) s ++
        checkCalls env (args.map .steady) pointer (storeMeasurement env args s) ∧
      measurementAlerts env args s =
        checkAlerts env args pointer (storeMeasurement env args s) := by
  match args with
  | [] | [_] | [_, _] => exact .inl ⟨rfl, rfl, rfl⟩
  | sensorId :: valueText :: unit :: rest =>
    right
    simp only [measurement, measurementCalls, measurementAlerts, storeMeasurement, storeCalls,
      checkStored, checkCalls, checkAlerts, List.map_cons, Argument.steady]
    split
    · cases getSensorType sensorId
          (addMeasurement env.time sensorId (CDouble.atof valueText : D) unit s.sensors).1 with
      | some pointer => exact .inr ⟨pointer, rfl, rfl, rfl⟩
      | none => exact .inl ⟨rfl, List.append_nil _, rfl⟩
    · exact .inl ⟨rfl, List.append_nil _, rfl⟩

theorem audited_registerSensor (env : Env) (args : List CString) (s : ServerState D κ) :
    Audited s (registerSensor env args s).state (newRegistration env args s) []
      (registerSensorCalls (args.map .steady) s) := by
  match args with
  | [] | [_] => exact audited_of_plain rfl rfl plain_nil
  | sensorId :: sensorType :: rest =>
    simp only [registerSensor, registerSensorCalls, List.map_cons]
    split <;> exact audited_register env sensorId sensorType rest s

theorem audited_login (env : Env) (client : Client κ) (args : List CString)
    (s : ServerState D κ) :
    Audited s (login env client args s).state [] [] (loginCalls env (args.map .steady) s) := by
  have hplain : Plain (loginCalls env (args.map .steady) s) := by
    unfold loginCalls registerOperatorCalls
    split
    · refine Plain.append ?_ (plain_singleton (by decide) rfl)
      split
      · exact plain_singleton (by decide) rfl
      · exact plain_nil
    · exact plain_nil
  match args with
  | [] | [_] => exact audited_of_plain rfl rfl plain_nil
  | username :: password :: rest =>
    simp only [login]
    split <;> exact audited_of_plain rfl rfl hplain

theorem audited_dispatch (env : Env) (client : Client κ) (parsed : Parsed) (s : ServerState D κ) :
    Audited s (dispatch env client parsed.type parsed.args s).state
      (commandRegisters env parsed s) (commandRaises env parsed s)
      (dispatchCalls env parsed.type (parsed.args.map .steady) s) := by
  obtain ⟨type, args⟩ := parsed
  have hidle : Audited s s [] [] [] := audited_of_plain rfl rfl plain_nil
  cases type with
  | registerSensor => exact audited_registerSensor env args s
  | measurement =>
    simp only [dispatch, dispatchCalls, commandRegisters, commandRaises]
    obtain ⟨hstate, hcalls, hnone⟩ | ⟨hstate, hcalls, hnone⟩ | ⟨pointer, hstate, hcalls, halerts⟩ :=
      measurement_cases env args s
    · rw [hstate, hcalls, hnone]
      exact hidle
    · rw [hstate, hcalls, hnone]
      exact audited_store env args s
    · rw [hstate, hcalls, halerts]
      exact (audited_store env args s).trans (audited_check env args pointer _)
  | login => exact audited_login env client args s
  | getSensors =>
    simp only [dispatch, getSensors]
    split <;> exact hidle
  | getAlerts =>
    simp only [dispatch, getAlerts]
    split <;> exact hidle
  | ping => exact hidle
  | operatorIdentify => exact hidle
  | getStatus => exact hidle
  | unknown => exact hidle

/-- Every activity with own words registers and raises what its calls are the lines of. -/
theorem audited_activity {p : Process D κ} (thread : ℕ) {activity : Activity κ}
    {s' : ServerState D κ} (hown : activity.OwnWords p.shared)
    (h : activity.apply p.shared = some s') :
    Audited p.shared s' (registered p (.act thread activity)) (raised p (.act thread activity))
      (activity.calls p.shared) := by
  cases activity with
  | round peer client turn heard =>
    obtain rfl := hown
    obtain rfl := Option.some.inj h
    have hcommand := audited_dispatch turn.env client (ownParse turn.chunk) p.shared
    have hevents (s : ServerState D κ) (events : List LogEvent) :
        Audited s s [] [] (events.map (eventCall peer)) :=
      audited_of_plain rfl rfl (plain_events peer events)
    have hround := hcommand.trans (hevents _ (roundEvents client turn p.shared))
    rw [List.append_nil, List.append_nil, ← identify_send_eq_roundEvents] at hround
    simp only [registered, raised, parsed_ownWords]
    exact hround
  | store env chunk args =>
    obtain rfl := hown
    obtain rfl := Option.some.inj h
    rw [values_ownArgs]
    exact audited_store env _ p.shared
  | check env chunk args pointer =>
    obtain rfl := hown
    obtain ⟨-, rfl⟩ := Option.ite_some_none_eq_some.mp h
    simp only [registered, raised, values_ownArgs]
    exact audited_check env _ pointer p.shared
  | finished peer client closed =>
    obtain rfl := Option.some.inj h
    exact audited_of_plain rfl rfl (Plain.append (plain_singleton rfl rfl)
      (plain_singleton rfl rfl))
  | incoming peer =>
    obtain rfl := Option.some.inj h
    exact audited_of_plain rfl rfl (plain_singleton rfl rfl)
  | acceptError error =>
    obtain rfl := Option.some.inj h
    refine audited_of_plain rfl rfl (plain_singleton rfl ?_)
    cases error <;> decide
  | started peer configured =>
    obtain rfl := Option.some.inj h
    refine audited_of_plain rfl rfl (Plain.append ?_ (plain_singleton rfl rfl))
    split
    · exact plain_nil
    · exact plain_singleton rfl (by decide)
  | stored peer chunk sent rawMessage response =>
    obtain rfl := Option.some.inj h
    exact audited_of_plain rfl rfl (plain_events peer _)

/-! ## Runs -/

/-- An action registers and raises what the calls are the lines of that it puts before its
thread. -/
theorem audited_step {p p' : Process D κ} {action : Action κ} (hisolated : Isolated p action)
    (hstep : (process D κ).step p action = some p') :
    Audited p.shared p'.shared (registered p action) (raised p action)
      ((issued p action).map Prod.snd) := by
  cases action with
  | act thread activity =>
    obtain ⟨-, shared, hshared, rfl⟩ := process_act_eq_some.mp hstep
    have hissued : (issued p (.act thread activity)).map Prod.snd = activity.calls p.shared := by
      simp [issued, Function.comp_def]
    rw [hissued]
    exact audited_activity thread hisolated hshared
  | log thread localTime =>
    obtain ⟨call, rest, -, rfl⟩ := process_log_eq_some.mp hstep
    exact audited_of_plain rfl rfl plain_nil

/-- The sensor table holds the registrations of the run. -/
theorem directory_of_run {now : ℤ} {log : LogState} {p : Process D κ} {actions : List (Action κ)}
    (hmeets : (process D κ).Meets Isolated (initialProcess now log) actions)
    (hrun : (process D κ).run (initialProcess now log) actions = some p) :
    directory p.shared.sensors =
      ((process D κ).outputs registered (initialProcess now log) actions).map storedEntry := by
  let inv (shown : List (CString × CString)) (q : Process D κ) : Prop :=
    directory q.shared.sensors = shown.map storedEntry
  have hstart : inv [] (initialProcess now log) := by
    have hempty : directory (serverInit now : ServerState D κ).sensors = [] := by
      rw [← List.length_eq_zero_iff, length_directory]
      rfl
    exact hempty
  have hkeep (shown : List (CString × CString)) (q : Process D κ) (action : Action κ)
      (q' : Process D κ) (hinv : inv shown q) (hisolated : Isolated q action)
      (hstep : (process D κ).step q action = some q') : inv (shown ++ registered q action) q' := by
    simp only [inv] at hinv ⊢
    rw [(audited_step hisolated hstep).table, hinv, List.map_append]
  have hend := Labelled.inv_of_meets_outputs inv hkeep hstart hmeets hrun
  rwa [List.nil_append] at hend

/-- The engine shows the last hundred alerts of the run. -/
theorem alerts_of_run {now : ℤ} {log : LogState} {p : Process D κ} {actions : List (Action κ)}
    (hmeets : (process D κ).Meets Isolated (initialProcess now log) actions)
    (hrun : (process D κ).run (initialProcess now log) actions = some p) :
    p.shared.engine.activeAlerts.live.map alertEntry =
      (((process D κ).outputs raised (initialProcess now log) actions).map storedAlert).rtake
        maxAlerts := by
  let inv (shown : List (AlertCall D)) (q : Process D κ) : Prop :=
    q.shared.engine.activeAlerts.live.map alertEntry = (shown.map storedAlert).rtake maxAlerts
  have hstart : inv [] (initialProcess now log) := by
    simp [inv, initialProcess, serverInit, AlertEngine.init]
  have hkeep (shown : List (AlertCall D)) (q : Process D κ) (action : Action κ)
      (q' : Process D κ) (hinv : inv shown q) (hisolated : Isolated q action)
      (hstep : (process D κ).step q action = some q') : inv (shown ++ raised q action) q' := by
    simp only [inv] at hinv ⊢
    rw [(audited_step hisolated hstep).alerts, hinv, rtake_rtake_append, List.map_append]
  have hend := Labelled.inv_of_meets_outputs inv hkeep hstart hmeets hrun
  rwa [List.nil_append] at hend

/-- The lines that the activities of a run put before the threads are those of its registrations and
of its alerts. -/
theorem lines_of_run {p : Process D κ} {actions : List (Action κ)}
    (hmeets : (process D κ).Meets Isolated p actions) :
    let calls := ((process D κ).outputs issued p actions).map Prod.snd
    calls.filter isRegistration =
        ((process D κ).outputs registered p actions).map registrationCall ∧
      calls.filter isAlert = ((process D κ).outputs raised p actions).map alertCall := by
  let registers (calls : List (ℕ × LogCall)) (entries : List (CString × CString)) : Prop :=
    (calls.map Prod.snd).filter isRegistration = entries.map registrationCall
  let raises (calls : List (ℕ × LogCall)) (alerts : List (AlertCall D)) : Prop :=
    (calls.map Prod.snd).filter isAlert = alerts.map alertCall
  have hregister : registers ((process D κ).outputs issued p actions)
      ((process D κ).outputs registered p actions) := by
    refine Labelled.rel_of_outputs registers rfl (fun _ _ _ _ hfront hrest ↦ ?_)
      (fun q action q' hisolated hstep ↦ (audited_step hisolated hstep).registrationLines) hmeets
    simp only [registers] at hfront hrest ⊢
    rw [List.map_append, List.filter_append, hfront, hrest, List.map_append]
  have hraise : raises ((process D κ).outputs issued p actions)
      ((process D κ).outputs raised p actions) := by
    refine Labelled.rel_of_outputs raises rfl (fun _ _ _ _ hfront hrest ↦ ?_)
      (fun q action q' hisolated hstep ↦ (audited_step hisolated hstep).alertLines) hmeets
    simp only [raises] at hfront hrest ⊢
    rw [List.map_append, List.filter_append, hfront, hrest, List.map_append]
  exact ⟨hregister, hraise⟩

/-- Calls that every thread makes in the same order are the same calls. -/
theorem perm_of_callsOf_eq {calls calls' : List (ℕ × LogCall)}
    (h : ∀ thread, callsOf thread calls = callsOf thread calls') : calls.Perm calls' := by
  have hcount (calls : List (ℕ × LogCall)) (call : ℕ × LogCall) :
      calls.count call = (callsOf call.1 calls).count call.2 := by
    induction calls with
    | nil => rfl
    | cons head rest ih =>
      obtain ⟨thread, text⟩ := head
      by_cases hthread : thread = call.1
      · subst hthread
        simp only [callsOf, List.filterMap_cons, if_true, List.count_cons] at ih ⊢
        rw [ih]
        congr 1
        simp [Prod.ext_iff]
      · have hne : ¬ (thread, text) = call := fun heq ↦ hthread (heq ▸ rfl)
        simpa [callsOf, hthread, List.count_cons, hne] using ih
  apply List.perm_iff_count.mpr
  intro call
  rw [hcount, hcount, h]

/-- When the handlers have read their own words and no thread has calls left, the lines of
registrations are those of the registrations that took a slot, which the sensor table holds, and the
lines of triggered alerts are those of all alerts that the checks have raised, of which the engine
shows the last hundred. -/
theorem audit_of_run {now : ℤ} {log : LogState} {p : Process D κ} {actions : List (Action κ)}
    (hmeets : (process D κ).Meets Isolated (initialProcess now log) actions)
    (hrun : (process D κ).run (initialProcess now log) actions = some p)
    (hidle : ∀ thread, p.pending thread = []) :
    let calls := ((process D κ).outputs written (initialProcess now log) actions).map Prod.snd
    let registrations := (process D κ).outputs registered (initialProcess now log) actions
    let alerts := (process D κ).outputs raised (initialProcess now log) actions
    directory p.shared.sensors = registrations.map storedEntry ∧
      p.shared.engine.activeAlerts.live.map alertEntry =
        (alerts.map storedAlert).rtake maxAlerts ∧
      (calls.filter isRegistration).Perm (registrations.map registrationCall) ∧
      (calls.filter isAlert).Perm (alerts.map alertCall) := by
  intro calls registrations alerts
  have hperm : (((process D κ).outputs issued (initialProcess now log) actions).map Prod.snd).Perm
      calls := by
    have hthreads : ((process D κ).outputs issued (initialProcess now log) actions).Perm
        (((process D κ).outputs written (initialProcess now log) actions).map fun call ↦
          (call.1.thread, call.2)) := by
      apply perm_of_callsOf_eq
      intro thread
      have hqueue := queues_of_run hrun thread
      rw [hidle thread, List.append_nil] at hqueue
      exact hqueue
    have hcalls := hthreads.map Prod.snd
    rwa [List.map_map] at hcalls
  obtain ⟨hregistrations, halerts⟩ := lines_of_run hmeets
  exact ⟨directory_of_run hmeets hrun, alerts_of_run hmeets hrun,
    hregistrations ▸ (hperm.filter isRegistration).symm, halerts ▸ (hperm.filter isAlert).symm⟩

/-- A thread that does nothing has nothing to log. -/
theorem idle_of_run {p p' : Process D κ} {thread : ℕ} {actions : List (Action κ)}
    (hidle : p.pending thread = []) (hother : ∀ action ∈ actions, action.thread ≠ thread)
    (hrun : (process D κ).run p actions = some p') : p'.pending thread = [] := by
  induction actions generalizing p with
  | nil => exact Option.some.inj hrun ▸ hidle
  | cons action actions ih =>
    obtain ⟨q, hstep, hrest⟩ := (process D κ).run_cons_eq_some.mp hrun
    obtain ⟨hne, hothers⟩ := List.forall_mem_cons.mp hother
    refine ih ?_ hothers hrest
    cases action with
    | act other activity =>
      obtain ⟨-, shared, -, rfl⟩ := process_act_eq_some.mp hstep
      exact (Function.update_of_ne hne.symm _ _).trans hidle
    | log other localTime =>
      obtain ⟨call, rest, -, rfl⟩ := process_log_eq_some.mp hstep
      exact (Function.update_of_ne hne.symm _ _).trans hidle

/-- The two connections of `sensorActions`, until all calls are made. -/
def auditedActions : List (Action ℕ) :=
  sensorActions ++ [.log 8 none]

theorem audit_of_run_sensor :
    ∃ p : Process ℚ ℕ, (process ℚ ℕ).run (initialProcess 0 emptyLog) auditedActions = some p ∧
      let calls := ((process ℚ ℕ).outputs written (initialProcess 0 emptyLog) auditedActions).map
        Prod.snd
      let registrations :=
        (process ℚ ℕ).outputs registered (initialProcess 0 emptyLog) auditedActions
      let alerts := (process ℚ ℕ).outputs raised (initialProcess 0 emptyLog) auditedActions
      registrations = [(.lit "s1", .lit "energy")] ∧ alerts.length = 1 ∧
        directory p.shared.sensors = registrations.map storedEntry ∧
        p.shared.engine.activeAlerts.live.map alertEntry =
          (alerts.map storedAlert).rtake maxAlerts ∧
        (calls.filter isRegistration).Perm (registrations.map registrationCall) ∧
        (calls.filter isAlert).Perm (alerts.map alertCall) := by
  have hmeets : (process ℚ ℕ).Meets Isolated (initialProcess 0 emptyLog) auditedActions := by
    decide +kernel
  obtain ⟨p, hrun, hidle⟩ : ∃ p, (process ℚ ℕ).run (initialProcess 0 emptyLog) auditedActions =
      some p ∧ ∀ thread, p.pending thread = [] := by
    have hpending : ((process ℚ ℕ).run (initialProcess 0 emptyLog) auditedActions).map
        (fun p ↦ [0, 7, 8].map fun thread ↦ (p.pending thread).length) = some [0, 0, 0] := by
      decide +kernel
    obtain ⟨p, hrun, hlengths⟩ := Option.map_eq_some_iff.mp hpending
    simp only [List.map_cons, List.map_nil, List.cons.injEq, List.length_eq_zero_iff, and_true]
      at hlengths
    obtain ⟨h0, h7, h8⟩ := hlengths
    refine ⟨p, hrun, fun thread ↦ ?_⟩
    by_cases hthread : thread ∈ [0, 7, 8]
    · simp only [List.mem_cons, List.not_mem_nil, or_false] at hthread
      obtain rfl | rfl | rfl := hthread
      · exact h0
      · exact h7
      · exact h8
    · have hthreads : auditedActions.all (·.thread ∈ [0, 7, 8]) := by decide
      refine idle_of_run rfl (fun action haction heq ↦ hthread ?_) hrun
      exact heq ▸ of_decide_eq_true (List.all_eq_true.mp hthreads action haction)
  exact ⟨p, hrun, by decide +kernel, by decide +kernel, audit_of_run hmeets hrun hidle⟩

end IotMonitoring.Server.Logger
