import IotMonitoring.Machine.Tagged
import IotMonitoring.Server.HandleClient
import IotMonitoring.Server.SensorRuns

/-!
# Registrations and measurements under interleaving

A MEASUREMENT makes four calls, each under its own lock, and other handlers may run between them.
The first call settles the outcome: it finds a slot whose id and type never change afterwards, and
the rules against which the value is checked never change either. Hence an interleaving calls
`add_active_alert` and `broadcast_alert` as often, and with the same arguments, as the commands do
when each runs at once in the order of their first calls.
-/

namespace IotMonitoring.Server.Interleaving

open Text Machine Tagged SensorManager AlertEngine HandleClient

/-- The arguments of a MEASUREMENT. -/
structure Measurement (D : Type) where
  sensorId : CString
  value : D
  unit : CString
deriving DecidableEq

/-- A command with its arguments. -/
inductive Command (D : Type) where
  | registerSensor (sensorId sensorType : CString)
  | measurement (m : Measurement D)
deriving DecidableEq

/-- Where a handler stands: before a command, after `sensor_manager_add_measurement` has returned
0, with the type that `sensor_manager_get_sensor_type` has pointed to, or with alerts triggered. -/
inductive Phase (D : Type) where
  | ready
  | stored (m : Measurement D)
  | typed (m : Measurement D) (pointer : Fin maxSensors)
  | checked (m : Measurement D) (pointer : Fin maxSensors)
deriving DecidableEq

/-- The shared data, with the calls of `add_active_alert` and `broadcast_alert` each handler has
made. -/
structure Effects (ι D : Type) where
  sensors : SensorTable D
  engine : Engine D
  alerts : List (ι × AlertCall D)
  broadcasts : List (ι × CString)

/-- The time and the handler of a command's first call. -/
structure Started (D : Type) where
  now : ℤ
  command : Command D

/-- All handlers; `pending` are the commands a handler has still to begin, and `started` the
commands in the order of their first calls. -/
structure State (ι D : Type) extends Effects ι D where
  phase : ι → Phase D
  pending : ι → List (Command D)
  started : List (ι × Started D)

/-- One call of one handler, with the clock it reads. -/
inductive Call (ι : Type) where
  | first (i : ι) (now : ℤ)
  | getSensorType (i : ι)
  | checkMeasurement (i : ι) (now : Fin maxAlerts → ℤ)
  | broadcastAlert (i : ι)

variable {ι D : Type} [CDouble D]

/-- The first call of a command, with its return value. -/
def Command.first (now : ℤ) : Command D → SensorTable D → SensorTable D × ℤ
  | registerSensor sensorId sensorType => register now sensorType sensorId
  | measurement m => addMeasurement now m.sensorId m.value m.unit

omit [CDouble D] in
/-- Where the return value of the first call leads to. -/
def Command.afterFirst (result : ℤ) : Command D → Phase D
  | registerSensor _ _ => .ready
  | measurement m => if result = 0 then .stored m else .ready

/-- The text of the broadcast of a measurement. -/
def Measurement.alertMsg (m : Measurement D) (sensorType : CString) : CString :=
  alertLine m.sensorId sensorType m.value m.unit

/-- The handlers as one machine. -/
def handlers (ι D : Type) [DecidableEq ι] [CDouble D] : Labelled (State ι D) (Call ι) where
  step s call :=
    match call with
    | .first i now =>
      match s.phase i, s.pending i with
      | .ready, command :: rest =>
        let result := command.first now s.sensors
        some { s with
          sensors := result.1
          phase := Function.update s.phase i (command.afterFirst result.2)
          pending := Function.update s.pending i rest
          started := s.started ++ [(i, ⟨now, command⟩)] }
      | _, _ => none
    | .getSensorType i =>
      match s.phase i with
      | .stored m =>
        some { s with
          phase := Function.update s.phase i
            (match getSensorType m.sensorId s.sensors with
              | some pointer => .typed m pointer
              | none => .ready) }
      | _ => none
    | .checkMeasurement i now =>
      match s.phase i with
      | .typed m pointer =>
        let result := checkMeasurement now m.sensorId (typeAt s.sensors pointer) m.value s.engine
        some { s with
          engine := result.1
          alerts := s.alerts ++ result.2.map (i, ·)
          phase := Function.update s.phase i
            (if result.2.length > 0 then .checked m pointer else .ready) }
      | _ => none
    | .broadcastAlert i =>
      match s.phase i with
      | .checked m pointer =>
        some { s with
          broadcasts := s.broadcasts ++ [(i, m.alertMsg (typeAt s.sensors pointer))]
          phase := Function.update s.phase i .ready }
      | _ => none

/-- Handlers about to run their programs. -/
def init (programs : ι → List (Command D)) (start : SensorTable D × Engine D) : State ι D where
  sensors := start.1
  engine := start.2
  alerts := []
  broadcasts := []
  phase _ := .ready
  pending := programs
  started := []

/-! ## Serial execution -/

/-- A command that runs at once. -/
def execute (e : Effects ι D) : ι × Started D → Effects ι D
  | (_, ⟨now, .registerSensor sensorId sensorType⟩) =>
    { e with sensors := (register now sensorType sensorId e.sensors).1 }
  | (i, ⟨now, .measurement m⟩) =>
    let added := addMeasurement now m.sensorId m.value m.unit e.sensors
    if added.2 = 0 then
      match getSensorType m.sensorId added.1 with
      | some pointer =>
        let sensorType := typeAt added.1 pointer
        let result := checkMeasurement (fun _ ↦ now) m.sensorId sensorType m.value e.engine
        { sensors := added.1
          engine := result.1
          alerts := e.alerts ++ result.2.map (i, ·)
          broadcasts := e.broadcasts ++
            if result.2.length > 0 then [(i, m.alertMsg sensorType)] else [] }
      | none => { e with sensors := added.1 }
    else { e with sensors := added.1 }

/-- The commands one after the other. -/
def serial (start : SensorTable D × Engine D) (commands : List (ι × Started D)) : Effects ι D :=
  commands.foldl execute ⟨start.1, start.2, [], []⟩

/-- The handler's MEASUREMENT, run at once, is a serial execution step. -/
theorem execute_eq_measurement {κ : Type} (env : Env) (hclock : ∀ k, env.alertTime k = env.time)
    (sensorId valueText unit : CString) (rest : List CString) (s : ServerState D κ) (i : ι)
    (e : Effects ι D) (hsensors : e.sensors = s.sensors) (hengine : e.engine = s.engine) :
    let outcome := measurement env (sensorId :: valueText :: unit :: rest) s
    let result := execute e
      (i, ⟨env.time, .measurement ⟨sensorId, CDouble.atof valueText, unit⟩⟩)
    result.sensors = outcome.state.sensors ∧ result.engine = outcome.state.engine ∧
      result.broadcasts = e.broadcasts ++ outcome.broadcast.toList.map (i, ·) := by
  have hclock' : env.alertTime = fun _ ↦ env.time := funext hclock
  simp only [measurement, execute, hclock', hsensors, hengine]
  split
  · cases getSensorType sensorId
      (addMeasurement env.time sensorId (CDouble.atof valueText) unit s.sensors).1 with
    | some pointer =>
      refine ⟨rfl, rfl, ?_⟩
      dsimp only
      split <;> rfl
    | none => simp
  · simp

/-- The handler's REGISTER_SENSOR is a serial execution step. -/
theorem execute_eq_registerSensor {κ : Type} (env : Env) (sensorId sensorType : CString)
    (rest : List CString) (s : ServerState D κ) (i : ι) (e : Effects ι D)
    (hsensors : e.sensors = s.sensors) (hengine : e.engine = s.engine) :
    let outcome := registerSensor env (sensorId :: sensorType :: rest) s
    let result := execute e (i, ⟨env.time, .registerSensor sensorId sensorType⟩)
    result.sensors = outcome.state.sensors ∧ result.engine = outcome.state.engine ∧
      result.broadcasts = e.broadcasts ++ outcome.broadcast.toList.map (i, ·) := by
  simp only [registerSensor, execute, hsensors]
  split <;> simp [hengine]

/-! ## What a handler has still to do -/

/-- The alerts that a measurement triggers under the rules. -/
def Measurement.alertCalls (m : Measurement D) (ruleList : List (AlertThreshold D))
    (sensorType : CString) : List (AlertCall D) :=
  ruleList.filterMap (triggered m.sensorId sensorType m.value)

/-- The texts that are broadcast for a measurement. -/
def Measurement.alertMsgs (m : Measurement D) (ruleList : List (AlertThreshold D))
    (sensorType : CString) : List CString :=
  if (m.alertCalls ruleList sensorType).length > 0 then [m.alertMsg sensorType] else []

theorem Measurement.tag_alertMsgs (m : Measurement D) (ruleList : List (AlertThreshold D))
    (sensorType : CString) (i : ι) :
    (m.alertMsgs ruleList sensorType).map (i, ·) =
      if (m.alertCalls ruleList sensorType).length > 0 then [(i, m.alertMsg sensorType)]
      else [] := by
  rw [alertMsgs]
  split <;> rfl

/-- What a handler in a given phase has still to call `add_active_alert` and `broadcast_alert`
with. -/
inductive Owes (table : SensorTable D) (ruleList : List (AlertThreshold D)) :
    Phase D → List (AlertCall D) → List CString → Prop
  | ready : Owes table ruleList .ready [] []
  | stored {m : Measurement D} {slot : Fin maxSensors}
      (hfind : findSensor table m.sensorId = some slot) :
      Owes table ruleList (.stored m) (m.alertCalls ruleList (typeAt table slot))
        (m.alertMsgs ruleList (typeAt table slot))
  | typed {m : Measurement D} {pointer : Fin maxSensors} (hlive : pointer < table.count) :
      Owes table ruleList (.typed m pointer) (m.alertCalls ruleList (typeAt table pointer))
        (m.alertMsgs ruleList (typeAt table pointer))
  | checked {m : Measurement D} {pointer : Fin maxSensors} (hlive : pointer < table.count) :
      Owes table ruleList (.checked m pointer) [] [m.alertMsg (typeAt table pointer)]

/-- Other handlers' calls do not change what a handler has still to do. -/
theorem Owes.of_grow {table table' : SensorTable D} {ruleList : List (AlertThreshold D)}
    {phase : Phase D} {calls : List (AlertCall D)} {lines : List CString}
    (h : Owes table ruleList phase calls lines) (hgrow : directory table <+: directory table') :
    Owes table' ruleList phase calls lines := by
  have hcount : table.count ≤ table'.count := by
    simpa only [length_directory] using hgrow.length_le
  cases h with
  | ready => exact .ready
  | stored hfind =>
    rw [← typeAt_of_grow hgrow (findSensor_eq_some hfind).1]
    exact .stored (findSensor_of_grow hgrow hfind)
  | typed hlive =>
    rw [← typeAt_of_grow hgrow hlive]
    exact .typed (hlive.trans_le hcount)
  | checked hlive =>
    rw [← typeAt_of_grow hgrow hlive]
    exact .checked (hlive.trans_le hcount)

theorem directory_first (command : Command D) (now : ℤ) (table : SensorTable D) :
    directory table <+: directory (command.first now table).1 := by
  cases command with
  | registerSensor sensorId sensorType =>
    exact (SensorManager.Call.register now sensorType sensorId).directory_apply table
  | measurement m =>
    exact (SensorManager.Call.addMeasurement now m.sensorId m.value m.unit).directory_apply table

omit [CDouble D] in
/-- An accepted measurement was stored in the slot that a later search finds, and left its type
alone. -/
theorem addMeasurement_accepted {now : ℤ} {m : Measurement D} {table : SensorTable D}
    (haccepted : (addMeasurement now m.sensorId m.value m.unit table).2 = 0) :
    ∃ slot, addMeasurement now m.sensorId m.value m.unit table =
        (table.modify slot fun sensor ↦ sensor.store now m.value m.unit, 0) ∧
      findSensor (addMeasurement now m.sensorId m.value m.unit table).1 m.sensorId = some slot := by
  obtain ⟨slot, hfind, heq⟩ | ⟨-, heq⟩ := addMeasurement_cases now m.sensorId m.value m.unit table
  · have hdirectory := directory_addMeasurement now m.sensorId m.value m.unit table
    exact ⟨slot, heq, findSensor_of_grow (hdirectory.symm ▸ List.prefix_refl _) hfind⟩
  · simp [heq] at haccepted

/-! ## The serial execution -/

theorem sensors_execute (e : Effects ι D) (i : ι) (now : ℤ) (command : Command D) :
    (execute e (i, ⟨now, command⟩)).sensors = (command.first now e.sensors).1 := by
  cases command with
  | registerSensor sensorId sensorType => rfl
  | measurement m =>
    simp only [execute, Command.first]
    split
    · split <;> rfl
    · rfl

theorem rules_execute (e : Effects ι D) (command : ι × Started D) :
    rules (execute e command).engine = rules e.engine := by
  obtain ⟨i, now, command⟩ := command
  cases command with
  | registerSensor sensorId sensorType => rfl
  | measurement m =>
    simp only [execute]
    split
    · split
      · exact rules_checkMeasurement _ _ _ _ _
      · rfl
    · rfl

/-- A command that runs at once does what is left to do after its first call. -/
theorem execute_owes (e : Effects ι D) (i : ι) (now : ℤ) (command : Command D) :
    ∃ calls lines,
      Owes (command.first now e.sensors).1 (rules e.engine)
        (command.afterFirst (command.first now e.sensors).2) calls lines ∧
      (execute e (i, ⟨now, command⟩)).alerts = e.alerts ++ calls.map (i, ·) ∧
      (execute e (i, ⟨now, command⟩)).broadcasts = e.broadcasts ++ lines.map (i, ·) := by
  cases command with
  | registerSensor sensorId sensorType => exact ⟨[], [], .ready, by simp [execute]⟩
  | measurement m =>
    by_cases haccepted : (addMeasurement now m.sensorId m.value m.unit e.sensors).2 = 0
    · have hphase : (Command.measurement m).afterFirst
          ((Command.measurement m).first now e.sensors).2 = .stored m := if_pos haccepted
      obtain ⟨slot, -, hfind⟩ := addMeasurement_accepted haccepted
      rw [hphase]
      refine ⟨_, _, .stored hfind, ?_⟩
      simp only [execute, if_pos haccepted, getSensorType, hfind, calls_eq_filterMap_rules,
        Measurement.tag_alertMsgs, Measurement.alertCalls, Command.first]
      exact ⟨trivial, rfl⟩
    · have hphase : (Command.measurement m).afterFirst
          ((Command.measurement m).first now e.sensors).2 = .ready := if_neg haccepted
      rw [hphase]
      exact ⟨[], [], .ready, by simp [execute, haccepted]⟩

theorem serial_snoc (start : SensorTable D × Engine D) (commands : List (ι × Started D))
    (command : ι × Started D) :
    serial start (commands ++ [command]) = execute (serial start commands) command := by
  simp only [serial, List.foldl_append, List.foldl_cons, List.foldl_nil]

theorem rules_serial (start : SensorTable D × Engine D) (commands : List (ι × Started D)) :
    rules (serial start commands).engine = rules start.2 := by
  induction commands using List.reverseRecOn with
  | nil => rfl
  | append_singleton commands command ih => rw [serial_snoc, rules_execute, ih]

/-! ## The simulation -/

/-- What handler `i` has called and has still to call is what it calls in the target. -/
def Balanced [DecidableEq ι] (ruleList : List (AlertThreshold D)) (made target : Effects ι D)
    (phase : Phase D) (i : ι) : Prop :=
  ∃ calls lines, Owes made.sensors ruleList phase calls lines ∧
    own i made.alerts ++ calls = own i target.alerts ∧
    own i made.broadcasts ++ lines = own i target.broadcasts

/-- The state is what the serial execution of the commands begun so far leads to, up to what the
handlers have still to do. -/
structure Simulates [DecidableEq ι] (programs : ι → List (Command D))
    (start : SensorTable D × Engine D) (s : State ι D) : Prop where
  sensors : s.sensors = (serial start s.started).sensors
  ruleList : rules s.engine = rules start.2
  balanced : ∀ i, Balanced (rules start.2) s.toEffects (serial start s.started) (s.phase i) i
  program : ∀ i, (own i s.started).map Started.command ++ s.pending i = programs i

variable [DecidableEq ι]

/-- Calls of other handlers keep a handler balanced. -/
theorem Balanced.of_others {ruleList : List (AlertThreshold D)}
    {made target made' target' : Effects ι D} {phase : Phase D} {i : ι}
    (h : Balanced ruleList made target phase i)
    (hgrow : directory made.sensors <+: directory made'.sensors)
    (halerts : own i made'.alerts = own i made.alerts)
    (hbroadcasts : own i made'.broadcasts = own i made.broadcasts)
    (htargetAlerts : own i target'.alerts = own i target.alerts)
    (htargetBroadcasts : own i target'.broadcasts = own i target.broadcasts) :
    Balanced ruleList made' target' phase i := by
  obtain ⟨calls, lines, howes, hcalls, hlines⟩ := h
  refine ⟨calls, lines, howes.of_grow hgrow, ?_, ?_⟩
  · rw [halerts, htargetAlerts, hcalls]
  · rw [hbroadcasts, htargetBroadcasts, hlines]

theorem handlers_step_cases {s s' : State ι D} {call : Call ι}
    (hstep : (handlers ι D).step s call = some s') :
    (∃ i now command rest, s.phase i = .ready ∧ s.pending i = command :: rest ∧
      s' = { s with
        sensors := (command.first now s.sensors).1
        phase := Function.update s.phase i (command.afterFirst (command.first now s.sensors).2)
        pending := Function.update s.pending i rest
        started := s.started ++ [(i, ⟨now, command⟩)] }) ∨
    (∃ i m, s.phase i = .stored m ∧
      s' = { s with
        phase := Function.update s.phase i
          (match getSensorType m.sensorId s.sensors with
            | some pointer => .typed m pointer
            | none => .ready) }) ∨
    (∃ i m pointer now, s.phase i = .typed m pointer ∧
      s' = { s with
        engine := (checkMeasurement now m.sensorId (typeAt s.sensors pointer) m.value s.engine).1
        alerts := s.alerts ++
          (m.alertCalls (rules s.engine) (typeAt s.sensors pointer)).map (i, ·)
        phase := Function.update s.phase i
          (if (m.alertCalls (rules s.engine) (typeAt s.sensors pointer)).length > 0 then
            .checked m pointer else .ready) }) ∨
    (∃ i m pointer, s.phase i = .checked m pointer ∧
      s' = { s with
        broadcasts := s.broadcasts ++ [(i, m.alertMsg (typeAt s.sensors pointer))]
        phase := Function.update s.phase i .ready }) := by
  cases call with
  | first i now =>
    simp only [handlers] at hstep
    split at hstep
    · rename_i command rest hphase hpending
      exact .inl ⟨i, now, command, rest, hphase, hpending, (Option.some.inj hstep).symm⟩
    · cases hstep
  | getSensorType i =>
    simp only [handlers] at hstep
    split at hstep
    · rename_i m hphase
      exact .inr (.inl ⟨i, m, hphase, (Option.some.inj hstep).symm⟩)
    · cases hstep
  | checkMeasurement i now =>
    simp only [handlers] at hstep
    split at hstep
    · rename_i m pointer hphase
      rw [calls_eq_filterMap_rules] at hstep
      exact .inr (.inr (.inl ⟨i, m, pointer, now, hphase, (Option.some.inj hstep).symm⟩))
    · cases hstep
  | broadcastAlert i =>
    simp only [handlers] at hstep
    split at hstep
    · rename_i m pointer hphase
      exact .inr (.inr (.inr ⟨i, m, pointer, hphase, (Option.some.inj hstep).symm⟩))
    · cases hstep

theorem Simulates.first {programs : ι → List (Command D)} {start : SensorTable D × Engine D}
    {s : State ι D} (h : Simulates programs start s) {i : ι} (now : ℤ) {command : Command D}
    {rest : List (Command D)} (hphase : s.phase i = .ready)
    (hpending : s.pending i = command :: rest) :
    Simulates programs start { s with
      sensors := (command.first now s.sensors).1
      phase := Function.update s.phase i (command.afterFirst (command.first now s.sensors).2)
      pending := Function.update s.pending i rest
      started := s.started ++ [(i, ⟨now, command⟩)] } := by
  obtain ⟨calls, lines, howes, halerts, hbroadcasts⟩ :=
    execute_owes (serial start s.started) i now command
  rw [← h.sensors, rules_serial] at howes
  constructor
  · rw [serial_snoc, sensors_execute, ← h.sensors]
  · exact h.ruleList
  · simp only [serial_snoc]
    rw [Function.forall_update_iff s.phase fun j phase ↦ Balanced _ _ _ phase j]
    constructor
    · obtain ⟨_, _, hready, hcalls, hlines⟩ := h.balanced i
      rw [hphase] at hready
      cases hready
      rw [List.append_nil] at hcalls hlines
      refine ⟨calls, lines, howes, ?_, ?_⟩
      · rw [halerts, own_append, own_tag_self, ← hcalls]
      · rw [hbroadcasts, own_append, own_tag_self, ← hlines]
    · intro j hj
      refine (h.balanced j).of_others (directory_first command now s.sensors) rfl rfl ?_ ?_
      · rw [halerts, own_append, own_tag_ne hj, List.append_nil]
      · rw [hbroadcasts, own_append, own_tag_ne hj, List.append_nil]
  · have hothers (j : ι) (hj : j ≠ i) :
        (own j (s.started ++ [(i, (⟨now, command⟩ : Started D))])).map Started.command ++
          s.pending j = programs j := by
      rw [own_append, own_singleton_ne hj, List.append_nil]
      exact h.program j
    refine (Function.forall_update_iff s.pending fun j pending ↦
      (own j (s.started ++ _)).map Started.command ++ pending = programs j).mpr ⟨?_, hothers⟩
    calc
      _ = ((own i s.started).map Started.command ++ [command]) ++ rest := by
        rw [own_append, own_singleton_self, List.map_append]
        rfl
      _ = (own i s.started).map Started.command ++ s.pending i := by
        rw [hpending, List.append_assoc]
        rfl
      _ = programs i := h.program i

/-- A call after the first leaves the serial execution where it is. -/
theorem Simulates.later {programs : ι → List (Command D)} {start : SensorTable D × Engine D}
    {s : State ι D} (h : Simulates programs start s) {e : Effects ι D} {i : ι} {next : Phase D}
    (hsensors : e.sensors = s.sensors) (hrules : rules e.engine = rules s.engine)
    (hothers : ∀ j, j ≠ i →
      own j e.alerts = own j s.alerts ∧ own j e.broadcasts = own j s.broadcasts)
    (hnext : Balanced (rules start.2) e (serial start s.started) next i) :
    Simulates programs start
      { s with toEffects := e, phase := Function.update s.phase i next } := by
  refine ⟨hsensors.trans h.sensors, hrules.trans h.ruleList, ?_, h.program⟩
  refine (Function.forall_update_iff s.phase fun j phase ↦
    Balanced _ _ _ phase j).mpr ⟨hnext, fun j hj ↦ ?_⟩
  obtain ⟨halerts, hbroadcasts⟩ := hothers j hj
  exact (h.balanced j).of_others (hsensors ▸ List.prefix_refl _) halerts hbroadcasts rfl rfl

theorem simulates_step {programs : ι → List (Command D)} {start : SensorTable D × Engine D}
    {s s' : State ι D} {call : Call ι} (h : Simulates programs start s)
    (hstep : (handlers ι D).step s call = some s') : Simulates programs start s' := by
  obtain ⟨i, now, command, rest, hphase, hpending, rfl⟩ | ⟨i, m, hphase, rfl⟩ |
    ⟨i, m, pointer, now, hphase, rfl⟩ | ⟨i, m, pointer, hphase, rfl⟩ := handlers_step_cases hstep
  · exact h.first now hphase hpending
  · obtain ⟨calls, lines, howes, hcalls, hlines⟩ := h.balanced i
    rw [hphase] at howes
    cases howes with
    | stored hfind =>
      refine h.later rfl rfl (fun _ _ ↦ ⟨rfl, rfl⟩) ?_
      simp only [getSensorType, hfind]
      exact ⟨_, _, .typed (findSensor_eq_some hfind).1, hcalls, hlines⟩
  · obtain ⟨calls, lines, howes, hcalls, hlines⟩ := h.balanced i
    rw [hphase] at howes
    cases howes with
    | typed hlive =>
      refine h.later rfl (rules_checkMeasurement _ _ _ _ _) (fun j hj ↦ ⟨?_, rfl⟩) ?_
      · rw [own_append, own_tag_ne hj, List.append_nil]
      · rw [← h.ruleList] at hcalls hlines ⊢
        split
        · rename_i hpos
          rw [Measurement.alertMsgs, if_pos hpos] at hlines
          refine ⟨_, _, .checked hlive, ?_, hlines⟩
          rw [own_append, own_tag_self, List.append_nil, hcalls]
        · rename_i hnone
          rw [Measurement.alertMsgs, if_neg hnone] at hlines
          refine ⟨_, _, .ready, ?_, hlines⟩
          rw [own_append, own_tag_self, List.append_nil, hcalls]
  · obtain ⟨calls, lines, howes, hcalls, hlines⟩ := h.balanced i
    rw [hphase] at howes
    cases howes with
    | checked hlive =>
      refine h.later rfl rfl (fun j hj ↦ ⟨rfl, ?_⟩) ⟨_, _, .ready, hcalls, ?_⟩
      · rw [own_append, own_singleton_ne hj, List.append_nil]
      · rw [own_append, own_singleton_self, List.append_nil, hlines]

theorem simulates_init (programs : ι → List (Command D)) (start : SensorTable D × Engine D) :
    Simulates programs start (init programs start) where
  sensors := rfl
  ruleList := rfl
  balanced _ := ⟨[], [], .ready, rfl, rfl⟩
  program _ := rfl

/-- All programs have been run. -/
def Finished (s : State ι D) : Prop := ∀ i, s.phase i = .ready ∧ s.pending i = []

/-- A finished run has begun each handler's commands in their order, and leaves behind what the
serial execution of all commands leaves behind. -/
structure AgreesWithSerial (programs : ι → List (Command D)) (start : SensorTable D × Engine D)
    (t : State ι D) : Prop where
  complete : ∀ i, (own i t.started).map Started.command = programs i
  sensors : t.sensors = (serial start t.started).sensors
  alerts : (t.alerts.map Prod.snd).Perm ((serial start t.started).alerts.map Prod.snd)
  broadcasts : (t.broadcasts.map Prod.snd).Perm ((serial start t.started).broadcasts.map Prod.snd)
  broadcastCount : t.broadcasts.length = (serial start t.started).broadcasts.length

theorem Simulates.agreesWithSerial {programs : ι → List (Command D)}
    {start : SensorTable D × Engine D} {t : State ι D} (h : Simulates programs start t)
    (hfinished : Finished t) : AgreesWithSerial programs start t := by
  have hown (i : ι) : own i t.alerts = own i (serial start t.started).alerts ∧
      own i t.broadcasts = own i (serial start t.started).broadcasts := by
    obtain ⟨calls, lines, howes, hcalls, hlines⟩ := h.balanced i
    rw [(hfinished i).1] at howes
    cases howes
    rw [List.append_nil] at hcalls hlines
    exact ⟨hcalls, hlines⟩
  have halerts := perm_of_own fun i ↦ (hown i).1
  have hbroadcasts := perm_of_own fun i ↦ (hown i).2
  refine ⟨fun i ↦ ?_, h.sensors, halerts.map _, hbroadcasts.map _, hbroadcasts.length_eq⟩
  have hprogram := h.program i
  rwa [(hfinished i).2, List.append_nil] at hprogram

theorem directory_of_run {s t : State ι D} {calls : List (Call ι)}
    (hrun : (handlers ι D).run s calls = some t) : directory s.sensors <+: directory t.sensors := by
  refine Labelled.rel_of_run (fun s t ↦ directory s.sensors <+: directory t.sensors)
    (fun _ ↦ List.prefix_refl _) (fun _ _ _ ↦ List.IsPrefix.trans) ?_ hrun
  intro u call u' hstep
  obtain ⟨i, now, command, rest, -, -, rfl⟩ | ⟨i, m, -, rfl⟩ | ⟨i, m, pointer, now, -, rfl⟩ |
    ⟨i, m, pointer, -, rfl⟩ := handlers_step_cases hstep
  · exact directory_first command now u.sensors
  · exact List.prefix_refl _
  · exact List.prefix_refl _
  · exact List.prefix_refl _

/-- Accepted measurements are checked against the type in the slot they were stored in, and however
the calls of the handlers interleave, the alerts and broadcasts are those of the serial
execution in the order of the first calls. -/
theorem agreesWithSerial_of_finished (programs : ι → List (Command D))
    (start : SensorTable D × Engine D) {calls : List (Call ι)} {t : State ι D}
    (hrun : (handlers ι D).run (init programs start) calls = some t) :
    (∀ s s' s'' i now m later, s.phase i = .ready → (s.pending i).head? = some (.measurement m) →
      (addMeasurement now m.sensorId m.value m.unit s.sensors).2 = 0 →
      (handlers ι D).step s (.first i now) = some s' → (handlers ι D).run s' later = some s'' →
      ∃ slot, s'.sensors = s.sensors.modify slot (fun sensor ↦ sensor.store now m.value m.unit) ∧
        getSensorType m.sensorId s''.sensors = some slot ∧
        typeAt s''.sensors slot = typeAt s'.sensors slot) ∧
    (Finished t → AgreesWithSerial programs start t) := by
  constructor
  · intro s s' s'' i now m later hphase hpending haccepted hstep hlater
    obtain ⟨slot, hstore, hfind⟩ := addMeasurement_accepted haccepted
    have hsensors : s'.sensors = (addMeasurement now m.sensorId m.value m.unit s.sensors).1 := by
      obtain ⟨rest, hcons⟩ := List.head?_eq_some_iff.mp hpending
      simp only [handlers, hphase, hcons, Option.some.injEq] at hstep
      rw [← hstep]
      rfl
    have hgrow := directory_of_run hlater
    rw [← hsensors] at hfind
    refine ⟨slot, by rw [hsensors, hstore], findSensor_of_grow hgrow hfind, ?_⟩
    exact typeAt_of_grow hgrow (findSensor_eq_some hfind).1
  · have hsimulates : Simulates programs start t :=
      Labelled.inv_of_reachable (Simulates programs start) (fun _ _ _ ↦ simulates_step)
        (simulates_init programs start) ⟨calls, hrun⟩
    exact hsimulates.agreesWithSerial

/-! ## Two sensors' handlers -/

/-- Two handlers that register the same id with different types and then measure. -/
def twoPrograms : Bool → List (Command ℚ)
  | false => [.registerSensor (.lit "s1") (.lit "temperature"),
      .measurement ⟨.lit "s1", 60, .lit "C"⟩]
  | true => [.registerSensor (.lit "s1") (.lit "vibration"),
      .measurement ⟨.lit "s1", 40, .lit "C"⟩]

def twoStart : SensorTable ℚ × Engine ℚ :=
  let s : ServerState ℚ ℕ := serverInit 0
  (s.sensors, s.engine)

/-- A schedule in which the calls of the two measurements alternate. -/
def twoCalls : List (Call Bool) :=
  [.first false 1, .first true 2, .first true 3, .first false 4, .getSensorType false,
    .getSensorType true, .checkMeasurement false fun _ ↦ 5, .checkMeasurement true fun _ ↦ 6,
    .broadcastAlert true, .broadcastAlert false]

instance (s : State Bool ℚ) : Decidable (Finished s) :=
  inferInstanceAs (Decidable (∀ i, s.phase i = .ready ∧ s.pending i = []))

/-- Three alerts and two broadcasts, as in the serial execution. -/
theorem agreesWithSerial_of_finished_two :
    ∃ t, (handlers Bool ℚ).run (init twoPrograms twoStart) twoCalls = some t ∧
      t.alerts.length = 3 ∧ t.broadcasts.length = 2 ∧ AgreesWithSerial twoPrograms twoStart t := by
  have hstate : ((handlers Bool ℚ).run (init twoPrograms twoStart) twoCalls).map
      (fun t ↦ (decide (Finished t), t.alerts.length, t.broadcasts.length)) =
        some (true, 3, 2) := by decide +kernel
  obtain ⟨t, hrun, ht⟩ := Option.map_eq_some_iff.mp hstate
  simp only [Prod.mk.injEq, decide_eq_true_eq] at ht
  obtain ⟨hfinished, halerts, hbroadcasts⟩ := ht
  exact ⟨t, hrun, halerts, hbroadcasts,
    (agreesWithSerial_of_finished twoPrograms twoStart hrun).2 hfinished⟩

end IotMonitoring.Server.Interleaving
