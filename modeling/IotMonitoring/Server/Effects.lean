import IotMonitoring.Server.HandleClient
import IotMonitoring.Server.SensorRuns

/-!
# What a command changes

A request that is answered with an error changes nothing, and neither do the commands that only
read. Each of the three commands that write has its own part of the shared data: a registration the
sensor table, a measurement one slot of it and the alert engine, a login the operator registry.
-/

namespace IotMonitoring.Server.HandleClient

open Text Machine Protocol SensorManager AlertEngine OperatorRegistry AuthClient

variable {D κ : Type}

/-- The reply begins with `ERROR`. -/
def IsError (reply : CString) : Prop := ascii "ERROR" <+: reply.bytes

/-- The commands that only read. -/
def Passive : CommandType → Prop
  | .ping | .operatorIdentify | .getSensors | .getAlerts | .getStatus => True
  | _ => False

/-- A slot has been taken into use for a registered sensor. -/
structure Appended [CDouble D] (now : ℤ) (sensorId sensorType : CString) (s t : SensorTable D) :
    Prop where
  count : t.count = s.count + 1
  others : ∀ j : Fin maxSensors, j.val ≠ s.count → t.get j = s.get j
  id : ∀ j : Fin maxSensors, j.val = s.count → (t.get j).id.str = sensorId.cut 31
  type : ∀ j : Fin maxSensors, j.val = s.count → (t.get j).type.str = sensorType.cut 15
  value : ∀ j : Fin maxSensors, j.val = s.count → (t.get j).lastValue = CDouble.ofNat 0
  unit : ∀ j : Fin maxSensors, j.val = s.count → (t.get j).lastUnit.str = ∅
  timestamp : ∀ j : Fin maxSensors, j.val = s.count → (t.get j).lastTimestamp = now
  active : ∀ j : Fin maxSensors, j.val = s.count → (t.get j).isActive = true

/-- The slot of a sensor is active, and nothing else has changed. -/
structure Reactivated (sensorId : CString) (i : Fin maxSensors) (s t : SensorTable D) : Prop where
  live : i < s.count
  found : (s.get i).id.str = sensorId
  count : t.count = s.count
  others : ∀ j ≠ i, t.get j = s.get j
  id : (t.get i).id = (s.get i).id
  type : (t.get i).type = (s.get i).type
  value : (t.get i).lastValue = (s.get i).lastValue
  unit : (t.get i).lastUnit = (s.get i).lastUnit
  timestamp : (t.get i).lastTimestamp = (s.get i).lastTimestamp
  active : (t.get i).isActive = true

/-- The slot of a sensor has a measurement, and nothing else has changed. -/
structure Measured [CDouble D] (now : ℤ) (sensorId valueText unitText : CString)
    (i : Fin maxSensors) (s t : SensorTable D) : Prop where
  live : i < s.count
  found : (s.get i).id.str = sensorId
  count : t.count = s.count
  others : ∀ j ≠ i, t.get j = s.get j
  id : (t.get i).id = (s.get i).id
  type : (t.get i).type = (s.get i).type
  value : (t.get i).lastValue = CDouble.atof valueText
  unit : (t.get i).lastUnit.str = unitText.cut 15
  timestamp : (t.get i).lastTimestamp = now
  active : (t.get i).isActive = true

/-- An entry of the registry has been taken into use. -/
structure Enlisted (fd : ℤ) (context : κ) (s t : Registry κ) : Prop where
  count : t.count = s.count + 1
  others : ∀ j : Fin maxOperators, j.val ≠ s.count → t.get j = s.get j
  entry : ∀ j : Fin maxOperators, j.val = s.count → t.get j = ⟨fd, some context⟩

/-- A registration takes one slot into use or sets the active flag of one slot in use. -/
structure Registers [CDouble D] (env : Env) (args : List CString) (s t : ServerState D κ) :
    Prop where
  engine : t.engine = s.engine
  operators : t.operators = s.operators
  sensors : ∃ sensorId sensorType rest, args = sensorId :: sensorType :: rest ∧
    (Appended env.time sensorId sensorType s.sensors t.sensors ∨
      ∃ i, Reactivated sensorId i s.sensors t.sensors)

/-- A measurement goes to one slot in use; of the thresholds it changes no more than the time at
which they were triggered last. -/
structure Measures [CDouble D] (env : Env) (args : List CString) (s t : ServerState D κ) :
    Prop where
  operators : t.operators = s.operators
  sensors : ∃ sensorId valueText unitText rest, args = sensorId :: valueText :: unitText :: rest ∧
    ∃ i, Measured env.time sensorId valueText unitText i s.sensors t.sensors
  count : t.engine.thresholds.count = s.engine.thresholds.count
  thresholds : ∀ i, t.engine.thresholds.get i =
    { s.engine.thresholds.get i with
      lastTriggered := (t.engine.thresholds.get i).lastTriggered }

/-- A login takes at most one entry of the registry into use. -/
structure LogsIn (client : Client κ) (s t : ServerState D κ) : Prop where
  sensors : t.sensors = s.sensors
  engine : t.engine = s.engine
  operators : t.operators = s.operators ∨
    Enlisted client.fd client.context s.operators t.operators

/-- What a command may do. -/
structure RespectsFrame [CDouble D] (env : Env) (client : Client κ) (type : CommandType)
    (args : List CString) (s : ServerState D κ) (outcome : Outcome D κ) : Prop where
  unchanged : IsError outcome.response.text ∨ Passive type →
    outcome.state = s ∧ outcome.broadcast = none
  registers : type = .registerSensor → ¬ IsError outcome.response.text →
    Registers env args s outcome.state
  measures : type = .measurement → ¬ IsError outcome.response.text →
    Measures env args s outcome.state
  logsIn : type = .login → ¬ IsError outcome.response.text → LogsIn client s outcome.state

/-! ## Replies -/

theorem not_isError_of_head {reply : CString} {b : UInt8} (hhead : reply.bytes.head? = some b)
    (hb : b ≠ 69) : ¬ IsError reply := by
  rintro ⟨rest, hrest⟩
  have herror : reply.bytes.head? = some 69 := hrest ▸ rfl
  exact hb (Option.some.inj (hhead.symm.trans herror))

theorem not_isError_ok (details : CString) : ¬ IsError (protocolBuildOk (some details)) := by
  have hhead : (protocolBuildOk (some details)).bytes.head? = some 79 := rfl
  exact not_isError_of_head hhead (by decide)

theorem isError_error (code desc : String) : IsError (error code desc).text :=
  ⟨(CString.lit " " ++ .lit code ++ .lit " " ++ .lit desc ++ crlf).bytes.take 506, rfl⟩

theorem isError_missingArguments : IsError missingArguments.text :=
  isError_error "400" "Missing arguments"

variable [CDouble D]

/-! ## Commands that fail or only read -/

/-- A reply that changes nothing respects the frame when it is an error or answers a command that
only reads. -/
theorem RespectsFrame.same {env : Env} {client : Client κ} {type : CommandType}
    {args : List CString} {s : ServerState D κ} {response : Response}
    (hsame : IsError response.text ∨ Passive type) :
    RespectsFrame env client type args s ⟨s, response, none⟩ where
  unchanged _ := ⟨rfl, rfl⟩
  registers htype hok := by
    obtain herror | hpassive := hsame
    · exact absurd herror hok
    · exact absurd hpassive (htype ▸ id)
  measures htype hok := by
    obtain herror | hpassive := hsame
    · exact absurd herror hok
    · exact absurd hpassive (htype ▸ id)
  logsIn htype hok := by
    obtain herror | hpassive := hsame
    · exact absurd herror hok
    · exact absurd hpassive (htype ▸ id)

/-! ## Updates of the stores -/

theorem appended_push (now : ℤ) (sensorId sensorType : CString) (table : SensorTable D)
    (hroom : table.count < maxSensors) :
    Appended now sensorId sensorType table
      (table.push hroom ((table.next hroom).fill now sensorType sensorId)) := by
  have hself (j : Fin maxSensors) (hj : j.val = table.count) :
      (table.push hroom ((table.next hroom).fill now sensorType sensorId)).get j =
        (table.next hroom).fill now sensorType sensorId := by
    obtain rfl : j = ⟨table.count, hroom⟩ := Fin.ext hj
    exact table.get_push_self hroom _
  refine ⟨rfl, fun j hj ↦ table.get_push_ne hroom _ hj, ?_, ?_, ?_, ?_, ?_, ?_⟩
  · intro j hj
    rw [hself j hj, Sensor.fill, CharField.str_strncpy]
  · intro j hj
    rw [hself j hj, Sensor.fill, CharField.str_strncpy]
  · intro j hj
    rw [hself j hj, Sensor.fill]
  · intro j hj
    rw [hself j hj, Sensor.fill, CharField.str_clear]
  · intro j hj
    rw [hself j hj, Sensor.fill]
  · intro j hj
    rw [hself j hj, Sensor.fill]

omit [CDouble D] in
theorem reactivated_modify {sensorId : CString} {table : SensorTable D} {i : Fin maxSensors}
    (hfind : findSensor table sensorId = some i) :
    Reactivated sensorId i table (table.modify i Sensor.activate) := by
  obtain ⟨hlive, hfound⟩ := findSensor_eq_some hfind
  have hself := table.get_modify_self i Sensor.activate
  refine ⟨hlive, hfound, rfl, fun j hj ↦ table.get_modify_ne hj _, ?_, ?_, ?_, ?_, ?_, ?_⟩
  all_goals rw [hself, Sensor.activate]

theorem measured_modify (now : ℤ) {sensorId : CString} (valueText unitText : CString)
    {table : SensorTable D} {i : Fin maxSensors} (hfind : findSensor table sensorId = some i) :
    Measured now sensorId valueText unitText i table
      (table.modify i fun sensor ↦ sensor.store now (CDouble.atof valueText) unitText) := by
  obtain ⟨hlive, hfound⟩ := findSensor_eq_some hfind
  have hself := table.get_modify_self i
    fun sensor ↦ sensor.store now (CDouble.atof valueText) unitText
  refine ⟨hlive, hfound, rfl, fun j hj ↦ table.get_modify_ne hj _, ?_, ?_, ?_, ?_, ?_, ?_⟩
  · rw [hself, Sensor.store]
  · rw [hself, Sensor.store]
  · rw [hself, Sensor.store]
  · rw [hself, Sensor.store, CharField.str_strncpy]
  · rw [hself, Sensor.store]
  · rw [hself, Sensor.store]

omit [CDouble D] in
theorem enlisted_registerOperator (fd : ℤ) (context : κ) (registry : Registry κ) :
    registerOperator fd context registry = registry ∨
      Enlisted fd context registry (registerOperator fd context registry) := by
  rw [registerOperator]
  split
  · rename_i hroom
    refine .inr ⟨rfl, fun j hj ↦ registry.get_push_ne hroom _ hj, fun j hj ↦ ?_⟩
    obtain rfl : j = ⟨registry.count, hroom⟩ := Fin.ext hj
    exact registry.get_push_self hroom _
  · exact .inl rfl

/-! ## Commands that write -/

theorem respectsFrame_registerSensor (env : Env) (client : Client κ) (args : List CString)
    (s : ServerState D κ) :
    RespectsFrame env client .registerSensor args s (registerSensor env args s) := by
  unfold registerSensor
  split
  · rename_i sensorId sensorType rest
    have hok : ¬ IsError (ok "SENSOR_REGISTERED").text := not_isError_ok _
    have hframe {t : ServerState D κ}
        (ht : Registers env (sensorId :: sensorType :: rest) s t) :
        RespectsFrame env client .registerSensor (sensorId :: sensorType :: rest) s
          ⟨t, ok "SENSOR_REGISTERED", none⟩ :=
      ⟨fun h ↦ absurd h (by simp [hok, Passive]), fun _ _ ↦ ht, nofun, nofun⟩
    dsimp only
    obtain ⟨i, hfind, heq⟩ | ⟨-, hroom, heq⟩ | ⟨-, -, heq⟩ :=
      register_cases env.time sensorType sensorId s.sensors
    · rw [heq, if_pos rfl]
      exact hframe ⟨rfl, rfl, sensorId, sensorType, rest, rfl, .inr ⟨i, reactivated_modify hfind⟩⟩
    · rw [heq, if_pos rfl]
      exact hframe ⟨rfl, rfl, sensorId, sensorType, rest, rfl,
        .inl (appended_push env.time sensorId sensorType s.sensors hroom)⟩
    · rw [heq, if_neg (by simp)]
      exact .same (.inl (isError_error "500" "Failed to register sensor"))
  · exact .same (.inl isError_missingArguments)

/-- Of the thresholds a check changes no more than the time they were triggered. -/
theorem thresholds_checkLoop (now : Fin maxAlerts → ℤ) (sensorId sensorType : CString) (value : D)
    (rounds : List (Fin maxAlerts)) (engine : Engine D) :
    let after := (checkLoop now sensorId sensorType value rounds engine).1.thresholds
    after.count = engine.thresholds.count ∧
      ∀ i, after.get i = (engine.thresholds.get i).touch (after.get i).lastTriggered := by
  induction rounds generalizing engine with
  | nil => exact ⟨rfl, fun _ ↦ rfl⟩
  | cons i rest ih =>
    cases hcall : triggered sensorId sensorType value (engine.thresholds.get i) with
    | none => simpa only [checkLoop, hcall] using ih engine
    | some call =>
      simp only [checkLoop, hcall]
      obtain ⟨hcount, hget⟩ := ih
        { thresholds := engine.thresholds.modify i fun threshold ↦ threshold.touch (now i)
          activeAlerts := addActiveAlert (now i) call engine.activeAlerts }
      refine ⟨hcount, fun j ↦ (hget j).trans ?_⟩
      obtain rfl | hij := eq_or_ne j i
      · rw [Slots.get_modify_self]
        rfl
      · rw [Slots.get_modify_ne _ hij]

theorem respectsFrame_measurement (env : Env) (client : Client κ) (args : List CString)
    (s : ServerState D κ) :
    RespectsFrame env client .measurement args s (measurement env args s) := by
  unfold measurement
  split
  · rename_i sensorId valueText unit rest
    have hok : ¬ IsError (ok "MEASUREMENT_RECEIVED").text := not_isError_ok _
    dsimp only
    obtain ⟨i, hfind, heq⟩ | ⟨-, heq⟩ :=
      addMeasurement_cases env.time sensorId (CDouble.atof valueText : D) unit s.sensors
    · rw [heq, if_pos rfl]
      have hmeasured := measured_modify env.time valueText unit hfind
      split
      · rename_i pointer _
        obtain ⟨hcount, hthresholds⟩ := thresholds_checkLoop env.alertTime sensorId
          (typeAt (s.sensors.modify i fun sensor ↦
            sensor.store env.time (CDouble.atof valueText) unit) pointer) (CDouble.atof valueText)
          ((List.finRange maxAlerts).take s.engine.thresholds.count) s.engine
        exact ⟨fun h ↦ absurd h (by simp [hok, Passive]), nofun, fun _ _ ↦
          ⟨rfl, ⟨sensorId, valueText, unit, rest, rfl, i, hmeasured⟩, hcount, hthresholds⟩, nofun⟩
      · exact ⟨fun h ↦ absurd h (by simp [hok, Passive]), nofun, fun _ _ ↦
          ⟨rfl, ⟨sensorId, valueText, unit, rest, rfl, i, hmeasured⟩, rfl, fun _ ↦ rfl⟩, nofun⟩
    · rw [heq, if_neg (by simp)]
      exact .same (.inl (isError_error "404" "Sensor not registered"))
  · exact .same (.inl isError_missingArguments)

theorem respectsFrame_login (env : Env) (client : Client κ) (args : List CString)
    (s : ServerState D κ) : RespectsFrame env client .login args s (login env client args s) := by
  unfold login
  split
  · split
    · rename_i role _
      have hok : ¬ IsError (protocolBuildOk
          (some (CString.snprintf 128 (.lit "ROLE_" ++ role)))) := not_isError_ok _
      exact ⟨fun h ↦ absurd h (by simp [hok, Passive, Response.text]), nofun, nofun, fun _ _ ↦
        ⟨rfl, rfl, enlisted_registerOperator client.fd client.context s.operators⟩⟩
    · exact .same (.inl (isError_error "401" "Invalid credentials"))
    · exact .same (.inl (isError_error "503" "Auth service unavailable"))
  · exact .same (.inl isError_missingArguments)

theorem dispatch_respectsFrame (env : Env) (client : Client κ) (type : CommandType)
    (args : List CString) (s : ServerState D κ) :
    RespectsFrame env client type args s (dispatch env client type args s) := by
  cases type with
  | registerSensor => exact respectsFrame_registerSensor env client args s
  | measurement => exact respectsFrame_measurement env client args s
  | login => exact respectsFrame_login env client args s
  | getSensors =>
    simp only [dispatch, getSensors]
    split <;> exact .same (.inr trivial)
  | getAlerts =>
    simp only [dispatch, getAlerts]
    split <;> exact .same (.inr trivial)
  | ping => exact .same (.inr trivial)
  | operatorIdentify => exact .same (.inr trivial)
  | getStatus => exact .same (.inr trivial)
  | unknown => exact .same (.inl (isError_error "404" "Command not found"))

/-- Every received chunk respects the frame of its command, in every state: a request that fails or
only reads changes nothing, and the others change the fields of one slot as their arguments say. -/
theorem respond_respectsFrame (env : Env) (client : Client κ) (chunk : Chunk)
    (s : ServerState D κ) :
    RespectsFrame env client chunk.message.type chunk.message.argStrings s
      (respond env client chunk s) := by
  rw [respond_eq]
  exact dispatch_respectsFrame env client _ _ s

/-! ## The stores of the whole process -/

/-- The sensor table is left alone or changed by one call of the sensor manager. -/
def SensorsCall (s t : ServerState D κ) : Prop :=
  t.sensors = s.sensors ∨ ∃ call : SensorManager.Call D, t.sensors = (call.apply s.sensors).1

/-- The alert engine is left alone or checks one measurement. -/
def EngineCall (s t : ServerState D κ) : Prop :=
  t.engine = s.engine ∨ ∃ now sensorId sensorType, ∃ value : D,
    t.engine = (checkMeasurement now sensorId sensorType value s.engine).1

theorem sensorsCall_store (env : Env) (args : List CString) (s : ServerState D κ) :
    SensorsCall s (storeMeasurement env args s) := by
  unfold storeMeasurement
  split
  · rename_i sensorId valueText unit rest
    exact .inr ⟨.addMeasurement env.time sensorId (CDouble.atof valueText) unit, rfl⟩
  · exact .inl rfl

theorem engineCall_check (env : Env) (args : List CString) (pointer : Fin maxSensors)
    (s : ServerState D κ) : EngineCall s (checkStored env args pointer s) := by
  unfold checkStored
  split
  · exact .inr ⟨_, _, _, _, rfl⟩
  · exact .inl rfl

theorem engine_store (env : Env) (args : List CString) (s : ServerState D κ) :
    (storeMeasurement env args s).engine = s.engine := by
  unfold storeMeasurement
  split <;> rfl

theorem sensors_check (env : Env) (args : List CString) (pointer : Fin maxSensors)
    (s : ServerState D κ) : (checkStored env args pointer s).sensors = s.sensors := by
  unfold checkStored
  split <;> rfl

theorem calls_measurement (env : Env) (args : List CString) (s : ServerState D κ) :
    SensorsCall s (measurement env args s).state ∧ EngineCall s (measurement env args s).state := by
  have hstore := sensorsCall_store env args s
  obtain heq | heq | ⟨pointer, -, heq⟩ := state_measurement env args s
  · rw [heq]
    exact ⟨.inl rfl, .inl rfl⟩
  · rw [heq]
    exact ⟨hstore, .inl (engine_store env args s)⟩
  · have hcheck := engineCall_check env args pointer (storeMeasurement env args s)
    rw [heq]
    simp only [SensorsCall, EngineCall, sensors_check, engine_store] at hstore hcheck ⊢
    exact ⟨hstore, hcheck⟩

/-- Every step of the process makes at most one call on each of the two stores. -/
theorem calls_step {s t : ServerState D κ} {event : Event κ}
    (hstep : (server D κ).step s event = some t) : SensorsCall s t ∧ EngineCall s t := by
  cases event with
  | request env client chunk =>
    obtain rfl := Option.some.inj hstep
    rw [respond_eq]
    have hframe := dispatch_respectsFrame env client chunk.message.type chunk.message.argStrings s
    cases htype : chunk.message.type with
    | measurement => exact calls_measurement env _ s
    | registerSensor =>
      simp only [dispatch]
      unfold registerSensor
      split
      · rename_i sensorId sensorType rest _
        have hcall : SensorsCall s
            { s with sensors := (register env.time sensorType sensorId s.sensors).1 } :=
          .inr ⟨.register env.time sensorType sensorId, rfl⟩
        dsimp only
        split <;> exact ⟨hcall, .inl rfl⟩
      · exact ⟨.inl rfl, .inl rfl⟩
    | login =>
      rw [htype] at hframe
      by_cases herror :
          IsError (dispatch env client .login chunk.message.argStrings s).response.text
      · rw [(hframe.unchanged (.inl herror)).1]
        exact ⟨.inl rfl, .inl rfl⟩
      · have hlogin := hframe.logsIn rfl herror
        exact ⟨.inl hlogin.sensors, .inl hlogin.engine⟩
    | ping | operatorIdentify | getSensors | getAlerts | getStatus =>
      rw [htype] at hframe
      rw [(hframe.unchanged (.inr trivial)).1]
      exact ⟨.inl rfl, .inl rfl⟩
    | unknown => exact ⟨.inl rfl, .inl rfl⟩
  | store env chunk =>
    obtain rfl := Option.some.inj hstep
    exact ⟨sensorsCall_store env _ s, .inl (engine_store env _ s)⟩
  | check env chunk pointer =>
    obtain ⟨-, rfl⟩ := Option.ite_some_none_eq_some.mp hstep
    exact ⟨.inl (sensors_check env _ pointer s), engineCall_check env _ pointer s⟩
  | disconnect client =>
    obtain rfl := Option.some.inj hstep
    exact ⟨.inl rfl, .inl rfl⟩

/-- The sensor table of the process is one that calls of the sensor manager lead to. -/
theorem sensors_reachable {now : ℤ} {s : ServerState D κ}
    (h : (server D κ).Reachable (serverInit now) s) :
    (manager D).Reachable SensorManager.init s.sensors := by
  refine Labelled.inv_of_reachable
    (fun s ↦ (manager D).Reachable SensorManager.init s.sensors) ?_ (Labelled.Reachable.refl _ _) h
  intro s event t hs hstep
  obtain hsame | ⟨call, hcall⟩ := (calls_step hstep).1
  · rwa [hsame]
  · rw [hcall]
    exact hs.step rfl

/-- The rules of the process stay as `main` has registered them. -/
theorem rules_of_reachable {now : ℤ} {s : ServerState D κ}
    (h : (server D κ).Reachable (serverInit now) s) :
    rules s.engine = rules (serverInit now : ServerState D κ).engine := by
  refine Labelled.inv_of_reachable
    (fun s ↦ rules s.engine = rules (serverInit now : ServerState D κ).engine) ?_ rfl h
  intro s event t hs hstep
  obtain hsame | ⟨time, sensorId, sensorType, value, hcheck⟩ := (calls_step hstep).2
  · rwa [hsame]
  · rw [hcheck, rules_checkMeasurement, hs]

end IotMonitoring.Server.HandleClient
