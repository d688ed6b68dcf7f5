import IotMonitoring.Server.AlertLine
import IotMonitoring.Server.Thresholds

/-!
# The type a measurement is checked against

Registering an id once more is answered like its first registration and leaves the stored type as
it was. As long as no registered id is longer than its field, the table therefore holds for each id
the type of its first successful registration, and this is the type by which the thresholds for a
measurement are chosen.
-/

namespace IotMonitoring.Server.HandleClient

open Text Machine Protocol SensorManager AlertEngine

variable {D κ : Type} [CDouble D]

/-! ## The history of registrations -/

/-- Id and type of a `REGISTER_SENSOR` that is answered `OK SENSOR_REGISTERED`. -/
def registration (s : ServerState D κ) : Event κ → List (CString × CString)
  | .request env client chunk =>
    match chunk.message.type, chunk.message.argStrings with
    | .registerSensor, sensorId :: sensorType :: _ =>
      if (respond env client chunk s).response = ok "SENSOR_REGISTERED" then
        [(sensorId, sensorType)]
      else []
    | _, _ => []
  | _ => []

/-- The successful registrations of a run of the server. -/
def registrations (now : ℤ) (events : List (Event κ)) : List (CString × CString) :=
  (server D κ).outputs registration (serverInit now) events

/-- The type of the first registration of an id. -/
def firstType (sensorId : CString) (history : List (CString × CString)) : Option CString :=
  (history.find? (·.1 = sensorId)).map Prod.snd

/-- The type of the most recent registration of an id. -/
def latestType (sensorId : CString) (history : List (CString × CString)) : Option CString :=
  firstType sensorId history.reverse

/-- The type that the table holds for an id. -/
def storedType (sensorId : CString) (table : SensorTable D) : Option CString :=
  firstType sensorId (directory table)

omit [CDouble D] in
theorem storedType_of_findSensor {table : SensorTable D} {sensorId : CString}
    {pointer : Fin maxSensors} (h : findSensor table sensorId = some pointer) :
    storedType sensorId table = some (typeAt table pointer) := by
  have hindex := Slots.find_eq_some_iff.mp h
  have hslot := table.live_getElem? (findSensor_eq_some h).1
  have hfind : table.live.find? (fun sensor ↦ decide (sensor.id.str = sensorId)) =
      some (table.get pointer) := by
    rw [List.find?_eq_some_iff_getElem]
    obtain ⟨hlt, hpass, hfirst⟩ := List.findIdx?_eq_some_iff_getElem.mp hindex
    rw [List.getElem?_eq_getElem hlt, Option.some.injEq] at hslot
    exact ⟨hslot ▸ hpass, pointer, hlt, hslot, fun j hj ↦ by simpa using hfirst j hj⟩
  rw [storedType, firstType, directory, Slots.keys, List.find?_map]
  have hcomp : (fun entry : CString × CString ↦ decide (entry.1 = sensorId)) ∘ Sensor.entry =
      fun sensor : Sensor D ↦ decide (sensor.id.str = sensorId) := rfl
  rw [hcomp, hfind]
  rfl

/-! ## What a step registers -/

theorem directory_store (env : Env) (args : List CString) (s : ServerState D κ) :
    directory (storeMeasurement env args s).sensors = directory s.sensors := by
  unfold storeMeasurement
  split
  · exact directory_addMeasurement _ _ _ _ _
  · rfl

theorem directory_measurement (env : Env) (args : List CString) (s : ServerState D κ) :
    directory (measurement env args s).state.sensors = directory s.sensors := by
  obtain heq | heq | ⟨pointer, -, heq⟩ := state_measurement env args s
  · rw [heq]
  · rw [heq, directory_store]
  · rw [heq, sensors_check, directory_store]

/-- The other commands leave the directory alone. -/
theorem directory_dispatch {type : CommandType} (hother : type ≠ .registerSensor) (env : Env)
    (client : Client κ) (args : List CString) (s : ServerState D κ) :
    directory (dispatch env client type args s).state.sensors = directory s.sensors := by
  have hframe := dispatch_respectsFrame env client type args s
  cases type with
  | registerSensor => exact absurd rfl hother
  | measurement => exact directory_measurement env args s
  | login =>
    by_cases herror : IsError (dispatch env client .login args s).response.text
    · rw [(hframe.unchanged (.inl herror)).1]
    · rw [(hframe.logsIn rfl herror).sensors]
  | ping | operatorIdentify | getSensors | getAlerts | getStatus =>
    rw [(hframe.unchanged (.inr trivial)).1]
  | unknown => rfl

/-- A REGISTER_SENSOR has both arguments, or it is refused. -/
theorem registerSensor_args {chunk : Chunk} (hregister : chunk.message.type = .registerSensor)
    (env : Env) (client : Client κ) (s : ServerState D κ) :
    (∃ sensorId sensorType rest, chunk.message.argStrings = sensorId :: sensorType :: rest) ∨
      ((respond env client chunk s).state = s ∧
        registration s (.request env client chunk) = []) := by
  rw [respond_eq, hregister]
  match hargs : chunk.message.argStrings with
  | [] | [_] => exact .inr ⟨rfl, by simp [registration, hregister, hargs]⟩
  | sensorId :: sensorType :: rest => exact .inl ⟨sensorId, sensorType, rest, rfl⟩

/-- A step registers a sensor, or leaves the directory alone and registers nothing. -/
theorem registration_cases {s t : ServerState D κ} {event : Event κ}
    (hstep : (server D κ).step s event = some t) :
    (∃ now sensorId sensorType,
      t.sensors = (register now sensorType sensorId s.sensors).1 ∧
      registration s event =
        if (register now sensorType sensorId s.sensors).2 = 0 then [(sensorId, sensorType)]
        else []) ∨
    (directory t.sensors = directory s.sensors ∧ registration s event = []) := by
  cases event with
  | request env client chunk =>
    obtain rfl := Option.some.inj hstep
    by_cases hregister : chunk.message.type = .registerSensor
    · obtain ⟨sensorId, sensorType, rest, hargs⟩ | ⟨hsame, hnone⟩ :=
        registerSensor_args hregister env client s
      · refine .inl ⟨env.time, sensorId, sensorType, ?_⟩
        simp only [registration, respond_eq, hregister, hargs, dispatch, registerSensor]
        split
        · exact ⟨rfl, if_pos rfl⟩
        · exact ⟨rfl, rfl⟩
      · exact .inr ⟨by rw [hsame], hnone⟩
    · refine .inr ⟨?_, by simp [registration, hregister]⟩
      rw [respond_eq]
      exact directory_dispatch hregister env client _ s
  | store env chunk =>
    obtain rfl := Option.some.inj hstep
    exact .inr ⟨directory_store env _ s, rfl⟩
  | check env chunk pointer =>
    obtain ⟨-, rfl⟩ := Option.ite_some_none_eq_some.mp hstep
    exact .inr ⟨congrArg directory (sensors_check env _ pointer s), rfl⟩
  | disconnect client =>
    obtain rfl := Option.some.inj hstep
    exact .inr ⟨rfl, rfl⟩

/-! ## The first registration -/

/-- The table holds for each id what the first registration of it has asked for. -/
def Recorded (history : List (CString × CString)) (table : SensorTable D) : Prop :=
  ∀ sensorId, storedType sensorId table = (firstType sensorId history).map (CString.cut 15)

theorem firstType_append (sensorId : CString) (history : List (CString × CString))
    (entry : CString × CString) :
    firstType sensorId (history ++ [entry]) =
      (firstType sensorId history).or (if entry.1 = sensorId then some entry.2 else none) := by
  rw [firstType, firstType, List.find?_append, Option.map_or]
  by_cases hentry : entry.1 = sensorId
  · simp [hentry]
  · simp [hentry]

theorem Recorded.register {history : List (CString × CString)} {table : SensorTable D}
    (h : Recorded history table) (now : ℤ) (sensorType : CString) {sensorId : CString}
    (hfits : sensorId.length ≤ 31) :
    Recorded (history ++ if (SensorManager.register now sensorType sensorId table).2 = 0 then
        [(sensorId, sensorType)] else [])
      (SensorManager.register now sensorType sensorId table).1 := by
  obtain ⟨i, hfind, heq⟩ | ⟨hnone, hroom, heq⟩ | ⟨-, -, heq⟩ :=
    register_cases now sensorType sensorId table
  · -- The id has been registered before, so a registration more is not the first one.
    have hdirectory : directory (table.modify i Sensor.activate) = directory table :=
      table.keys_modify Sensor.entry i fun _ ↦ rfl
    rw [heq, if_pos rfl]
    intro other
    rw [storedType, hdirectory, firstType_append]
    have hother := h other
    by_cases hsame : sensorId = other
    · subst hsame
      rw [storedType_of_findSensor hfind] at hother
      cases hfirst : firstType sensorId history with
      | none => simp [hfirst] at hother
      | some first =>
        rw [hfirst] at hother
        rw [Option.some_or, ← hother]
        exact storedType_of_findSensor hfind
    · rw [if_neg hsame, Option.or_none]
      exact hother
  · rw [heq, if_pos rfl]
    intro other
    rw [storedType, directory, Slots.keys_push, Sensor.entry_fill, CString.cut_eq_self hfits,
      firstType_append, firstType_append, Option.map_or]
    have hother := h other
    rw [storedType, directory] at hother
    rw [hother]
    congr 1
    dsimp only
    split <;> rfl
  · rw [heq, if_neg (by simp), List.append_nil]
    exact h

theorem register_of_ne_zero {now : ℤ} {sensorType sensorId : CString} {table : SensorTable D}
    (h : (SensorManager.register now sensorType sensorId table).2 ≠ 0) :
    (SensorManager.register now sensorType sensorId table).1 = table := by
  obtain ⟨i, -, heq⟩ | ⟨-, hroom, heq⟩ | ⟨-, -, heq⟩ :=
    register_cases now sensorType sensorId table
  · exact absurd (congrArg Prod.snd heq) h
  · exact absurd (congrArg Prod.snd heq) h
  · rw [heq]

/-- After every run whose registered ids fit, each id has the type of its first registration. -/
theorem recorded_of_run {now : ℤ} {events : List (Event κ)} {s : ServerState D κ}
    (hrun : (server D κ).run (serverInit now) events = some s)
    (hfits : ∀ entry ∈ registrations (D := D) now events, entry.1.length ≤ 31) :
    Recorded (registrations (D := D) now events) s.sensors := by
  have hinit : (∀ entry ∈ ([] : List (CString × CString)), entry.1.length ≤ 31) →
      Recorded [] (serverInit now : ServerState D κ).sensors := fun _ sensorId ↦ by
    simp [storedType, directory, Slots.keys, serverInit, SensorManager.init, firstType]
  refine Labelled.inv_of_outputs
    (fun history (s : ServerState D κ) ↦ (∀ entry ∈ history, entry.1.length ≤ 31) →
      Recorded history s.sensors) ?_ hinit hrun hfits
  intro history u event v hu hstep hshort
  have hhistory := hu fun entry hentry ↦ hshort entry (List.mem_append_left _ hentry)
  obtain ⟨time, sensorId, sensorType, hsensors, hshown⟩ | ⟨hsame, hshown⟩ :=
    registration_cases hstep
  · rw [hshown] at hshort ⊢
    rw [hsensors]
    by_cases hzero : (SensorManager.register time sensorType sensorId u.sensors).2 = 0
    · have hid : sensorId.length ≤ 31 := by
        apply hshort (sensorId, sensorType)
        rw [if_pos hzero]
        exact List.mem_append_right _ List.mem_cons_self
      exact hhistory.register time sensorType hid
    · rw [if_neg hzero, List.append_nil, register_of_ne_zero hzero]
      exact hhistory
  · rw [hshown, List.append_nil]
    intro sensorId
    rw [storedType, hsame]
    exact hhistory sensorId

/-! ## The thresholds of a measurement -/

/-- An accepted measurement has found its id, and is checked against the type stored with it. -/
theorem checked_of_accepted (env : Env) (client : Client κ) {chunk : Chunk} {s : ServerState D κ}
    (hmeasurement : chunk.message.type = .measurement)
    {sensorId valueText unit : CString} {rest : List CString}
    (hargs : chunk.message.argStrings = sensorId :: valueText :: unit :: rest)
    (haccepted : (respond env client chunk s).response = ok "MEASUREMENT_RECEIVED") :
    ∃ pointer, getSensorType sensorId s.sensors = some pointer ∧
      (respond env client chunk s).state.engine =
        (checkMeasurement env.alertTime sensorId (typeAt s.sensors pointer)
          (CDouble.atof valueText : D) s.engine).1 := by
  rw [respond_eq, hmeasurement, hargs, dispatch] at haccepted ⊢
  cases hfind : findSensor s.sensors sensorId with
  | none =>
    have hrefused : error "404" "Sensor not registered" ≠ ok "MEASUREMENT_RECEIVED" := by decide
    rw [measurement_of_findSensor_eq_none env valueText unit rest hfind] at haccepted
    exact absurd haccepted hrefused
  | some pointer =>
    refine ⟨pointer, hfind, ?_⟩
    rw [measurement_of_findSensor env valueText unit rest hfind]

/-- An accepted measurement is checked against the thresholds for the type of the first successful
registration of its id, and the alerts it leads to are those of these thresholds. -/
theorem evaluated_eq_matching_firstType {now : ℤ} {events : List (Event κ)} {s : ServerState D κ}
    (hrun : (server D κ).run (serverInit now) events = some s)
    (hfits : ∀ entry ∈ registrations (D := D) now events, entry.1.length ≤ 31)
    (env : Env) (client : Client κ) {chunk : Chunk}
    (hmeasurement : chunk.message.type = .measurement)
    {sensorId valueText unit : CString} {rest : List CString}
    (hargs : chunk.message.argStrings = sensorId :: valueText :: unit :: rest)
    (haccepted : (respond env client chunk s).response = ok "MEASUREMENT_RECEIVED") :
    ∃ pointer sensorType,
      getSensorType sensorId s.sensors = some pointer ∧
      firstType sensorId (registrations (D := D) now events) = some sensorType ∧
      (respond env client chunk s).state.engine =
        (checkMeasurement env.alertTime sensorId (typeAt s.sensors pointer)
          (CDouble.atof valueText : D) s.engine).1 ∧
      evaluated (typeAt s.sensors pointer) s.engine = matching sensorType s.engine ∧
      (checkMeasurement env.alertTime sensorId (typeAt s.sensors pointer)
          (CDouble.atof valueText : D) s.engine).2 =
        (matching sensorType s.engine).filterMap
          (triggered sensorId (typeAt s.sensors pointer) (CDouble.atof valueText)) := by
  obtain ⟨pointer, hfind, hchecked⟩ :=
    checked_of_accepted env client hmeasurement hargs haccepted
  have hrecorded := recorded_of_run hrun hfits sensorId
  rw [storedType_of_findSensor hfind] at hrecorded
  obtain ⟨sensorType, hfirst, hstored⟩ := Option.map_eq_some_iff.mp hrecorded.symm
  have hevaluated : evaluated (typeAt s.sensors pointer) s.engine =
      matching sensorType s.engine := by
    rw [evaluated_eq_matching ⟨events, hrun⟩, matching, matching, ← hstored, CString.cut_cut]
  refine ⟨pointer, sensorType, hfind, hfirst, hchecked, hevaluated, ?_⟩
  rw [calls_eq_filterMap_evaluated, hevaluated]

/-- One id, registered for temperature and then by another client for vibration. -/
def registeredTwice : List (Event ℕ) :=
  [.request sensorEnv ⟨5, 0⟩ registerChunk,
    .request sensorEnv ⟨6, 1⟩
      ⟨ascii "REGISTER_SENSOR s1 vibration\r\n", by decide, by decide⟩]

theorem type_measurementChunk_one : (measurementChunk 1).message.type = .measurement := by
  decide +kernel

theorem argStrings_measurementChunk_one :
    (measurementChunk 1).message.argStrings = [.lit "s1", .lit "60", .lit "C"] := by
  decide +kernel

/-- After both registrations a measurement is accepted. -/
theorem accepted_registeredTwice :
    ∃ s : ServerState ℚ ℕ, (server ℚ ℕ).run (serverInit 0) registeredTwice = some s ∧
      (respond sensorEnv ⟨5, 0⟩ (measurementChunk 1) s).response = ok "MEASUREMENT_RECEIVED" := by
  refine ⟨_, rfl, ?_⟩
  decide +kernel

/-- The thresholds that the measurement is checked against. -/
theorem evaluated_eq_matching_firstType_registeredTwice :
    ∃ s : ServerState ℚ ℕ, (server ℚ ℕ).run (serverInit 0) registeredTwice = some s ∧
      ∃ pointer sensorType,
        getSensorType (.lit "s1") s.sensors = some pointer ∧
        firstType (.lit "s1") (registrations (D := ℚ) 0 registeredTwice) = some sensorType ∧
        (respond sensorEnv ⟨5, 0⟩ (measurementChunk 1) s).state.engine =
          (checkMeasurement sensorEnv.alertTime (.lit "s1") (typeAt s.sensors pointer)
            (CDouble.atof (.lit "60") : ℚ) s.engine).1 ∧
        evaluated (typeAt s.sensors pointer) s.engine = matching sensorType s.engine ∧
        (checkMeasurement sensorEnv.alertTime (.lit "s1") (typeAt s.sensors pointer)
            (CDouble.atof (.lit "60") : ℚ) s.engine).2 =
          (matching sensorType s.engine).filterMap
            (triggered (.lit "s1") (typeAt s.sensors pointer) (CDouble.atof (.lit "60"))) := by
  obtain ⟨s, hrun, haccepted⟩ := accepted_registeredTwice
  have hfits : (registrations (D := ℚ) 0 registeredTwice).all (·.1.length ≤ 31) = true := by
    decide +kernel
  refine ⟨s, hrun, evaluated_eq_matching_firstType hrun (fun entry hentry ↦ ?_) sensorEnv ⟨5, 0⟩
    type_measurementChunk_one argStrings_measurementChunk_one haccepted⟩
  simpa using List.all_eq_true.mp hfits entry hentry

/-- The latest successful registration of the sensor is for vibration, but the measurement is
checked against the thresholds for temperature. -/
theorem evaluated_ne_matching_latestType :
    ∃ s : ServerState ℚ ℕ, (server ℚ ℕ).run (serverInit 0) registeredTwice = some s ∧
      (∀ entry ∈ registrations (D := ℚ) 0 registeredTwice, entry.1.length ≤ 31) ∧
      (respond sensorEnv ⟨5, 0⟩ (measurementChunk 1) s).response = ok "MEASUREMENT_RECEIVED" ∧
      latestType (.lit "s1") (registrations (D := ℚ) 0 registeredTwice) =
        some (.lit "vibration") ∧
      ∃ pointer, getSensorType (.lit "s1") s.sensors = some pointer ∧
        (respond sensorEnv ⟨5, 0⟩ (measurementChunk 1) s).state.engine =
          (checkMeasurement sensorEnv.alertTime (.lit "s1") (typeAt s.sensors pointer)
            (CDouble.atof (.lit "60") : ℚ) s.engine).1 ∧
        (evaluated (typeAt s.sensors pointer) s.engine).map (·.sensorType.str) =
          [.lit "temperature", .lit "temperature"] ∧
        evaluated (typeAt s.sensors pointer) s.engine ≠ matching (.lit "vibration") s.engine := by
  obtain ⟨s, hrun, haccepted, hevaluated, hmatching⟩ :
      ∃ s : ServerState ℚ ℕ, (server ℚ ℕ).run (serverInit 0) registeredTwice = some s ∧
        (respond sensorEnv ⟨5, 0⟩ (measurementChunk 1) s).response = ok "MEASUREMENT_RECEIVED" ∧
        ((getSensorType (.lit "s1") s.sensors).map fun pointer ↦
          (evaluated (typeAt s.sensors pointer) s.engine).map (·.sensorType.str)) =
            some [.lit "temperature", .lit "temperature"] ∧
        (matching (.lit "vibration") s.engine).map (·.sensorType.str) =
          [.lit "vibration", .lit "vibration"] := by
    refine ⟨_, rfl, ?_⟩
    decide +kernel
  obtain ⟨pointer, hfind, hchecked⟩ := checked_of_accepted sensorEnv (⟨5, 0⟩ : Client ℕ)
    type_measurementChunk_one argStrings_measurementChunk_one haccepted
  rw [hfind, Option.map_some, Option.some.injEq] at hevaluated
  have hfits : (registrations (D := ℚ) 0 registeredTwice).all (·.1.length ≤ 31) = true := by
    decide +kernel
  refine ⟨s, hrun, fun entry hentry ↦ ?_, haccepted, by decide +kernel, pointer, hfind, hchecked,
    hevaluated, fun heq ↦ ?_⟩
  · simpa using List.all_eq_true.mp hfits entry hentry
  · rw [heq, hmatching] at hevaluated
    exact absurd hevaluated (by decide)

end IotMonitoring.Server.HandleClient
