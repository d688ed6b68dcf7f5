import IotMonitoring.Machine.Labelled
import IotMonitoring.Server.SensorManager

/-!
# What a successful registration promises

A run of the sensor manager is any sequence of registrations and measurements. An id that was
registered with success stays usable for the rest of the run exactly when its field holds it whole:
the field has room for 31 bytes, and the ids a sensor client accepts go up to 32 characters.
-/

namespace IotMonitoring.Server.SensorManager

open Text Machine

variable {D : Type} [CDouble D]

/-- A call of one of the two operations that write the table. -/
inductive Call (D : Type) where
  | register (now : ℤ) (sensorType sensorId : CString)
  | addMeasurement (now : ℤ) (sensorId : CString) (value : D) (unit : CString)

namespace Call

def sensorId : Call D → CString
  | register _ _ sensorId => sensorId
  | addMeasurement _ sensorId _ _ => sensorId

/-- The table a call leaves behind and its return value. -/
def apply : Call D → SensorTable D → SensorTable D × ℤ
  | register now sensorType sensorId, table => SensorManager.register now sensorType sensorId table
  | addMeasurement now sensorId value unit, table =>
    SensorManager.addMeasurement now sensorId value unit table

theorem directory_apply (call : Call D) (table : SensorTable D) :
    directory table <+: directory (call.apply table).1 := by
  cases call with
  | register now sensorType sensorId => exact directory_register now sensorType sensorId table
  | addMeasurement now sensorId value unit =>
    exact directory_addMeasurement now sensorId value unit table ▸ List.prefix_refl _

/-- A call writes no slot in use but the one that serves its own id. -/
theorem get_apply (call : Call D) (table : SensorTable D) {i : Fin maxSensors}
    (hlive : i < table.count) (hother : findSensor table call.sensorId ≠ some i) :
    (call.apply table).1.get i = table.get i := by
  cases call with
  | register now sensorType sensorId =>
    obtain ⟨j, hfind, heq⟩ | ⟨-, hroom, heq⟩ | ⟨-, -, heq⟩ :=
      register_cases now sensorType sensorId table
    · have hne : i ≠ j := fun hij ↦ hother (hij ▸ hfind)
      rw [apply, heq, table.get_modify_ne hne]
    · rw [apply, heq, table.get_push hroom _ hlive]
    · rw [apply, heq]
  | addMeasurement now sensorId value unit =>
    obtain ⟨j, hfind, heq⟩ | ⟨-, heq⟩ := addMeasurement_cases now sensorId value unit table
    · have hne : i ≠ j := fun hij ↦ hother (hij ▸ hfind)
      rw [apply, heq, table.get_modify_ne hne]
    · rw [apply, heq]

end Call

/-- The sensor manager as a machine over its calls. -/
def manager (D : Type) [CDouble D] : Labelled (SensorTable D) (Call D) where
  step table call := some (call.apply table).1

/-- The directory only grows along a run. -/
theorem directory_run {s t : SensorTable D} {calls : List (Call D)}
    (hrun : (manager D).run s calls = some t) : directory s <+: directory t := by
  refine Labelled.rel_of_run (directory · <+: directory ·) (fun _ ↦ List.prefix_refl _)
    (fun _ _ _ ↦ List.IsPrefix.trans) ?_ hrun
  intro u call v hstep
  obtain rfl : (call.apply u).1 = v := Option.some.inj hstep
  exact call.directory_apply u

/-- A call leaves every slot in use active. -/
theorem Call.active_apply (call : Call D) {table : SensorTable D}
    (h : ∀ sensor ∈ table.live, sensor.isActive = true) :
    ∀ sensor ∈ (call.apply table).1.live, sensor.isActive = true := by
  cases call with
  | register now sensorType sensorId =>
    rw [Call.apply]
    obtain ⟨i, -, heq⟩ | ⟨-, hroom, heq⟩ | ⟨-, -, heq⟩ :=
      register_cases now sensorType sensorId table
    · rw [heq]
      exact Slots.forall_live_modify h i fun _ _ ↦ rfl
    · rw [heq, Slots.live_push]
      exact List.forall_mem_append.mpr ⟨h, by simp [Sensor.fill]⟩
    · rwa [heq]
  | addMeasurement now sensorId value unit =>
    rw [Call.apply]
    obtain ⟨i, -, heq⟩ | ⟨-, heq⟩ := addMeasurement_cases now sensorId value unit table
    · rw [heq]
      exact Slots.forall_live_modify h i fun _ _ ↦ rfl
    · rwa [heq]

/-- Every slot in use is active. -/
theorem active_of_reachable {t : SensorTable D} (h : (manager D).Reachable init t) :
    ∀ sensor ∈ t.live, sensor.isActive = true := by
  refine Labelled.inv_of_reachable (fun t ↦ ∀ sensor ∈ t.live, sensor.isActive = true) ?_
    (by simp [init]) h
  intro s call t hs hstep
  obtain rfl : (call.apply s).1 = t := Option.some.inj hstep
  exact call.active_apply hs

/-- What a client may rely on after `OK SENSOR_REGISTERED`. -/
structure Usable (table : SensorTable D) (sensorId : CString) : Prop where
  registered : isSensorRegistered sensorId table = 1
  measurable : ∀ now value unit, (addMeasurement now sensorId value unit table).2 = 0
  typed : getSensorType sensorId table ≠ none
  once : ∀ now sensorType, (register now sensorType sensorId table).1.count ≤ table.count
  undisturbed : ∀ i, findSensor table sensorId = some i → ∀ call : Call D,
    call.sensorId ≠ sensorId → findSensor (call.apply table).1 sensorId = some i ∧
      (call.apply table).1.get i = table.get i

/-- An id is usable when some slot holds it. -/
theorem usable_of_findSensor {table : SensorTable D} {sensorId : CString} {i : Fin maxSensors}
    (hfind : findSensor table sensorId = some i) : Usable table sensorId where
  registered := by simp only [isSensorRegistered, hfind]
  measurable now value unit := by simp only [addMeasurement, hfind]
  typed := by simp [getSensorType, hfind]
  once now sensorType := by simp [register, hfind]
  undisturbed j hj call hcall := by
    have hlive := (findSensor_eq_some hj).1
    refine ⟨findSensor_of_grow (call.directory_apply table) hj, call.get_apply table hlive ?_⟩
    intro hserved
    exact hcall ((findSensor_eq_some hserved).2.symm.trans (findSensor_eq_some hj).2)

/-- A successful registration leaves a slot that holds the id, if the field has room for it. -/
theorem findSensor_register {now : ℤ} {sensorType sensorId : CString} {table : SensorTable D}
    (hzero : (register now sensorType sensorId table).2 = 0) (hfits : sensorId.length ≤ 31) :
    ∃ i, findSensor (register now sensorType sensorId table).1 sensorId = some i := by
  obtain ⟨i, hfind, -⟩ | ⟨-, hroom, heq⟩ | ⟨-, -, heq⟩ :=
    register_cases now sensorType sensorId table
  · exact ⟨i, findSensor_of_grow (directory_register now sensorType sensorId table) hfind⟩
  · rw [← Option.ne_none_iff_exists']
    intro hnone
    have hentry : (sensorId.cut 31, sensorType.cut 15) ∈
        directory (register now sensorType sensorId table).1 := by
      rw [heq, directory, Slots.keys_push, Sensor.entry_fill]
      exact List.mem_append_right _ List.mem_cons_self
    exact findSensor_eq_none_iff.mp hnone _ hentry (CString.cut_eq_self hfits)
  · rw [heq] at hzero
    cases hzero

/-- From a registration that returned 0 on, at every later point of the run, the id is usable
exactly when it is at most 31 bytes long. -/
theorem usable_iff_length_le {now : ℤ} {sensorType sensorId : CString} {s t : SensorTable D}
    {later : List (Call D)} (hzero : (register now sensorType sensorId s).2 = 0)
    (hrun : (manager D).run (register now sensorType sensorId s).1 later = some t) :
    Usable t sensorId ↔ sensorId.length ≤ 31 := by
  constructor
  · intro husable
    obtain ⟨i, hfind⟩ := Option.ne_none_iff_exists'.mp husable.typed
    exact (findSensor_eq_some hfind).2 ▸ (t.get i).id.length_str_le
  · intro hfits
    obtain ⟨i, hfind⟩ := findSensor_register hzero hfits
    exact usable_of_findSensor (findSensor_of_grow (directory_run hrun) hfind)

/-- A registration and a measurement of a sensor with a short id. -/
theorem usable_iff_length_le_short :
    ∃ t : SensorTable ℚ, (manager ℚ).run (register 7 (.lit "temp") (.lit "s1") init).1
        [.addMeasurement 8 (.lit "s1") 21 (.lit "C")] = some t ∧
      (Usable t (.lit "s1") ↔ (CString.lit "s1").length ≤ 31) := by
  have hzero : (register 7 (.lit "temp") (.lit "s1") (init : SensorTable ℚ)).2 = 0 := by
    decide +kernel
  obtain ⟨t, hrun⟩ : ∃ t, (manager ℚ).run (register 7 (.lit "temp") (.lit "s1") init).1
      [.addMeasurement 8 (.lit "s1") 21 (.lit "C")] = some t := ⟨_, rfl⟩
  exact ⟨t, hrun, usable_iff_length_le hzero hrun⟩

/-- `ID_PATTERN` of the sensor client: 1 to 32 letters, digits, underscores and hyphens. -/
def idPattern (sensorId : CString) : Prop :=
  1 ≤ sensorId.length ∧ sensorId.length ≤ 32 ∧ ∀ b ∈ sensorId.bytes,
    (65 ≤ b ∧ b ≤ 90) ∨ (97 ≤ b ∧ b ≤ 122) ∨ (48 ≤ b ∧ b ≤ 57) ∨ b = 95 ∨ b = 45

/-- An id of 32 characters is accepted by the client, its registration is answered with OK, and it
is not usable. -/
theorem not_usable_of_longest_id :
    ∃ sensorId, idPattern sensorId ∧
      (register 7 (.lit "temp") sensorId (init : SensorTable ℚ)).2 = 0 ∧
      ¬ Usable (register 7 (.lit "temp") sensorId (init : SensorTable ℚ)).1 sensorId := by
  refine ⟨⟨List.replicate 32 97, by decide⟩, ⟨by decide, by decide, ?_⟩, by decide +kernel, ?_⟩
  · intro b hb
    obtain rfl : b = 97 := List.eq_of_mem_replicate hb
    decide
  · intro husable
    exact absurd husable.registered (by decide +kernel)

end IotMonitoring.Server.SensorManager
