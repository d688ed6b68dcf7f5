import IotMonitoring.Server.SensorRuns
import Mathlib.Data.List.Perm.Subperm

/-!
# The capacity of the sensor table

A slot is never given back while the server runs. Ids that fit into their field take one slot each,
however often they are registered, so fifty of them are never refused. An id that does not fit is
not recognized again: every registration of it takes another slot, until the table is full, and
then the ids that are not in it are refused for good.
-/

namespace IotMonitoring.Server.SensorManager

open Text Machine

variable {D : Type} [CDouble D]

/-- The ids that searches compare with. -/
def storedIds (table : SensorTable D) : List CString := (directory table).map Prod.fst

/-- A registration with an id that is longer than its field. -/
def Call.isLongRegistration : Call D → Bool
  | .register _ _ sensorId => 31 < sensorId.length
  | .addMeasurement .. => false

omit [CDouble D] in
theorem length_storedIds (table : SensorTable D) : (storedIds table).length = table.count := by
  rw [storedIds, List.length_map, length_directory]

omit [CDouble D] in
theorem findSensor_eq_none_iff_notMem {table : SensorTable D} {sensorId : CString} :
    findSensor table sensorId = none ↔ sensorId ∉ storedIds table := by
  rw [findSensor_eq_none_iff, storedIds, List.mem_map]
  grind

omit [CDouble D] in
/-- A stored id has at most 31 bytes. -/
theorem findSensor_of_long {sensorId : CString} (h : 31 < sensorId.length) (table : SensorTable D) :
    findSensor table sensorId = none := by
  cases hfind : findSensor table sensorId with
  | none => rfl
  | some i =>
    obtain ⟨-, hid⟩ := findSensor_eq_some hfind
    have hle := (table.get i).id.length_str_le
    rw [hid] at hle
    omega

/-- A call leaves the stored ids alone, or it registers an id that is not stored yet. -/
theorem storedIds_apply (call : Call D) (table : SensorTable D) :
    storedIds (call.apply table).1 = storedIds table ∨
      (findSensor table call.sensorId = none ∧ table.count < maxSensors ∧
        storedIds (call.apply table).1 = storedIds table ++ [call.sensorId.cut 31]) := by
  cases call with
  | register now sensorType sensorId =>
    obtain ⟨i, -, heq⟩ | ⟨hnone, hroom, heq⟩ | ⟨-, -, heq⟩ :=
      register_cases now sensorType sensorId table
    · left
      rw [Call.apply, heq, storedIds, storedIds]
      exact congrArg _ (table.keys_modify Sensor.entry i fun _ ↦ rfl)
    · refine .inr ⟨hnone, hroom, ?_⟩
      rw [Call.apply, heq, storedIds, storedIds, directory, directory, Slots.keys_push,
        List.map_append]
      simp [Sensor.entry, Sensor.fill, Call.sensorId]
    · left
      rw [Call.apply, heq]
  | addMeasurement now sensorId value unit =>
    left
    rw [Call.apply, storedIds, storedIds, directory_addMeasurement]

/-! ## Ids that fit -/

/-- Whatever is registered, each stored id is stored once as long as all ids fit. -/
theorem storedIds_of_fitting {ids : List CString} (hfits : ∀ sensorId ∈ ids, sensorId.length ≤ 31)
    {calls : List (Call D)} (hcalls : ∀ call ∈ calls, call.sensorId ∈ ids) {s t : SensorTable D}
    (hs : (storedIds s).Nodup ∧ storedIds s ⊆ ids) (hrun : (manager D).run s calls = some t) :
    (storedIds t).Nodup ∧ storedIds t ⊆ ids := by
  induction calls generalizing s with
  | nil =>
    obtain rfl := Option.some.inj hrun
    exact hs
  | cons call calls ih =>
    obtain ⟨hcall, hrest⟩ := List.forall_mem_cons.mp hcalls
    obtain ⟨u, hstep, hlater⟩ := (manager D).run_cons_eq_some.mp hrun
    obtain rfl := Option.some.inj hstep
    refine ih hrest ?_ hlater
    obtain hsame | ⟨hnone, -, happend⟩ := storedIds_apply call s
    · rwa [hsame]
    · rw [happend, CString.cut_eq_self (hfits _ hcall)]
      have hnew := findSensor_eq_none_iff_notMem.mp hnone
      refine ⟨List.nodup_append.mpr ⟨hs.1, by simp, ?_⟩, ?_⟩
      · rintro stored hstored added hadded rfl
        exact hnew (List.mem_singleton.mp hadded ▸ hstored)
      · exact List.append_subset.mpr ⟨hs.2, by simpa using hcall⟩

/-- Among at most fifty ids that fit, none is ever refused. -/
theorem register_of_fitting {ids : List CString} (hfits : ∀ sensorId ∈ ids, sensorId.length ≤ 31)
    (hfew : ids.length ≤ maxSensors) {calls : List (Call D)}
    (hcalls : ∀ call ∈ calls, call.sensorId ∈ ids) {t : SensorTable D}
    (hrun : (manager D).run init calls = some t) {sensorId : CString} (hid : sensorId ∈ ids)
    (now : ℤ) (sensorType : CString) : (register now sensorType sensorId t).2 = 0 := by
  have hinit : storedIds (init : SensorTable D) = [] := rfl
  obtain ⟨hnodup, hsubset⟩ :=
    storedIds_of_fitting hfits hcalls (by rw [hinit]; simp) hrun
  obtain ⟨i, -, heq⟩ | ⟨-, hroom, heq⟩ | ⟨hnone, hfull, -⟩ :=
    register_cases now sensorType sensorId t
  · exact congrArg Prod.snd heq
  · exact congrArg Prod.snd heq
  · -- A full table would hold all the ids, this one included.
    have hnew := findSensor_eq_none_iff_notMem.mp hnone
    have hmore : (sensorId :: storedIds t).Nodup := List.nodup_cons.mpr ⟨hnew, hnodup⟩
    have hle := (hmore.subperm (List.cons_subset.mpr ⟨hid, hsubset⟩)).length_le
    rw [List.length_cons, length_storedIds, hfull] at hle
    omega

omit [CDouble D] in
/-- Of more than fifty different ids one is not in the table. -/
theorem exists_missing_of_many {ids : List CString} (hnodup : ids.Nodup)
    (hmany : maxSensors < ids.length) (t : SensorTable D) :
    ∃ sensorId ∈ ids, findSensor t sensorId = none := by
  by_contra! hall
  have hsubset : ids ⊆ storedIds t := by
    intro sensorId hmem
    by_contra hnew
    exact hall sensorId hmem (findSensor_eq_none_iff_notMem.mpr hnew)
  have hle := (hnodup.subperm hsubset).length_le
  rw [length_storedIds] at hle
  have hmax := t.count_le
  omega

/-! ## Ids that do not fit -/

theorem count_apply_of_long {call : Call D} (hlong : call.isLongRegistration)
    (table : SensorTable D) :
    min maxSensors (table.count + 1) ≤ (call.apply table).1.count := by
  cases call with
  | register now sensorType sensorId =>
    have hnone := findSensor_of_long (by simpa [Call.isLongRegistration] using hlong) table
    obtain ⟨i, hfind, -⟩ | ⟨-, hroom, heq⟩ | ⟨-, hfull, heq⟩ :=
      register_cases now sensorType sensorId table
    · rw [hnone] at hfind
      cases hfind
    · rw [Call.apply, heq]
      exact min_le_right _ _
    · rw [Call.apply, heq, hfull]
      exact min_le_left _ _
  | addMeasurement now sensorId value unit => cases hlong

/-- Every registration of an id that does not fit takes a slot while there is one. -/
theorem count_of_long {s t : SensorTable D} {calls : List (Call D)}
    (hrun : (manager D).run s calls = some t) :
    min maxSensors (s.count + calls.countP Call.isLongRegistration) ≤ t.count := by
  induction calls generalizing s with
  | nil =>
    obtain rfl := Option.some.inj hrun
    exact min_le_right _ _
  | cons call calls ih =>
    obtain ⟨u, hstep, hlater⟩ := (manager D).run_cons_eq_some.mp hrun
    obtain rfl := Option.some.inj hstep
    have hrest := ih hlater
    have hgrow : s.count ≤ (call.apply s).1.count := by
      simpa only [length_directory] using (call.directory_apply s).length_le
    rw [List.countP_cons]
    split
    · rename_i hlong
      have htaken := count_apply_of_long hlong s
      omega
    · omega

/-- A full table keeps its ids. -/
theorem storedIds_of_full {s t : SensorTable D} (hfull : s.count = maxSensors)
    {calls : List (Call D)} (hrun : (manager D).run s calls = some t) :
    storedIds t = storedIds s := by
  have hgrow := directory_run hrun
  have hlength : (directory t).length ≤ (directory s).length := by
    rw [length_directory, length_directory, hfull]
    exact t.count_le
  rw [storedIds, storedIds, hgrow.eq_of_length_le hlength]

/-- Fifty registrations of ids that do not fit, whatever else is called between and after them, and
every id that is not in the table is refused from then on. -/
theorem refused_of_long {s t u : SensorTable D} {calls later : List (Call D)}
    (hrun : (manager D).run s calls = some t)
    (hlong : maxSensors ≤ calls.countP Call.isLongRegistration)
    (hlater : (manager D).run t later = some u) {sensorId : CString}
    (hunknown : findSensor t sensorId = none) (now : ℤ) (sensorType : CString) (value : D)
    (unit : CString) :
    (register now sensorType sensorId u).2 = -1 ∧
      (addMeasurement now sensorId value unit u).2 = -1 := by
  have hfull : t.count = maxSensors := by
    have hcount := count_of_long hrun
    have hle := t.count_le
    omega
  have hfull' : u.count = maxSensors := by
    have hsame := congrArg List.length (storedIds_of_full hfull hlater)
    rwa [length_storedIds, length_storedIds, hfull] at hsame
  have hnone : findSensor u sensorId = none := by
    rw [findSensor_eq_none_iff_notMem, storedIds_of_full hfull hlater]
    exact findSensor_eq_none_iff_notMem.mp hunknown
  simp [register, addMeasurement, hnone, hfull']

/-- The longest id that the pattern of the client allows, registered again and again. -/
theorem refused_of_long_reconnecting :
    let longest : CString := ⟨List.replicate 32 97, by decide⟩
    let calls : List (Call ℚ) := List.replicate 50 (.register 0 (.lit "energy") longest)
    ∃ t, (manager ℚ).run init calls = some t ∧
      (register 1 (.lit "energy") (.lit "s1") t).2 = -1 ∧
      (addMeasurement 1 (.lit "s1") 20 (.lit "W") t).2 = -1 := by
  intro longest calls
  have hsearch : ((manager ℚ).run init calls).map (findSensor · (.lit "s1")) = some none := by
    decide +kernel
  obtain ⟨t, hrun, hunknown⟩ := Option.map_eq_some_iff.mp hsearch
  exact ⟨t, hrun,
    refused_of_long hrun (by decide) ((manager ℚ).run_nil t) hunknown _ _ _ _⟩

end IotMonitoring.Server.SensorManager
