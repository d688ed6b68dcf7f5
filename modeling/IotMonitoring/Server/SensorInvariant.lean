import IotMonitoring.Server.SensorRuns

/-!
# The representation of the sensor table

The static array starts zeroed, and `sensor_manager_cleanup` resets the count and leaves the array
as it is, so later registrations write into slots that still hold the bytes of earlier ones. What
the functions of the module read of a slot is its visible part. It depends on the calls since the
last `sensor_manager_init` or `sensor_manager_cleanup` only, although the bytes of the slots do not.
-/

namespace IotMonitoring.Server.SensorManager

open Text Machine

variable {D : Type} [CDouble D]

/-- A call of any operation that writes the static data. -/
inductive StaticCall (D : Type) where
  | init
  | call (call : Call D)
  | cleanup

/-- The static data as a machine over all its operations. -/
def store (D : Type) [CDouble D] : Labelled (SensorTable D) (StaticCall D) where
  step table operation :=
    match operation with
    | .init => some SensorManager.init
    | .call call => some (call.apply table).1
    | .cleanup => some (SensorManager.cleanup table)

/-! ## The visible part -/

/-- What is read of a slot. -/
structure Visible (D : Type) where
  id : CString
  type : CString
  lastValue : D
  lastUnit : CString
  lastTimestamp : ℤ
  isActive : Bool

def Sensor.visible (sensor : Sensor D) : Visible D where
  id := sensor.id.str
  type := sensor.type.str
  lastValue := sensor.lastValue
  lastUnit := sensor.lastUnit.str
  lastTimestamp := sensor.lastTimestamp
  isActive := sensor.isActive

/-- What a call does to the visible part of the slots in use. -/
def Call.applyVisible : Call D → List (Visible D) → List (Visible D)
  | .register now sensorType sensorId, slots =>
    match slots.findIdx? (·.id = sensorId) with
    | some i => slots.modify i fun slot ↦ { slot with isActive := true }
    | none =>
      if slots.length < maxSensors then
        slots ++ [⟨sensorId.cut 31, sensorType.cut 15, CDouble.ofNat 0, ∅, now, true⟩]
      else slots
  | .addMeasurement now sensorId value unit, slots =>
    match slots.findIdx? (·.id = sensorId) with
    | some i =>
      slots.modify i fun slot ↦
        { slot with
          lastValue := value
          lastUnit := unit.cut 15
          lastTimestamp := now
          isActive := true }
    | none => slots

omit [CDouble D] in
/-- The search finds the slot whose visible id it is given. -/
theorem findIdx?_visible (table : SensorTable D) (sensorId : CString) :
    (table.keys Sensor.visible).findIdx? (·.id = sensorId) =
      (findSensor table sensorId).map Fin.val :=
  (Slots.map_find_eq Sensor.visible table fun slot ↦ slot.id = sensorId).symm

/-- A call acts on the visible part alone. -/
theorem visible_apply (call : Call D) (table : SensorTable D) :
    (call.apply table).1.keys Sensor.visible = call.applyVisible (table.keys Sensor.visible) := by
  have hlength := table.length_keys Sensor.visible
  cases call with
  | register now sensorType sensorId =>
    rw [Call.apply, Call.applyVisible, findIdx?_visible, hlength]
    obtain ⟨i, hfind, heq⟩ | ⟨hnone, hroom, heq⟩ | ⟨hnone, hfull, heq⟩ :=
      register_cases now sensorType sensorId table
    · rw [heq, hfind]
      exact Slots.keys_modify_of_comm Sensor.visible table i fun _ ↦ rfl
    · rw [heq, hnone]
      simp [hroom, Sensor.visible, Sensor.fill]
    · rw [heq, hnone]
      simp [hfull]
  | addMeasurement now sensorId value unit =>
    rw [Call.apply, Call.applyVisible, findIdx?_visible]
    obtain ⟨i, hfind, heq⟩ | ⟨hnone, heq⟩ := addMeasurement_cases now sensorId value unit table
    · rw [heq, hfind]
      refine Slots.keys_modify_of_comm Sensor.visible table i fun sensor ↦ ?_
      simp [Sensor.visible, Sensor.store]
    · rw [heq, hnone]
      rfl

/-- The visible part after a run of calls is a function of what was visible before. -/
theorem visible_run {s t : SensorTable D} {calls : List (Call D)}
    (hrun : (manager D).run s calls = some t) :
    t.keys Sensor.visible =
      calls.foldl (fun slots call ↦ call.applyVisible slots) (s.keys Sensor.visible) := by
  induction calls generalizing s with
  | nil =>
    simp only [Labelled.run_nil, Option.some.injEq] at hrun
    exact hrun ▸ rfl
  | cons call calls ih =>
    obtain ⟨u, hstep, hrest⟩ := (manager D).run_cons_eq_some.mp hrun
    obtain rfl : (call.apply s).1 = u := Option.some.inj hstep
    rw [ih hrest, visible_apply, List.foldl_cons]

/-! ## The invariant -/

/-- The stored id and type of a slot, byte for byte. -/
def Sensor.fields (sensor : Sensor D) : CharField 31 × CharField 15 := (sensor.id, sensor.type)

/-- Equal ids are ids that fill their field. -/
def DistinctIds (table : SensorTable D) : Prop :=
  (directory table).Pairwise fun a b ↦ a.1 = b.1 → a.1.length = 31

theorem fields_apply (call : Call D) {table : SensorTable D} {i : Fin maxSensors}
    (hlive : i < table.count) :
    i < (call.apply table).1.count ∧
      ((call.apply table).1.get i).fields = (table.get i).fields := by
  cases call with
  | register now sensorType sensorId =>
    rw [Call.apply]
    obtain ⟨j, -, heq⟩ | ⟨-, hroom, heq⟩ | ⟨-, -, heq⟩ :=
      register_cases now sensorType sensorId table
    · rw [heq]
      exact ⟨hlive, table.get_modify_of_eq j i fun _ ↦ rfl⟩
    · rw [heq]
      exact ⟨Nat.lt_succ_of_lt hlive, congrArg Sensor.fields (table.get_push hroom _ hlive)⟩
    · rw [heq]
      exact ⟨hlive, rfl⟩
  | addMeasurement now sensorId value unit =>
    rw [Call.apply]
    obtain ⟨j, -, heq⟩ | ⟨-, heq⟩ := addMeasurement_cases now sensorId value unit table
    · rw [heq]
      exact ⟨hlive, table.get_modify_of_eq j i fun _ ↦ rfl⟩
    · rw [heq]
      exact ⟨hlive, rfl⟩

/-- Along a run of calls the id and the type of a slot in use never change. -/
theorem fields_run {s t : SensorTable D} {calls : List (Call D)}
    (hrun : (manager D).run s calls = some t) {i : Fin maxSensors} (hlive : i < s.count) :
    (t.get i).fields = (s.get i).fields := by
  have hinv : i.val < t.count ∧ (t.get i).fields = (s.get i).fields := by
    refine Labelled.inv_of_reachable
      (fun t ↦ i.val < t.count ∧ (t.get i).fields = (s.get i).fields) ?_ ⟨hlive, rfl⟩ ⟨calls, hrun⟩
    intro u call v hu hstep
    obtain rfl : (call.apply u).1 = v := Option.some.inj hstep
    obtain ⟨hcount, hfields⟩ := fields_apply call hu.1
    exact ⟨hcount, hfields.trans hu.2⟩
  exact hinv.2

/-- A search that compares whole ids misses a stored one only if the stored one has been cut. -/
theorem distinct_apply (call : Call D) {table : SensorTable D} (h : DistinctIds table) :
    DistinctIds (call.apply table).1 := by
  rw [DistinctIds] at h ⊢
  cases call with
  | register now sensorType sensorId =>
    rw [Call.apply]
    obtain ⟨i, -, heq⟩ | ⟨hnone, hroom, heq⟩ | ⟨-, -, heq⟩ :=
      register_cases now sensorType sensorId table
    · have hsame : directory (table.modify i Sensor.activate) = directory table :=
        table.keys_modify Sensor.entry i fun _ ↦ rfl
      rwa [heq, hsame]
    · rw [heq, directory, Slots.keys_push, Sensor.entry_fill, List.pairwise_append]
      refine ⟨h, List.pairwise_singleton _ _, fun entry hentry new hnew hsame ↦ ?_⟩
      obtain rfl := List.mem_singleton.mp hnew
      have hmiss := findSensor_eq_none_iff.mp hnone entry hentry
      rw [hsame, CString.length_cut]
      by_contra hshort
      exact hmiss (hsame.trans (CString.cut_eq_self (by omega)))
    · rwa [heq]
  | addMeasurement now sensorId value unit =>
    rwa [Call.apply, directory_addMeasurement]

/-- What holds of the table at any time. -/
structure Represented (table : SensorTable D) : Prop where
  count_le : table.count ≤ 50
  terminated : ∀ i, (table.get i).id.bytes[31]? = some 0 ∧
    (table.get i).type.bytes[15]? = some 0 ∧ (table.get i).lastUnit.bytes[15]? = some 0
  active : ∀ i : Fin maxSensors, i < table.count → (table.get i).isActive = true
  stable : ∀ calls later, (manager D).run table calls = some later →
    ∀ i : Fin maxSensors, i < table.count →
      (later.get i).id = (table.get i).id ∧ (later.get i).type = (table.get i).type
  distinct : ∀ i j : Fin maxSensors, i < table.count → j < table.count → i ≠ j →
    (table.get i).id.str = (table.get j).id.str → (table.get i).id.str.length = 31
  forgotten : ∀ calls later fresh, (manager D).run (cleanup table) calls = some later →
    (manager D).run init calls = some fresh →
      later.count = fresh.count ∧ ∀ i : Fin maxSensors, i < later.count →
        (later.get i).visible = (fresh.get i).visible

omit [CDouble D] in
/-- Tables with no slot in use. -/
theorem active_and_distinct_of_count {table : SensorTable D} (h : table.live = []) :
    (∀ sensor ∈ table.live, sensor.isActive = true) ∧ DistinctIds table := by
  simp [DistinctIds, directory, Slots.keys, h]

theorem active_and_distinct_of_reachable {table : SensorTable D}
    (h : (store D).Reachable init table) :
    (∀ sensor ∈ table.live, sensor.isActive = true) ∧ DistinctIds table := by
  refine Labelled.inv_of_reachable
    (fun t ↦ (∀ sensor ∈ t.live, sensor.isActive = true) ∧ DistinctIds t) ?_
    (active_and_distinct_of_count (by simp [init])) h
  intro s operation t hs hstep
  cases operation with
  | init =>
    obtain rfl := Option.some.inj hstep
    exact active_and_distinct_of_count (by simp [init])
  | call call =>
    obtain rfl := Option.some.inj hstep
    exact ⟨call.active_apply hs.1, distinct_apply call hs.2⟩
  | cleanup =>
    obtain rfl := Option.some.inj hstep
    exact active_and_distinct_of_count rfl

/-- What is visible after a cleanup and further calls is what these calls make visible in a zeroed
table. -/
theorem visible_cleanup {table later fresh : SensorTable D} {calls : List (Call D)}
    (hlater : (manager D).run (cleanup table) calls = some later)
    (hfresh : (manager D).run init calls = some fresh) :
    later.keys Sensor.visible = fresh.keys Sensor.visible := by
  have hempty : (cleanup table).keys Sensor.visible = [] := rfl
  have hinit : (init : SensorTable D).keys Sensor.visible = [] := by simp [init, Slots.keys]
  rw [visible_run hlater, visible_run hfresh, hempty, hinit]

/-- The table is as it should be after any sequence of operations. -/
theorem represented_of_reachable {table : SensorTable D}
    (h : (store D).Reachable init table) : Represented table := by
  obtain ⟨hactive, hdistinct⟩ := active_and_distinct_of_reachable h
  refine ⟨table.count_le, fun i ↦ ?_, fun i hi ↦ ?_, fun calls later hrun i hi ↦ ?_,
    fun i j hi hj hij hsame ↦ ?_, fun calls later fresh hlater hfresh ↦ ?_⟩
  · exact ⟨(table.get i).id.getElem?_last, (table.get i).type.getElem?_last,
      (table.get i).lastUnit.getElem?_last⟩
  · exact hactive _ (List.mem_of_getElem? (table.live_getElem? hi))
  · exact Prod.ext_iff.mp (fields_run hrun hi)
  · obtain hlt | hgt := Fin.lt_or_lt_of_ne hij
    · exact Slots.rel_of_pairwise Sensor.entry hdistinct hlt hj hsame
    · rw [hsame]
      exact Slots.rel_of_pairwise Sensor.entry hdistinct hgt hi hsame.symm
  · have hvisible := visible_cleanup hlater hfresh
    have hcount : later.count = fresh.count := by
      rw [← Slots.length_keys Sensor.visible, hvisible, Slots.length_keys]
    refine ⟨hcount, fun i hi ↦ ?_⟩
    have hslot := congrArg (·[i.val]?) hvisible
    rw [Slots.keys_getElem? Sensor.visible later hi,
      Slots.keys_getElem? Sensor.visible fresh (hcount ▸ hi)] at hslot
    exact Option.some.inj hslot

/-- A table that is filled, given up and filled again. -/
theorem represented_of_reachable_reused :
    ∃ table : SensorTable ℚ, (store ℚ).run init
        [.call (.register 1 (.lit "temperature") (.lit "sensor-1")),
          .call (.addMeasurement 2 (.lit "sensor-1") 21 (.lit "C")), .cleanup,
          .call (.register 3 (.lit "energy") (.lit "s2"))] = some table ∧
      table.count = 1 ∧ Represented table := by
  obtain ⟨table, hrun, hcount⟩ : ∃ table : SensorTable ℚ, (store ℚ).run init
      [.call (.register 1 (.lit "temperature") (.lit "sensor-1")),
        .call (.addMeasurement 2 (.lit "sensor-1") 21 (.lit "C")), .cleanup,
        .call (.register 3 (.lit "energy") (.lit "s2"))] = some table ∧ table.count = 1 :=
    Option.map_eq_some_iff.mp (by decide +kernel)
  exact ⟨table, hrun, hcount, represented_of_reachable ⟨_, hrun⟩⟩

end IotMonitoring.Server.SensorManager
