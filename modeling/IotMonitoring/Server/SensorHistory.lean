import IotMonitoring.Server.SensorRuns
import Mathlib.Data.List.Induction
import Mathlib.Order.Fin.Basic

/-!
# The sensor table as a summary of its history

The slots are in the order of the registrations that created them, and each keeps what its creating
registration has given it. The ids are cut when they are stored, so two slots may hold the same id;
only the lowest of them is ever found, and it shows the latest measurement under the stored id. The
others keep what registration has left in them.
-/

namespace IotMonitoring.Server.SensorManager

open Text Machine

variable {D : Type} [CDouble D]

/-- Value and unit of a slot. -/
def Sensor.reading (sensor : Sensor D) : D × CString := (sensor.lastValue, sensor.lastUnit.str)

/-- The reading that registration leaves. -/
def noReading : D × CString := (CDouble.ofNat 0, ∅)

/-- The reading that a measurement under an id stores. -/
def Call.measured (sensorId : CString) : Call D → Option (D × CString)
  | .register .. => none
  | .addMeasurement _ sensorId' value unit =>
    if sensorId' = sensorId then some (value, unit.cut 15) else none

/-- The reading of the latest measurement under an id. -/
def latest (sensorId : CString) (calls : List (Call D)) : D × CString :=
  (calls.filterMap (Call.measured sensorId)).getLast?.getD noReading

/-- The call at a position is the registration that took the slot into use, with these arguments. -/
def CreatedAt (calls : List (Call D)) (i position : ℕ) (sensorType sensorId : CString) : Prop :=
  ∃ now table, calls[position]? = some (.register now sensorType sensorId) ∧
    (manager D).run init (calls.take position) = some table ∧ table.count = i ∧
    (register now sensorType sensorId table).1.count = i + 1

/-- What a slot tells of the calls, given the position of its creating call. -/
structure Summarizes (calls : List (Call D)) (table : SensorTable D) (i : Fin maxSensors)
    (position : ℕ) : Prop where
  created : ∃ sensorType sensorId, CreatedAt calls i position sensorType sensorId ∧
    (table.get i).id.str = sensorId.cut 31 ∧ (table.get i).type.str = sensorType.cut 15
  lowest : (∀ j < i, (table.get j).id.str ≠ (table.get i).id.str) →
    (table.get i).reading = latest (table.get i).id.str (calls.drop (position + 1))
  shadowed : (∃ j < i, (table.get j).id.str = (table.get i).id.str) →
    (table.get i).reading = noReading

/-- Every slot in use summarizes the calls, and the slots are in the order of their creation. -/
def Summary (calls : List (Call D)) (table : SensorTable D) : Prop :=
  ∃ creator : ℕ → ℕ, (∀ i j, i < j → j < table.count → creator i < creator j) ∧
    ∀ i : Fin maxSensors, i < table.count → Summarizes calls table i (creator i)

/-! ## One call more -/

theorem latest_append (sensorId : CString) (calls : List (Call D)) (call : Call D) :
    latest sensorId (calls ++ [call]) =
      (call.measured sensorId).getD (latest sensorId calls) := by
  rw [latest, List.filterMap_append]
  cases hcall : call.measured sensorId with
  | none => simp [hcall, latest]
  | some reading => simp [hcall]

theorem CreatedAt.position_lt {calls : List (Call D)} {i position : ℕ}
    {sensorType sensorId : CString} (h : CreatedAt calls i position sensorType sensorId) :
    position < calls.length := by
  obtain ⟨now, table, hcall, -⟩ := h
  exact (List.getElem?_eq_some_iff.mp hcall).1

theorem CreatedAt.append {calls : List (Call D)} {i position : ℕ}
    {sensorType sensorId : CString} (h : CreatedAt calls i position sensorType sensorId)
    (later : List (Call D)) : CreatedAt (calls ++ later) i position sensorType sensorId := by
  have hlt := h.position_lt
  obtain ⟨now, table, hcall, hrun, hcount⟩ := h
  refine ⟨now, table, ?_, ?_, hcount⟩
  · rwa [List.getElem?_append_left hlt]
  · rwa [List.take_append_of_le_length hlt.le]

/-- A slot that keeps its id, its type and its lower neighbours' ids summarizes one call more when
its reading changes as the call says. -/
theorem Summarizes.append {calls : List (Call D)} {s t : SensorTable D} {i : Fin maxSensors}
    {position : ℕ} (h : Summarizes calls s i position) (call : Call D)
    (hentry : ∀ j ≤ i, (t.get j).entry = (s.get j).entry)
    (hlowest : (∀ j < i, (s.get j).id.str ≠ (s.get i).id.str) →
      (t.get i).reading = (call.measured (s.get i).id.str).getD (s.get i).reading)
    (hshadowed : (∃ j < i, (s.get j).id.str = (s.get i).id.str) →
      (t.get i).reading = (s.get i).reading) :
    Summarizes (calls ++ [call]) t i position := by
  have hid (j : Fin maxSensors) (hj : j ≤ i) : (t.get j).id.str = (s.get j).id.str :=
    congrArg Prod.fst (hentry j hj)
  have hself := hid i (Fin.le_refl i)
  obtain ⟨sensorType, sensorId, hcreated, hcut⟩ := h.created
  refine ⟨⟨sensorType, sensorId, hcreated.append [call], ?_⟩, fun hlow ↦ ?_, fun hlow ↦ ?_⟩
  · have htype : (t.get i).type.str = (s.get i).type.str :=
      congrArg Prod.snd (hentry i (Fin.le_refl i))
    rwa [hself, htype]
  · have hlow' : ∀ j < i, (s.get j).id.str ≠ (s.get i).id.str := by
      intro j hj
      rw [← hid j (Fin.le_of_lt hj), ← hself]
      exact hlow j hj
    have hdrop : (calls ++ [call]).drop (position + 1) = calls.drop (position + 1) ++ [call] :=
      List.drop_append_of_le_length hcreated.position_lt
    rw [hlowest hlow', h.lowest hlow', hself, hdrop, latest_append]
  · obtain ⟨j, hj, hsame⟩ := hlow
    rw [hid j (Fin.le_of_lt hj), hself] at hsame
    rw [hshadowed ⟨j, hj, hsame⟩, h.shadowed ⟨j, hj, hsame⟩]

/-- A summary of the calls is one of one call more when the call creates no slot, and the readings
change as it says. -/
theorem Summary.append {calls : List (Call D)} {s t : SensorTable D} (h : Summary calls s)
    (call : Call D) (hcount : t.count = s.count)
    (hentry : ∀ i : Fin maxSensors, i < s.count → (t.get i).entry = (s.get i).entry)
    (hlowest : ∀ i : Fin maxSensors, i < s.count →
      (∀ j < i, (s.get j).id.str ≠ (s.get i).id.str) →
        (t.get i).reading = (call.measured (s.get i).id.str).getD (s.get i).reading)
    (hshadowed : ∀ i : Fin maxSensors, i < s.count →
      (∃ j < i, (s.get j).id.str = (s.get i).id.str) → (t.get i).reading = (s.get i).reading) :
    Summary (calls ++ [call]) t := by
  obtain ⟨creator, horder, hsummary⟩ := h
  refine ⟨creator, fun i j hij hj ↦ horder i j hij (hcount ▸ hj), fun i hi ↦ ?_⟩
  rw [hcount] at hi
  exact (hsummary i hi).append call (fun j hj ↦ hentry j (lt_of_le_of_lt hj hi)) (hlowest i hi)
    (hshadowed i hi)

/-- A call that writes neither entries nor readings and measures nothing that is stored. -/
theorem Summary.append_idle {calls : List (Call D)} {s t : SensorTable D} (h : Summary calls s)
    (call : Call D) (hcount : t.count = s.count)
    (hentry : ∀ i : Fin maxSensors, i < s.count → (t.get i).entry = (s.get i).entry)
    (hreading : ∀ i : Fin maxSensors, i < s.count → (t.get i).reading = (s.get i).reading)
    (hmeasured : ∀ i : Fin maxSensors, i < s.count →
      call.measured (s.get i).id.str = none) : Summary (calls ++ [call]) t := by
  refine h.append call hcount hentry (fun i hi _ ↦ ?_) (fun i hi _ ↦ hreading i hi)
  rw [hreading i hi, hmeasured i hi, Option.getD_none]

omit [CDouble D] in
theorem activate_get (table : SensorTable D) (i j : Fin maxSensors) :
    ((table.modify i Sensor.activate).get j).entry = (table.get j).entry ∧
      ((table.modify i Sensor.activate).get j).reading = (table.get j).reading := by
  obtain rfl | hij := eq_or_ne j i
  · rw [table.get_modify_self]
    exact ⟨rfl, rfl⟩
  · rw [table.get_modify_ne hij]
    exact ⟨rfl, rfl⟩

/-- A registration that takes a slot into use. -/
theorem Summary.append_created {calls : List (Call D)} {s : SensorTable D} (h : Summary calls s)
    (hrun : (manager D).run init calls = some s) (now : ℤ) (sensorType sensorId : CString)
    (hroom : s.count < maxSensors)
    (heq : register now sensorType sensorId s =
      (s.push hroom ((s.next hroom).fill now sensorType sensorId), 0)) :
    Summary (calls ++ [.register now sensorType sensorId])
      (s.push hroom ((s.next hroom).fill now sensorType sensorId)) := by
  obtain ⟨creator, horder, hsummary⟩ := h
  have hbefore (i : ℕ) (hi : i < s.count) : creator i < calls.length := by
    obtain ⟨_, _, hcreated, -⟩ := (hsummary ⟨i, hi.trans hroom⟩ hi).created
    exact hcreated.position_lt
  refine ⟨fun i ↦ if i < s.count then creator i else calls.length, ?_, ?_⟩
  · intro i j hij hj
    have hj' : j < s.count + 1 := hj
    have hi : i < s.count := by omega
    dsimp only
    rw [if_pos hi]
    split
    · exact horder i j hij (by assumption)
    · exact hbefore i hi
  · intro i hi
    obtain hold | hnew : i.val < s.count ∨ i.val = s.count := Nat.lt_succ_iff_lt_or_eq.mp hi
    · have hget (j : Fin maxSensors) (hj : j ≤ i) :
          (s.push hroom ((s.next hroom).fill now sensorType sensorId)).get j = s.get j :=
        s.get_push hroom _ (lt_of_le_of_lt hj hold)
      dsimp only
      rw [if_pos hold]
      refine (hsummary i hold).append _ (fun j hj ↦ by rw [hget j hj]) ?_ ?_
      · intro _
        rw [hget i (Fin.le_refl i)]
        rfl
      · intro _
        rw [hget i (Fin.le_refl i)]
    · obtain rfl : i = ⟨s.count, hroom⟩ := Fin.ext hnew
      have hget := s.get_push_self hroom ((s.next hroom).fill now sensorType sensorId)
      have hreading : ((s.next hroom).fill now sensorType sensorId).reading = noReading := by
        simp [Sensor.reading, Sensor.fill, noReading]
      dsimp only
      rw [if_neg (Nat.lt_irrefl s.count)]
      refine ⟨⟨sensorType, sensorId, ⟨now, s, ?_, ?_, rfl, ?_⟩, ?_⟩, fun _ ↦ ?_, fun _ ↦ ?_⟩
      · rw [List.getElem?_concat_length]
      · rw [List.take_left]
        exact hrun
      · rw [heq]
        rfl
      · rw [hget]
        simp [Sensor.fill]
      · rw [hget, hreading, List.drop_of_length_le (by simp)]
        rfl
      · rw [hget, hreading]

theorem Summary.register {calls : List (Call D)} {s : SensorTable D} (h : Summary calls s)
    (hrun : (manager D).run init calls = some s) (now : ℤ) (sensorType sensorId : CString) :
    Summary (calls ++ [.register now sensorType sensorId])
      (SensorManager.register now sensorType sensorId s).1 := by
  obtain ⟨i, -, heq⟩ | ⟨-, hroom, heq⟩ | ⟨-, -, heq⟩ :=
    register_cases now sensorType sensorId s
  · rw [heq]
    exact h.append_idle _ rfl (fun j _ ↦ (activate_get s i j).1) (fun j _ ↦ (activate_get s i j).2)
      fun _ _ ↦ rfl
  · rw [heq]
    exact h.append_created hrun now sensorType sensorId hroom heq
  · rw [heq]
    exact h.append_idle _ rfl (fun _ _ ↦ rfl) (fun _ _ ↦ rfl) fun _ _ ↦ rfl

theorem Summary.addMeasurement {calls : List (Call D)} {s : SensorTable D} (h : Summary calls s)
    (now : ℤ) (sensorId : CString) (value : D) (unit : CString) :
    Summary (calls ++ [.addMeasurement now sensorId value unit])
      (SensorManager.addMeasurement now sensorId value unit s).1 := by
  obtain ⟨i, hfind, heq⟩ | ⟨hnone, heq⟩ := addMeasurement_cases now sensorId value unit s
  · obtain ⟨hlive, hid, hfirst⟩ := Slots.find_eq_some_iff_first.mp hfind
    simp only [decide_eq_true_eq] at hid
    simp only [decide_eq_false_iff_not] at hfirst
    have hother (j : Fin maxSensors) (hj : j ≠ i) :
        (s.modify i fun sensor ↦ sensor.store now value unit).get j = s.get j :=
      s.get_modify_ne hj _
    rw [heq]
    refine h.append _ rfl (fun j _ ↦ ?_) (fun j _ hlow ↦ ?_) (fun j _ hlow ↦ ?_)
    · obtain rfl | hj := eq_or_ne j i
      · rw [s.get_modify_self]
        rfl
      · rw [hother j hj]
    · obtain rfl | hj := eq_or_ne j i
      · rw [s.get_modify_self]
        simp [Call.measured, hid, Sensor.reading, Sensor.store]
      · -- A lowest slot with the measured id would have been found instead.
        have hne : sensorId ≠ (s.get j).id.str := by
          intro hsame
          obtain hlt | hgt := lt_or_gt_of_ne hj
          · exact hfirst j hlt hsame.symm
          · exact hlow i hgt (hid.trans hsame)
        rw [hother j hj, Call.measured, if_neg hne, Option.getD_none]
    · have hj : j ≠ i := by
        rintro rfl
        obtain ⟨k, hk, hsame⟩ := hlow
        exact hfirst k hk (hsame.trans hid)
      rw [hother j hj]
  · rw [heq]
    refine h.append_idle _ rfl (fun _ _ ↦ rfl) (fun _ _ ↦ rfl) fun i hi ↦ ?_
    have hne : sensorId ≠ (s.get i).id.str := by
      rintro rfl
      have hmiss := Slots.find_eq_none_iff.mp hnone _
        (List.mem_of_getElem? (s.live_getElem? hi))
      simp at hmiss
    rw [Call.measured, if_neg hne]

/-! ## All calls -/

theorem summary_of_run {calls : List (Call D)} {t : SensorTable D}
    (hrun : (manager D).run init calls = some t) : Summary calls t := by
  induction calls using List.reverseRecOn generalizing t with
  | nil =>
    obtain rfl := Option.some.inj hrun
    exact ⟨id, fun _ _ _ hj ↦ absurd hj (Nat.not_lt_zero _), fun _ hi ↦
      absurd hi (Nat.not_lt_zero _)⟩
  | append_singleton calls call ih =>
    rw [Labelled.run_append, Option.bind_eq_some_iff] at hrun
    obtain ⟨s, hs, hlast⟩ := hrun
    have hsummary := ih hs
    obtain ⟨_, hstep, hend⟩ := (manager D).run_cons_eq_some.mp hlast
    obtain rfl := Option.some.inj hstep
    obtain rfl := Option.some.inj hend
    cases call with
    | register now sensorType sensorId => exact hsummary.register hs now sensorType sensorId
    | addMeasurement now sensorId value unit =>
      exact hsummary.addMeasurement now sensorId value unit

/-- After any calls the table summarizes them, and registering a stored id once more changes
neither the number of slots nor any entry or reading. -/
theorem sensors_summarize_calls {calls : List (Call D)} {t : SensorTable D}
    (hrun : (manager D).run init calls = some t) :
    Summary calls t ∧
      ∀ now sensorType sensorId,
        (∃ i : Fin maxSensors, i < t.count ∧ (t.get i).id.str = sensorId) →
        (register now sensorType sensorId t).1.count = t.count ∧
          ∀ i : Fin maxSensors, i < t.count →
            ((register now sensorType sensorId t).1.get i).entry = (t.get i).entry ∧
              ((register now sensorType sensorId t).1.get i).reading = (t.get i).reading := by
  refine ⟨summary_of_run hrun, ?_⟩
  rintro now sensorType _ ⟨i, hlive, rfl⟩
  have hstored : (t.get i).entry ∈ directory t :=
    List.mem_map_of_mem (List.mem_of_getElem? (t.live_getElem? hlive))
  obtain ⟨j, -, heq⟩ | ⟨hnone, -⟩ | ⟨hnone, -⟩ := register_cases now sensorType (t.get i).id.str t
  · rw [heq]
    exact ⟨rfl, fun k _ ↦ activate_get t j k⟩
  · exact absurd rfl (findSensor_eq_none_iff.mp hnone _ hstored)
  · exact absurd rfl (findSensor_eq_none_iff.mp hnone _ hstored)

/-- Two ids that are stored alike, and a measurement under the stored id. -/
def sharedField : List (Call ℚ) :=
  [.register 1 (.lit "temperature") (.lit "a-sensor-id-of-more-than-31-bytes-1"),
    .register 2 (.lit "vibration") (.lit "a-sensor-id-of-more-than-31-bytes-2"),
    .addMeasurement 3 (.lit "a-sensor-id-of-more-than-31-byt") 20 (.lit "C")]

theorem sensors_summarize_calls_shared_field :
    ∃ t, (manager ℚ).run init sharedField = some t ∧
      t.live.map Sensor.reading = [(20, .lit "C"), noReading] ∧ Summary sharedField t ∧
      ∀ now sensorType sensorId,
        (∃ i : Fin maxSensors, i < t.count ∧ (t.get i).id.str = sensorId) →
        (register now sensorType sensorId t).1.count = t.count ∧
          ∀ i : Fin maxSensors, i < t.count →
            ((register now sensorType sensorId t).1.get i).entry = (t.get i).entry ∧
              ((register now sensorType sensorId t).1.get i).reading = (t.get i).reading := by
  obtain ⟨t, hrun, hreadings⟩ : ∃ t, (manager ℚ).run init sharedField = some t ∧
      t.live.map Sensor.reading = [(20, .lit "C"), noReading] :=
    Option.map_eq_some_iff.mp (by decide +kernel)
  exact ⟨t, hrun, hreadings, sensors_summarize_calls hrun⟩

end IotMonitoring.Server.SensorManager
