import Mathlib.Data.List.Basic

/-!
# Lists of parties and a view of them

A machine keeps its parties in a list and steps one of them at a time. A view shows some of the
parties, each as a value of its own. When the step of one party is seen as an operation that leaves
the other values alone, the view after the step is the result of the operation.
-/

namespace IotMonitoring.Machine.Parties

variable {α β : Type*} {parties : List α} {i : ℕ} {party party' : α} {view : α → Option β}

/-- The step of one party as an operation on the view. -/
theorem filterMap_set (operation : β → Option β) (hparty : parties[i]? = some party)
    (hstep : view party' = (view party).bind operation)
    (hothers : ∀ j other, j ≠ i → parties[j]? = some other →
      (view other).bind operation = view other) :
    (parties.set i party').filterMap view = (parties.filterMap view).filterMap operation := by
  have hmap : (parties.set i party').map view =
      parties.map fun other ↦ (view other).bind operation := by
    apply List.ext_getElem?
    intro j
    obtain ⟨hlt, -⟩ := List.getElem?_eq_some_iff.mp hparty
    rw [List.getElem?_map, List.getElem?_map]
    obtain rfl | hij := eq_or_ne i j
    · rw [List.getElem?_set_self hlt, hparty, Option.map_some, Option.map_some, hstep]
    · rw [List.getElem?_set_ne hij]
      cases hother : parties[j]? with
      | none => rfl
      | some other => rw [Option.map_some, Option.map_some, hothers j other hij.symm hother]
  calc
    (parties.set i party').filterMap view = ((parties.set i party').map view).filterMap id := by
      rw [List.filterMap_map, Function.id_comp]
    _ = (parties.map fun other ↦ (view other).bind operation).filterMap id := by rw [hmap]
    _ = (parties.filterMap view).filterMap operation := by
      rw [List.filterMap_map, Function.id_comp, List.filterMap_filterMap]

/-- A step that the view does not show. -/
theorem filterMap_set_same (hparty : parties[i]? = some party) (hstep : view party' = view party) :
    (parties.set i party').filterMap view = parties.filterMap view := by
  have hset := filterMap_set some hparty (hstep.trans (Option.bind_fun_some _).symm)
    fun j other _ _ ↦ Option.bind_fun_some _
  rwa [List.filterMap_some] at hset

/-- A change of every party that the view does not show. -/
theorem filterMap_map_same {change : α → α} (hchange : ∀ party, view (change party) = view party) :
    (parties.map change).filterMap view = parties.filterMap view := by
  rw [List.filterMap_map]
  exact congrArg (List.filterMap · parties) (funext hchange)

/-- The party at a place after the step of one. -/
theorem getElem?_set_cases {j : ℕ} {other : α} (h : (parties.set i party')[j]? = some other) :
    (j = i ∧ other = party') ∨ (j ≠ i ∧ parties[j]? = some other) := by
  rw [List.getElem?_set] at h
  split_ifs at h with hij hlt
  · exact .inl ⟨hij.symm, (Option.some.inj h).symm⟩
  · exact .inr ⟨fun heq ↦ hij heq.symm, h⟩

end IotMonitoring.Machine.Parties
