import Mathlib.Data.List.Basic

/-!
# Lists of entries that several parties contribute to

An entry carries the party it comes from. Two such lists that agree for every party hold the same
entries the same number of times, whatever the order in which the parties took their turns.
-/

namespace IotMonitoring.Machine.Tagged

variable {ι α : Type*} [DecidableEq ι]

/-- What one party has contributed, in order. -/
def own (i : ι) (entries : List (ι × α)) : List α :=
  (entries.filter fun entry ↦ entry.1 = i).map Prod.snd

@[simp]
theorem own_append (i : ι) (entries more : List (ι × α)) :
    own i (entries ++ more) = own i entries ++ own i more := by
  simp [own]

@[simp]
theorem own_tag_self (i : ι) (values : List α) : own i (values.map (i, ·)) = values := by
  simp [own, List.filter_map, Function.comp_def]

theorem own_tag_ne {i j : ι} (hij : i ≠ j) (values : List α) : own i (values.map (j, ·)) = [] := by
  simp [own, List.filter_map, Function.comp_def, hij.symm]

theorem own_singleton_self (i : ι) (value : α) : own i [(i, value)] = [value] :=
  own_tag_self i [value]

theorem own_singleton_ne {i j : ι} (hij : i ≠ j) (value : α) : own i [(j, value)] = [] :=
  own_tag_ne hij [value]

theorem count_own [DecidableEq α] (i : ι) (value : α) (entries : List (ι × α)) :
    (own i entries).count value = entries.count (i, value) := by
  induction entries with
  | nil => rfl
  | cons entry entries ih =>
    obtain ⟨j, other⟩ := entry
    rw [List.count_cons, ← ih]
    by_cases hj : j = i <;> simp [own, hj, List.count_cons]

/-- Lists that agree for every party are permutations of each other. -/
theorem perm_of_own {entries entries' : List (ι × α)}
    (h : ∀ i, own i entries = own i entries') : entries.Perm entries' := by
  classical
  rw [List.perm_iff_count]
  rintro ⟨i, value⟩
  rw [← count_own, ← count_own, h i]

end IotMonitoring.Machine.Tagged
