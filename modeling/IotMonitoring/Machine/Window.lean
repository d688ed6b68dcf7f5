import Mathlib.Data.List.DropRight

/-!
# The last entries of a log

A bounded store that gives up its oldest entry shows the last `n` entries of everything that was
ever appended. Appending to the log appends to the window and cuts it; an update of the entries in
the window does not depend on what lies before them.
-/

namespace IotMonitoring.Machine

variable {α β : Type*}

theorem length_rtake (log : List α) (n : ℕ) : (log.rtake n).length = min n log.length := by
  rw [List.rtake, List.length_drop]
  omega

theorem rtake_of_length_le {log : List α} {n : ℕ} (h : log.length ≤ n) : log.rtake n = log := by
  rw [List.rtake, Nat.sub_eq_zero_of_le h, List.drop_zero]

theorem map_rtake (f : α → β) (log : List α) (n : ℕ) :
    (log.rtake n).map f = (log.map f).rtake n := by
  simp only [List.rtake, List.map_drop, List.length_map]

/-- What the window no longer shows does not come back. -/
theorem rtake_rtake_append (log added : List α) (n : ℕ) :
    (log.rtake n ++ added).rtake n = (log ++ added).rtake n := by
  obtain ⟨old, hold⟩ : ∃ old, old ++ log.rtake n = log :=
    ⟨log.take (log.length - n), List.take_append_drop _ _⟩
  by_cases hshort : log.length ≤ n
  · rw [rtake_of_length_le hshort]
  · have hfull : (log.rtake n).length = n := by
      rw [length_rtake]
      omega
    calc
      (log.rtake n ++ added).rtake n
        = (log.rtake n ++ added).drop added.length := by
          rw [List.rtake, List.length_append, hfull, Nat.add_sub_cancel_left]
      _ = (old ++ (log.rtake n ++ added)).drop (old.length + added.length) := by
          rw [← List.drop_drop, List.drop_left]
      _ = (log ++ added).drop ((log ++ added).length - n) := by
          have hlength := congrArg List.length hold
          rw [List.length_append, hfull] at hlength
          rw [← List.append_assoc, hold, List.length_append]
          congr 1
          omega

/-- Update the entries the window shows. -/
def updateWindow (n : ℕ) (f : α → α) (log : List α) : List α :=
  log.take (log.length - n) ++ (log.rtake n).map f

/-- The window shows the updated entries. -/
theorem rtake_updateWindow (n : ℕ) (f : α → α) (log : List α) :
    (updateWindow n f log).rtake n = (log.rtake n).map f := by
  have hlength : (updateWindow n f log).length = log.length := by
    rw [updateWindow, List.length_append, List.length_map, length_rtake, List.length_take]
    omega
  have hold : (log.take (log.length - n)).length = log.length - n := by
    rw [List.length_take]
    omega
  rw [List.rtake, hlength, updateWindow, List.drop_left' hold]

end IotMonitoring.Machine
