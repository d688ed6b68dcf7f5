import Mathlib.Data.List.Basic
import Mathlib.Tactic.Common

/-!
# Pieces of a separated text

Who reads a file line by line and skips empty lines sees the non-empty stretches between
separators. A record that is one such stretch, ended by at least one separator, is read as one
piece wherever it stands, so a text made of such records is read as the list of them.
-/

namespace IotMonitoring.Text

variable {α : Type} [DecidableEq α]

/-- The non-empty stretches between separators. -/
def pieces (sep : α) (text : List α) : List (List α) := (text.splitOn sep).filter (· ≠ [])

/-- One non-empty stretch and the separators that end it. -/
def Ended (sep : α) (record : List α) : Prop :=
  ∃ body k, body ≠ [] ∧ sep ∉ body ∧ record = body ++ List.replicate (k + 1) sep

@[simp]
theorem pieces_nil (sep : α) : pieces sep [] = [] := by simp [pieces]

/-- A separator keeps what stands on its two sides apart. -/
theorem pieces_append_cons (sep : α) (front rest : List α) :
    pieces sep (front ++ sep :: rest) = pieces sep front ++ pieces sep rest := by
  rw [pieces, List.splitOn_append_cons_self, List.filter_append, pieces, pieces]

theorem pieces_replicate_append (sep : α) (k : ℕ) (rest : List α) :
    pieces sep (List.replicate k sep ++ rest) = pieces sep rest := by
  induction k with
  | zero => simp
  | succ k ih =>
    have hempty := pieces_append_cons sep [] (List.replicate k sep ++ rest)
    rw [List.replicate_succ, List.cons_append]
    simpa [ih] using hempty

/-- An ended record is the first piece of any text it starts. -/
theorem pieces_append_of_ended {sep : α} {record : List α} (h : Ended sep record)
    (rest : List α) :
    pieces sep (record ++ rest) = record.filter (· ≠ sep) :: pieces sep rest := by
  obtain ⟨body, k, hne, hbody, rfl⟩ := h
  have hfilter : (body ++ List.replicate (k + 1) sep).filter (· ≠ sep) = body := by
    have hself : body.filter (· ≠ sep) = body :=
      List.filter_eq_self.mpr fun a ha ↦ by simpa using fun h : a = sep ↦ hbody (h ▸ ha)
    rw [List.filter_append, hself]
    simp
  have hsingle : pieces sep body = [body] := by
    rw [pieces, List.splitOn_eq_singleton hbody]
    simp [hne]
  rw [hfilter, List.replicate_succ, List.append_assoc, List.cons_append, pieces_append_cons,
    pieces_replicate_append, hsingle, List.singleton_append]

/-- A text of ended records is read as the records. -/
theorem pieces_flatten {sep : α} {records : List (List α)}
    (h : ∀ record ∈ records, Ended sep record) :
    pieces sep records.flatten = records.map fun record ↦ record.filter (· ≠ sep) := by
  induction records with
  | nil => simp
  | cons record records ih =>
    rw [List.forall_mem_cons] at h
    rw [List.flatten_cons, pieces_append_of_ended h.1, ih h.2, List.map_cons]

end IotMonitoring.Text
