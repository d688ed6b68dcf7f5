import Mathlib.Data.List.DropRight
import Mathlib.Data.List.Induction

/-!
# Separators and edges

Texts of several fields are split at a separator, and the fields are trimmed at both ends. Splitting
gives back the fields of a joined text when none of them has the separator inside, and trimming
leaves a field alone when it has clean edges. The split of Java leaves out the empty fields at the
end, except where the text has no separator at all.
-/

namespace IotMonitoring.Text

variable {α : Type*}

/-! ## Edges -/

/-- Remove what passes the test from both ends. -/
def trimWith (p : α → Bool) (text : List α) : List α := (text.dropWhile p).rdropWhile p

/-- Neither the first nor the last element passes the test. -/
def CleanEdges (p : α → Bool) (text : List α) : Prop :=
  (∀ a, text.head? = some a → p a = false) ∧ ∀ a, text.getLast? = some a → p a = false

variable {p : α → Bool}

/-- Clean edges can be read off the two ends. -/
theorem cleanEdges_of_ends {text : List α}
    (h : text.head?.all (! p ·) && text.getLast?.all (! p ·)) : CleanEdges p text := by
  rw [Bool.and_eq_true, Option.all_eq_true_iff_get, Option.all_eq_true_iff_get] at h
  refine ⟨fun a ha ↦ ?_, fun a ha ↦ ?_⟩
  · simpa [ha] using h.1
  · simpa [ha] using h.2

theorem trimWith_prefix_dropWhile (text : List α) : trimWith p text <+: text.dropWhile p :=
  List.rdropWhile_prefix p _

theorem mem_of_mem_trimWith {text : List α} {a : α} (h : a ∈ trimWith p text) : a ∈ text :=
  (List.dropWhile_suffix p).mem ((trimWith_prefix_dropWhile text).mem h)

theorem length_trimWith_le (text : List α) : (trimWith p text).length ≤ text.length :=
  (trimWith_prefix_dropWhile text).length_le.trans (List.dropWhile_suffix p).length_le

/-- What is left of a text has clean edges. -/
theorem cleanEdges_trimWith (text : List α) : CleanEdges p (trimWith p text) := by
  constructor
  · intro a ha
    obtain ⟨rest, hrest⟩ := List.head?_eq_some_iff.mp ha
    obtain ⟨behind, hbehind⟩ := trimWith_prefix_dropWhile text
    have hhead := List.head?_dropWhile_not p text
    rw [← hbehind, hrest] at hhead
    simpa using hhead
  · intro a ha
    have hne : trimWith p text ≠ [] := fun hnil ↦ by simp [hnil] at ha
    have hlast := List.rdropWhile_last_not p (text.dropWhile p) hne
    rw [List.getLast?_eq_some_getLast hne, Option.some.injEq] at ha
    simpa [trimWith, ← ha] using hlast

/-- A text with clean edges is left alone. -/
theorem trimWith_eq_self {text : List α} (h : CleanEdges p text) : trimWith p text = text := by
  have hfront : text.dropWhile p = text := by
    cases text with
    | nil => rfl
    | cons a rest => exact List.dropWhile_cons_of_neg (by simp [h.1 a rfl])
  rw [trimWith, hfront, List.rdropWhile_eq_self_iff]
  intro hne
  simp [h.2 _ (List.getLast?_eq_some_getLast hne)]

/-- What passes the test behind a text with clean edges is all that is removed. -/
theorem trimWith_append {text behind : List α} (hne : text ≠ []) (h : CleanEdges p text)
    (hbehind : ∀ a ∈ behind, p a) : trimWith p (text ++ behind) = text := by
  have hfront : (text ++ behind).dropWhile p = text ++ behind := by
    obtain ⟨a, rest, rfl⟩ := List.exists_cons_of_ne_nil hne
    rw [List.cons_append, List.dropWhile_cons_of_neg (by simp [h.1 a rfl])]
  rw [trimWith, hfront]
  clear hfront
  induction behind using List.reverseRecOn with
  | nil =>
    rw [List.append_nil, List.rdropWhile_eq_self_iff]
    intro hl
    simp [h.2 _ (List.getLast?_eq_some_getLast hl)]
  | append_singleton behind a ih =>
    rw [← List.append_assoc, List.rdropWhile_concat_pos _ _ _ (hbehind a (by simp))]
    exact ih fun b hb ↦ hbehind b (by simp [hb])

theorem cleanEdges_of_forall {text : List α} (h : ∀ a ∈ text, p a = false) : CleanEdges p text :=
  ⟨fun a ha ↦ h a (List.mem_of_mem_head? ha), fun a ha ↦ h a (List.mem_of_getLast? ha)⟩

/-- Around a clean element only the outer edges of the two sides matter. -/
theorem cleanEdges_join_iff {front rest : List α} {a : α} (ha : p a = false) :
    CleanEdges p (front ++ a :: rest) ↔
      (∀ b, front.head? = some b → p b = false) ∧ ∀ b, rest.getLast? = some b → p b = false := by
  have hhead : (∀ b, (front ++ a :: rest).head? = some b → p b = false) ↔
      ∀ b, front.head? = some b → p b = false := by
    cases front with
    | nil => simp [ha]
    | cons first others => simp
  have hlast : (∀ b, (front ++ a :: rest).getLast? = some b → p b = false) ↔
      ∀ b, rest.getLast? = some b → p b = false := by
    rw [List.getLast?_append_cons]
    cases rest with
    | nil => simp [ha]
    | cons first others => simp
  exact and_congr hhead hlast

/-- Joining at a clean element keeps the edges clean. -/
theorem CleanEdges.join {front rest : List α} {a : α} (hfront : CleanEdges p front)
    (ha : p a = false) (hrest : CleanEdges p rest) : CleanEdges p (front ++ a :: rest) :=
  (cleanEdges_join_iff ha).mpr ⟨hfront.1, hrest.2⟩

/-- Only the outer edges of two non-empty sides matter, whatever stands between them. -/
theorem CleanEdges.around {front rest : List α} (hne : front ≠ []) (hne' : rest ≠ [])
    (hfront : CleanEdges p front) (hrest : CleanEdges p rest) (between : List α) :
    CleanEdges p (front ++ between ++ rest) := by
  constructor
  · intro a ha
    apply hfront.1
    rwa [List.append_assoc, List.head?_append_of_ne_nil _ hne] at ha
  · intro a ha
    apply hrest.2
    rwa [List.getLast?_append_of_ne_nil _ hne'] at ha

/-! ## Separators -/

section Split

variable [DecidableEq α] (sep : α)

/-- The pieces of a text have no separator inside and nothing that is not in the text. -/
theorem mem_splitOn {text piece : List α} (h : piece ∈ text.splitOn sep) :
    sep ∉ piece ∧ ∀ a ∈ piece, a ∈ text := by
  induction text generalizing piece with
  | nil =>
    rw [List.splitOn_nil, List.mem_singleton] at h
    simp [h]
  | cons b text ih =>
    rw [List.splitOn_cons_eq_if_modifyHead] at h
    obtain ⟨first, others, hsplit⟩ := List.exists_cons_of_ne_nil (List.splitOn_ne_nil sep text)
    have hmem : ∀ other ∈ text.splitOn sep, sep ∉ other ∧ ∀ a ∈ other, a ∈ b :: text :=
      fun other hother ↦ ⟨(ih hother).1, fun a ha ↦ List.mem_cons_of_mem b ((ih hother).2 a ha)⟩
    split at h
    · obtain rfl | hrest := List.mem_cons.mp h
      · simp
      · exact hmem piece hrest
    · rename_i hne
      rw [hsplit, List.modifyHead_cons, List.mem_cons] at h
      rw [hsplit] at hmem
      obtain rfl | hrest := h
      · have hfirst := hmem first List.mem_cons_self
        have hsep : sep ≠ b := fun heq ↦ hne (by simp [heq])
        simpa [hsep] using hfirst
      · exact hmem piece (List.mem_cons_of_mem first hrest)

/-- `String.split` of Java, for a single character that is no pattern. -/
def javaSplit (text : List α) : List (List α) :=
  if sep ∈ text then (text.splitOn sep).rdropWhile List.isEmpty else [text]

theorem mem_javaSplit {text piece : List α} (h : piece ∈ javaSplit sep text) :
    sep ∉ piece ∧ ∀ a ∈ piece, a ∈ text := by
  rw [javaSplit] at h
  split at h
  · exact mem_splitOn sep ((List.rdropWhile_prefix _ _).mem h)
  · rename_i hsep
    rw [List.mem_singleton.mp h]
    exact ⟨hsep, fun _ ha ↦ ha⟩

/-- Records that are each followed by the separator are given back, when there are any and none is
empty. -/
theorem javaSplit_terminated {records : List (List α)} (hne : records ≠ [])
    (hsep : ∀ record ∈ records, sep ∉ record) (hfull : ∀ record ∈ records, record ≠ []) :
    javaSplit sep (records.flatMap (· ++ [sep])) = records := by
  have hsplit : ∀ records : List (List α), (∀ record ∈ records, sep ∉ record) →
      (records.flatMap (· ++ [sep])).splitOn sep = records ++ [[]] := by
    intro records hsep
    induction records with
    | nil => exact List.splitOn_nil sep
    | cons record records ih =>
      rw [List.forall_mem_cons] at hsep
      rw [List.flatMap_cons, List.append_assoc, List.singleton_append,
        List.splitOn_append_cons_self_of_not_mem hsep.1, ih hsep.2, List.cons_append]
  have hmem : sep ∈ records.flatMap (· ++ [sep]) := by
    obtain ⟨record, rest, rfl⟩ := List.exists_cons_of_ne_nil hne
    simp
  rw [javaSplit, if_pos hmem, hsplit records hsep, List.rdropWhile_concat_pos _ _ _ rfl,
    List.rdropWhile_eq_self_iff]
  intro hl
  simpa using hfull _ (List.getLast_mem hl)

end Split

end IotMonitoring.Text
