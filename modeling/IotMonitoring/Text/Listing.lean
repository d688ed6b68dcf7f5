import IotMonitoring.Text.CString
import Mathlib.Data.List.Induction

/-!
# Listings in a bounded buffer

The listing loops of the server append one record after the other to a buffer of fixed size and
leave out each record that would not fit together with the terminating NUL. A listing is the
concatenation of the records it keeps. As long as the records are short against the buffer, it
stays below a bound only when all the records together do.
-/

namespace IotMonitoring.Text

open CString

/-- `if (strlen(output) + strlen(record) < size) strcat(output, record)`. -/
def appendRecord (size : ℕ) (output record : CString) : CString :=
  if output.length + record.length < size then output ++ record else output

/-- The loop over all records, started on the empty string. -/
def listing (size : ℕ) (records : List CString) : CString :=
  records.foldl (appendRecord size) ∅

/-- The records a listing that already holds `used` bytes still takes in. -/
def keptRecords (size : ℕ) : ℕ → List CString → List CString
  | _, [] => []
  | used, record :: records =>
    if used + record.length < size then
      record :: keptRecords size (used + record.length) records
    else keptRecords size used records

theorem keptRecords_subset (size used : ℕ) (records : List CString) :
    keptRecords size used records ⊆ records := by
  induction records generalizing used with
  | nil => exact List.Subset.refl []
  | cons record records ih =>
    rw [keptRecords]
    split
    · exact List.cons_subset_cons record (ih _)
    · exact List.subset_cons_of_subset record (ih _)

theorem foldl_appendRecord (size : ℕ) (output : CString) (records : List CString) :
    records.foldl (appendRecord size) output =
      output ++ concat (keptRecords size output.length records) := by
  induction records generalizing output with
  | nil => simp [keptRecords]
  | cons record records ih =>
    rw [List.foldl_cons, ih, appendRecord, keptRecords]
    split <;> simp

/-- A listing consists of the records it keeps, each of them whole. -/
theorem listing_eq_concat (size : ℕ) (records : List CString) :
    listing size records = concat (keptRecords size 0 records) := by
  rw [listing, foldl_appendRecord, length_empty, empty_append]

/-- Either every record is kept, or the buffer is filled up to less than one record. -/
theorem keptRecords_full (size used : ℕ) {most : ℕ} {records : List CString}
    (hmost : ∀ record ∈ records, record.length ≤ most) :
    keptRecords size used records = records ∨
      size ≤ used + (concat (keptRecords size used records)).length + most := by
  induction records generalizing used with
  | nil => exact .inl rfl
  | cons record records ih =>
    have hrecord := hmost record List.mem_cons_self
    have hrest : ∀ other ∈ records, other.length ≤ most := fun other hother ↦
      hmost other (List.mem_cons_of_mem record hother)
    rw [keptRecords]
    split
    · rw [concat_cons, length_append]
      obtain hall | hfull := ih (used + record.length) hrest
      · exact .inl (by rw [hall])
      · exact .inr (by omega)
    · exact .inr (by omega)

theorem length_concat_keptRecords_le (size used : ℕ) (records : List CString) :
    (concat (keptRecords size used records)).length ≤ (concat records).length := by
  induction records generalizing used with
  | nil => exact le_rfl
  | cons record records ih =>
    rw [keptRecords, concat_cons, length_append]
    split
    · rw [concat_cons, length_append]
      exact Nat.add_le_add_left (ih _) _
    · exact (ih _).trans (Nat.le_add_left _ _)

/-- With records short against the buffer, the listing is within a bound exactly when the records
together are. -/
theorem length_listing_le_iff {size bound most : ℕ} {records : List CString}
    (hmost : ∀ record ∈ records, record.length ≤ most) (hbound : bound + most < size) :
    (listing size records).length ≤ bound ↔ (concat records).length ≤ bound := by
  rw [listing_eq_concat]
  constructor
  · intro hle
    obtain hall | hfull := keptRecords_full size 0 hmost
    · rwa [hall] at hle
    · omega
  · exact (length_concat_keptRecords_le size 0 records).trans

/-! ## The entries behind the records -/

section Entries

variable {α : Type} (eligible : α → Bool) (format : α → CString) (size : ℕ)

/-- An eligible entry is taken when its record fits behind those of the entries taken before. -/
def takeEntry (taken : List α) (entry : α) : List α :=
  if eligible entry ∧ (concat (taken.map format)).length + (format entry).length < size then
    taken ++ [entry]
  else taken

/-- The entries whose records a listing consists of. -/
def kept (entries : List α) : List α := entries.foldl (takeEntry eligible format size) []

variable {eligible : α → Bool}

theorem kept_concat_of_pos {entry : α} (heligible : eligible entry) (front : List α) :
    kept eligible format size (front ++ [entry]) =
      if (concat ((kept eligible format size front).map format)).length +
          (format entry).length < size then
        kept eligible format size front ++ [entry]
      else kept eligible format size front := by
  rw [kept, List.foldl_concat, takeEntry]
  simp only [heligible, true_and]
  rfl

theorem kept_concat_of_neg {entry : α} (heligible : ¬ eligible entry) (front : List α) :
    kept eligible format size (front ++ [entry]) = kept eligible format size front := by
  rw [kept, List.foldl_concat, takeEntry]
  exact if_neg fun htaken ↦ heligible htaken.1

theorem filter_concat_of_pos {entry : α} (heligible : eligible entry) (front : List α) :
    (front ++ [entry]).filter eligible = front.filter eligible ++ [entry] := by
  rw [List.filter_append, List.filter_cons_of_pos heligible, List.filter_nil]

theorem filter_concat_of_neg {entry : α} (heligible : ¬ eligible entry) (front : List α) :
    (front ++ [entry]).filter eligible = front.filter eligible := by
  rw [List.filter_append, List.filter_cons_of_neg heligible, List.filter_nil, List.append_nil]

theorem kept_sublist (entries : List α) :
    (kept eligible format size entries).Sublist (entries.filter eligible) := by
  induction entries using List.reverseRecOn with
  | nil => exact List.nil_sublist _
  | append_singleton front entry ih =>
    by_cases heligible : eligible entry = true
    · rw [kept_concat_of_pos format size heligible, filter_concat_of_pos heligible]
      split
      · exact ih.append_right [entry]
      · exact ih.trans (List.sublist_append_left _ _)
    · rwa [kept_concat_of_neg format size heligible, filter_concat_of_neg heligible]

theorem map_foldl_takeEntry (taken entries : List α) :
    (entries.foldl (takeEntry eligible format size) taken).map format =
      taken.map format ++ keptRecords size (concat (taken.map format)).length
        ((entries.filter eligible).map format) := by
  induction entries generalizing taken with
  | nil => simp [keptRecords]
  | cons entry entries ih =>
    rw [List.foldl_cons, ih, takeEntry]
    by_cases heligible : eligible entry = true
    · rw [List.filter_cons_of_pos heligible, List.map_cons, keptRecords]
      simp only [heligible, true_and]
      split
      · simp
      · rfl
    · rw [List.filter_cons_of_neg heligible, if_neg fun htaken ↦ heligible htaken.1]

/-- The records of the entries that are kept are the records that are kept. -/
theorem map_kept (entries : List α) :
    (kept eligible format size entries).map format =
      keptRecords size 0 ((entries.filter eligible).map format) :=
  map_foldl_takeEntry format size [] entries

/-- The listing of the eligible entries consists of the records of those it keeps. -/
theorem listing_eq_concat_kept (entries : List α) :
    listing size ((entries.filter eligible).map format) =
      concat ((kept eligible format size entries).map format) := by
  rw [listing_eq_concat, map_kept]

/-- When the records of all eligible entries leave room for the NUL, none is left out. -/
theorem kept_eq_filter {size : ℕ} {entries : List α}
    (hroom : (concat ((entries.filter eligible).map format)).length < size) :
    kept eligible format size entries = entries.filter eligible := by
  induction entries using List.reverseRecOn with
  | nil => rfl
  | append_singleton front entry ih =>
    by_cases heligible : eligible entry = true
    · rw [filter_concat_of_pos heligible, List.map_append, concat_append, length_append] at hroom
      rw [kept_concat_of_pos format size heligible, filter_concat_of_pos heligible, ih (by omega)]
      exact if_pos (by simpa using hroom)
    · rw [filter_concat_of_neg heligible] at hroom
      rw [kept_concat_of_neg format size heligible, filter_concat_of_neg heligible, ih hroom]

theorem length_concat_cut_le (full : α → CString) (most : ℕ) (entries : List α) :
    (concat (entries.map fun entry ↦ (full entry).cut most)).length ≤
      (concat (entries.map full)).length := by
  induction entries with
  | nil => exact le_rfl
  | cons entry entries ih =>
    simp only [List.map_cons, concat_cons, length_append, length_cut]
    omega

theorem length_concat_cut_le_mul (full : α → CString) (most : ℕ) (entries : List α) :
    (concat (entries.map fun entry ↦ (full entry).cut most)).length ≤ entries.length * most := by
  induction entries with
  | nil => exact Nat.zero_le _
  | cons entry entries ih =>
    have hentry := length_cut_le most (full entry)
    rw [List.map_cons, concat_cons, length_append, List.length_cons, Nat.add_one_mul]
    omega

/-- Cutting every text to a bound changes their concatenation unless all keep within the bound. -/
theorem concat_map_cut_eq_iff (full : α → CString) (most : ℕ) (entries : List α) :
    concat (entries.map fun entry ↦ (full entry).cut most) = concat (entries.map full) ↔
      ∀ entry ∈ entries, (full entry).length ≤ most := by
  constructor
  · intro heq
    have hlength := congrArg CString.length heq
    clear heq
    induction entries with
    | nil => exact List.forall_mem_nil _
    | cons entry entries ih =>
      have hrest := length_concat_cut_le full most entries
      simp only [List.map_cons, concat_cons, length_append, length_cut] at hlength
      exact List.forall_mem_cons.mpr ⟨by omega, ih (by omega)⟩
  · intro hfull
    rw [List.map_congr_left fun entry hentry ↦ cut_eq_self (hfull entry hentry)]

/-- A concatenation below the bound has nothing in it that was cut. -/
theorem concat_cut_eq_of_lt {full : α → CString} {most : ℕ} {entries : List α}
    (hlt : (concat (entries.map fun entry ↦ (full entry).cut most)).length < most) :
    concat (entries.map fun entry ↦ (full entry).cut most) = concat (entries.map full) := by
  rw [concat_map_cut_eq_iff]
  induction entries with
  | nil => exact List.forall_mem_nil _
  | cons entry entries ih =>
    simp only [List.map_cons, concat_cons, length_append, length_cut] at hlt
    exact List.forall_mem_cons.mpr ⟨by omega, ih (by omega)⟩

/-- With a bound below that of the records and room in the buffer for one record more, a listing
within the bound has all texts in it, whole. -/
theorem listing_cut_eq {full : α → CString} {most bound size : ℕ} {entries : List α}
    (hmost : bound < most) (hsize : bound + most < size)
    (hle : (listing size (entries.map fun entry ↦ (full entry).cut most)).length ≤ bound) :
    listing size (entries.map fun entry ↦ (full entry).cut most) = concat (entries.map full) := by
  rw [listing_eq_concat] at hle ⊢
  have hcut : ∀ record ∈ entries.map fun entry ↦ (full entry).cut most, record.length ≤ most :=
    List.forall_mem_map.mpr fun entry _ ↦ length_cut_le most (full entry)
  obtain hall | hfull := keptRecords_full size 0 hcut
  · rw [hall] at hle ⊢
    exact concat_cut_eq_of_lt (hle.trans_lt hmost)
  · omega

/-- The listing is within the bound exactly when the texts together are. -/
theorem length_listing_cut_le_iff {full : α → CString} {most bound size : ℕ} {entries : List α}
    (hmost : bound < most) (hsize : bound + most < size) :
    (listing size (entries.map fun entry ↦ (full entry).cut most)).length ≤ bound ↔
      (concat (entries.map full)).length ≤ bound := by
  constructor
  · intro hle
    rwa [← listing_cut_eq hmost hsize hle]
  · intro hle
    have hmost : ∀ record ∈ entries.map fun entry ↦ (full entry).cut most, record.length ≤ most :=
      List.forall_mem_map.mpr fun entry _ ↦ length_cut_le most (full entry)
    rw [length_listing_le_iff hmost hsize]
    exact (length_concat_cut_le full most entries).trans hle

end Entries

end IotMonitoring.Text
