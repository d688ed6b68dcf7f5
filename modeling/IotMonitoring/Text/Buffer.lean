import IotMonitoring.Text.Listing
import Mathlib.Algebra.Ring.Nat

/-!
# The bounded append loop in memory

A buffer is an area of memory, and the string in it ends at the first NUL. `strcat` writes the
source and its NUL over what lies behind the string. Here the operations have no result where C
leaves the area. The loop that appends the record of an eligible entry whenever it fits, with an
`int` for the size and lengths of type `size_t`, stays inside, and at each round the buffer holds
the listing of the entries so far.
-/

namespace IotMonitoring.Text.Buffer

open CString

/-- `strlen`. -/
def strlen (buffer : Bytes) : Option ℕ := buffer.findIdx? (· == 0)

/-- `strcat`. -/
def strcat (buffer : Bytes) (src : CString) : Option Bytes := do
  let used ← strlen buffer
  if used + src.length < buffer.length then
    some (buffer.take used ++ src.bytes ++ 0 :: buffer.drop (used + src.length + 1))
  else none

/-- `used + added < (size_t)size` for two values of type `size_t`. -/
def fits (size : Int32) (used added : ℕ) : Bool :=
  UInt64.ofNat used + UInt64.ofNat added < size.toInt64.toUInt64

/-- `if (strlen(buffer) + strlen(temp) < (size_t)size) strcat(buffer, temp)`. -/
def appendBounded (size : Int32) (buffer : Bytes) (temp : CString) : Option Bytes := do
  let used ← strlen buffer
  if fits size used temp.length then strcat buffer temp else some buffer

/-- One round of the loop: the record of an eligible entry is formatted and appended. -/
def appendRound {α : Type} (eligible : α → Bool) (format : α → CString) (size : Int32)
    (buffer : Bytes) (entry : α) : Option Bytes :=
  if eligible entry then appendBounded size buffer (format entry) else some buffer

/-- The loop over all entries. -/
def appendLoop {α : Type} (eligible : α → Bool) (format : α → CString) (size : Int32)
    (entries : List α) (buffer : Bytes) : Option Bytes :=
  entries.foldlM (appendRound eligible format size) buffer

/-- An area of `size` bytes with a string at its front. -/
structure Holds (size : ℕ) (buffer : Bytes) (s : CString) : Prop where
  terminated : ∃ behind, buffer = s.bytes ++ 0 :: behind
  length : buffer.length = size

variable {size : ℕ} {buffer : Bytes} {s : CString}

theorem Holds.length_lt (h : Holds size buffer s) : s.length < size := by
  obtain ⟨behind, rfl⟩ := h.terminated
  have hlength := h.length
  simp only [List.length_append, List.length_cons] at hlength
  show s.bytes.length < size
  omega

theorem Holds.read (h : Holds size buffer s) : CString.read buffer = s := by
  obtain ⟨behind, rfl⟩ := h.terminated
  exact CString.ext (read_append_nul s.noNul behind)

theorem Holds.strlen (h : Holds size buffer s) : strlen buffer = some s.length := by
  obtain ⟨behind, rfl⟩ := h.terminated
  rw [Buffer.strlen, List.findIdx?_append, List.findIdx?_eq_none_iff.mpr, Option.none_or]
  · simp [List.findIdx?_cons, CString.length]
  · intro b hb
    simpa using fun hzero : b = 0 ↦ s.noNul (hzero ▸ hb)

/-- With room for the source and its NUL nothing is written behind the buffer. -/
theorem Holds.strcat (h : Holds size buffer s) {src : CString}
    (hroom : s.length + src.length < size) :
    ∃ result, strcat buffer src = some result ∧ Holds size result (s ++ src) := by
  have hlength := h.length
  refine ⟨_, ?_, ⟨buffer.drop (s.length + src.length + 1), rfl⟩, ?_⟩
  · rw [Buffer.strcat, h.strlen]
    obtain ⟨behind, rfl⟩ := h.terminated
    have htake : (s.bytes ++ 0 :: behind).take s.length = s.bytes := List.take_left
    simp only [Option.bind_eq_bind, Option.bind_some]
    rw [if_pos (by omega), htake]
    rfl
  · simp only [bytes_append, List.length_append, List.length_cons, List.length_drop]
    show s.length + src.length + (buffer.length - (s.length + src.length + 1) + 1) = size
    omega

theorem holds_clear (hpos : 0 < buffer.length) : Holds buffer.length (buffer.set 0 0) ∅ := by
  cases buffer with
  | nil => simp at hpos
  | cons b behind => exact ⟨⟨behind, rfl⟩, rfl⟩

/-- Below the range of an `int` the comparison is the one of the numbers. -/
theorem fits_iff {size : Int32} (hpos : 0 < size) {used added : ℕ} (hused : used < 2 ^ 31)
    (hadded : added < 2 ^ 31) :
    fits size used added = true ↔ used + added < size.toNatClampNeg := by
  have hwide : (0 : Int64) ≤ size.toInt64 := by
    rw [Int64.le_iff_toInt_le, Int32.toInt_toInt64]
    exact Int.le_of_lt (Int32.lt_iff_toInt_lt.mp hpos)
  have hsum : (UInt64.ofNat used + UInt64.ofNat added).toNat = used + added := by
    rw [← UInt64.ofNat_add, UInt64.toNat_ofNat_of_lt']
    exact (by omega : used + added < 2 ^ 64)
  rw [fits, decide_eq_true_iff, UInt64.lt_iff_toNat_lt, hsum, Int64.toNat_toUInt64_of_le hwide,
    Int32.toNatClampNeg_toInt64]

/-! ## The loop -/

section Loop

variable {α : Type} {eligible : α → Bool} {format : α → CString}

theorem appendLoop_concat (size : Int32) (front : List α) (entry : α) (buffer : Bytes) :
    appendLoop eligible format size (front ++ [entry]) buffer =
      (appendLoop eligible format size front buffer).bind fun middle ↦
        appendRound eligible format size middle entry := by
  simp [appendLoop, List.foldlM_append]

/-- A round keeps the string in the buffer, or writes the record behind it when there is room. -/
theorem Holds.appendBounded {size : Int32} (hpos : 0 < size)
    (h : Holds size.toNatClampNeg buffer s) {temp : CString} (htemp : temp.length < 2 ^ 31) :
    ∃ result, appendBounded size buffer temp = some result ∧
      Holds size.toNatClampNeg result
        (if s.length + temp.length < size.toNatClampNeg then s ++ temp else s) := by
  have hiff := fits_iff hpos (h.length_lt.trans size.toNatClampNeg_lt) htemp
  simp only [Buffer.appendBounded, h.strlen, Option.bind_eq_bind, Option.bind_some, hiff]
  split
  · rename_i hroom
    exact h.strcat hroom
  · exact ⟨buffer, rfl, h⟩

/-- What the loop does with a buffer of the given size. After every round the buffer is terminated
and holds the records of the entries taken, an eligible entry is left out exactly when its record
does not fit behind them, and none is left out when there is room for all. -/
structure Fills (eligible : α → Bool) (format : α → CString) (size : ℕ) (entries : List α)
    (after : ℕ → Option Bytes) (taken : ℕ → List α) : Prop where
  terminated (k : ℕ) : ∃ buffer, after k = some buffer ∧
    Holds size buffer (concat ((taken k).map format)) ∧
    (concat ((taken k).map format)).length < size
  inOrder (k : ℕ) : (taken k).Sublist ((entries.take k).filter eligible)
  ineligible (k : ℕ) (entry : α) : entries[k]? = some entry → ¬ eligible entry →
    taken (k + 1) = taken k
  leftOut (k : ℕ) (entry : α) : entries[k]? = some entry → eligible entry →
    (taken (k + 1) = taken k ↔
      size ≤ (concat ((taken k).map format)).length + (format entry).length)
  appended (k : ℕ) (entry : α) : entries[k]? = some entry → eligible entry →
    taken (k + 1) ≠ taken k → taken (k + 1) = taken k ++ [entry]
  all : (concat ((entries.filter eligible).map format)).length < size →
    taken entries.length = entries.filter eligible

/-- The loop on a cleared buffer. -/
theorem holds_appendLoop {size : Int32} (hpos : 0 < size)
    (hformat : ∀ entry, (format entry).length < 2 ^ 31)
    (h : Holds size.toNatClampNeg buffer ∅) (entries : List α) :
    ∃ result, appendLoop eligible format size entries buffer = some result ∧
      Holds size.toNatClampNeg result
        (concat ((kept eligible format size.toNatClampNeg entries).map format)) := by
  induction entries using List.reverseRecOn with
  | nil => exact ⟨buffer, rfl, h⟩
  | append_singleton front entry ih =>
    obtain ⟨middle, hfront, hmiddle⟩ := ih
    rw [appendLoop_concat, hfront, Option.bind_some, appendRound]
    by_cases heligible : eligible entry = true
    · rw [if_pos heligible, kept_concat_of_pos format _ heligible]
      obtain ⟨result, hresult, hholds⟩ := hmiddle.appendBounded hpos (hformat entry)
      refine ⟨result, hresult, ?_⟩
      split at hholds
      · rename_i hroom
        rw [if_pos hroom]
        simpa using hholds
      · rename_i hroom
        rwa [if_neg hroom]
    · rw [if_neg heligible, kept_concat_of_neg format _ heligible]
      exact ⟨middle, rfl, hmiddle⟩

theorem fills_appendLoop {size : Int32} (hpos : 0 < size)
    (hformat : ∀ entry, (format entry).length < 2 ^ 31)
    (h : Holds size.toNatClampNeg buffer ∅) (entries : List α) :
    Fills eligible format size.toNatClampNeg entries
      (fun k ↦ appendLoop eligible format size (entries.take k) buffer)
      (fun k ↦ kept eligible format size.toNatClampNeg (entries.take k)) := by
  have hnext {k : ℕ} {entry : α} (hentry : entries[k]? = some entry) :
      entries.take (k + 1) = entries.take k ++ [entry] := by
    rw [List.take_add_one, hentry, Option.toList_some]
  constructor
  · intro k
    obtain ⟨result, hresult, hholds⟩ := holds_appendLoop hpos hformat h (entries.take k)
    exact ⟨result, hresult, hholds, hholds.length_lt⟩
  · intro k
    exact kept_sublist format _ _
  · intro k entry hentry heligible
    rw [hnext hentry, kept_concat_of_neg format _ heligible]
  · intro k entry hentry heligible
    rw [hnext hentry, kept_concat_of_pos format _ heligible]
    split
    · rename_i hroom
      exact iff_of_false (by simp) (not_le.mpr hroom)
    · rename_i hroom
      exact iff_of_true rfl (not_lt.mp hroom)
  · intro k entry hentry heligible hchange
    rw [hnext hentry, kept_concat_of_pos format _ heligible] at hchange ⊢
    split at hchange
    · rename_i hroom
      rw [if_pos hroom]
    · exact absurd rfl hchange
  · intro hroom
    rw [List.take_length]
    exact kept_eq_filter format hroom

end Loop

end IotMonitoring.Text.Buffer
