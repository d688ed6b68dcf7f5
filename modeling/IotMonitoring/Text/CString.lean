import Mathlib.Data.List.Basic
import Mathlib.Data.List.TakeWhile
import Mathlib.Tactic.Common

/-!
# Strings and character fields as C keeps them

A C string is the bytes before the first NUL of a memory area. A character field is a fixed array
whose last byte is NUL: zeroed storage starts so, and a copy that leaves the last byte alone keeps
it so, hence reading a field never leaves it. The copying rules of `strncpy` and the cutting rule
of `snprintf` are stated once here and used at every field and buffer of the model.
-/

namespace IotMonitoring.Text

abbrev Bytes := List UInt8

/-- The bytes of a text literal of the source. -/
def ascii (text : String) : Bytes := text.toList.map fun c ↦ c.toNat.toUInt8

/-- A string as its reader sees it, up to and without the terminating NUL. -/
@[ext]
structure CString where
  bytes : Bytes
  noNul : 0 ∉ bytes
deriving DecidableEq

namespace CString

/-- The string that starts at the front of a memory area. -/
def read (memory : Bytes) : CString where
  bytes := memory.takeWhile (· != 0)
  noNul h := by simpa using List.mem_takeWhile_imp h

/-- A string literal of the source. -/
def lit (text : String) : CString := read (ascii text)

def length (s : CString) : ℕ := s.bytes.length

instance : EmptyCollection CString := ⟨⟨[], List.not_mem_nil⟩⟩

instance : Append CString where
  append s t := ⟨s.bytes ++ t.bytes, by simp [s.noNul, t.noNul]⟩

/-- What a copy bounded by `n` bytes keeps of a string. -/
def cut (n : ℕ) (s : CString) : CString where
  bytes := s.bytes.take n
  noNul h := s.noNul (List.mem_of_mem_take h)

/-- The part of a string before the first byte of a set. -/
def before (stop : UInt8 → Bool) (s : CString) : CString where
  bytes := s.bytes.takeWhile (! stop ·)
  noNul h := s.noNul ((List.takeWhile_prefix _).mem h)

/-- `snprintf` into a buffer of `size` bytes, for the text the format produces. -/
def snprintf (size : ℕ) (text : CString) : CString := text.cut (size - 1)

/-- `strncmp(s, t, n) == 0`. -/
def strncmp (s t : CString) (n : ℕ) : Bool := s.cut n = t.cut n

/-- The strings one after the other. -/
def concat (parts : List CString) : CString := parts.foldr (· ++ ·) ∅

@[simp]
theorem bytes_append (s t : CString) : (s ++ t).bytes = s.bytes ++ t.bytes := rfl

@[simp]
theorem bytes_empty : (∅ : CString).bytes = [] := rfl

@[simp]
theorem bytes_cut (n : ℕ) (s : CString) : (s.cut n).bytes = s.bytes.take n := rfl

@[simp]
theorem length_append (s t : CString) : (s ++ t).length = s.length + t.length := by
  simp [length]

@[simp]
theorem length_empty : (∅ : CString).length = 0 := rfl

theorem length_cut (n : ℕ) (s : CString) : (s.cut n).length = min n s.length := by
  simp [length]

theorem length_cut_le (n : ℕ) (s : CString) : (s.cut n).length ≤ n := by
  rw [length_cut]
  exact Nat.min_le_left n s.length

theorem cut_eq_self {n : ℕ} {s : CString} (h : s.length ≤ n) : s.cut n = s :=
  CString.ext (List.take_of_length_le h)

theorem cut_cut (n : ℕ) (s : CString) : (s.cut n).cut n = s.cut n :=
  cut_eq_self (length_cut_le n s)

theorem cut_append {n : ℕ} {s : CString} (h : s.length ≤ n) (t : CString) :
    (s ++ t).cut n = s ++ t.cut (n - s.length) := by
  apply CString.ext
  show (s.bytes ++ t.bytes).take n = s.bytes ++ t.bytes.take (n - s.length)
  rw [List.take_append, List.take_of_length_le h, length]

/-- A string that does not fill the bound is the cut of itself only. -/
theorem cut_eq_iff {n : ℕ} {s t : CString} (h : t.length < n) : s.cut n = t ↔ s = t := by
  constructor
  · rintro rfl
    rw [length_cut] at h
    exact (cut_eq_self (by omega)).symm
  · rintro rfl
    exact cut_eq_self h.le

@[simp]
theorem append_assoc (s t u : CString) : s ++ t ++ u = s ++ (t ++ u) :=
  CString.ext (List.append_assoc _ _ _)

@[simp]
theorem empty_append (s : CString) : ∅ ++ s = s := rfl

@[simp]
theorem append_empty (s : CString) : s ++ ∅ = s := CString.ext (List.append_nil _)

@[simp]
theorem concat_nil : concat [] = ∅ := rfl

@[simp]
theorem concat_cons (s : CString) (parts : List CString) :
    concat (s :: parts) = s ++ concat parts := rfl

@[simp]
theorem concat_append (front rest : List CString) :
    concat (front ++ rest) = concat front ++ concat rest := by
  induction front with
  | nil => simp
  | cons s front ih => simp [ih]

theorem concat_map_concat {α : Type} (text : α → CString) (front : List α) (last : α) :
    concat ((front ++ [last]).map text) = concat (front.map text) ++ text last := by
  simp

/-- Reading stops at the first NUL, whatever lies behind it. -/
theorem read_append_nul {text : Bytes} (h : 0 ∉ text) (rest : Bytes) :
    (read (text ++ 0 :: rest)).bytes = text := by
  have hpos : ∀ b ∈ text, (b != 0) = true := by
    intro b hb
    simpa using fun hzero : b = 0 ↦ h (hzero ▸ hb)
  simp [read, List.takeWhile_append_of_pos hpos]

end CString

/-- A `char` array of `k + 1` bytes whose last byte is NUL. -/
@[ext]
structure CharField (k : ℕ) where
  bytes : Bytes
  last_eq : bytes.drop k = [0]
deriving DecidableEq

namespace CharField

variable {k : ℕ}

/-- Storage cleared by `memset`. -/
def zero (k : ℕ) : CharField k where
  bytes := List.replicate (k + 1) 0
  last_eq := by simp

/-- The string a field holds. -/
def str (field : CharField k) : CString := CString.read field.bytes

/-- `strncpy(field, src, sizeof(field) - 1)`: the bytes of the source up to the bound, padded
with NULs up to the bound; the last byte of the field stays as it is. -/
def strncpy (field : CharField k) (src : CString) : CharField k where
  bytes := src.bytes.take k ++ List.replicate (k - src.length) 0 ++ field.bytes.drop k
  last_eq := by
    have hlength : (src.bytes.take k ++ List.replicate (k - src.length) 0).length = k := by
      simp [CString.length]
      omega
    rw [List.drop_left' hlength, field.last_eq]

/-- `field[0] = '\0'`; what lies behind the first byte stays in place. -/
def clear (field : CharField k) : CharField k where
  bytes := field.bytes.set 0 0
  last_eq := by
    rw [List.drop_set]
    cases k with
    | zero => simp [field.last_eq]
    | succ k => simp [field.last_eq]

/-- `snprintf(field, sizeof(field), ..)` for the text that the format produces: the bytes behind its
NUL stay as they are. -/
def snprintf (field : CharField k) (text : CString) : CharField k where
  bytes := (text.cut k).bytes ++ 0 :: field.bytes.drop ((text.cut k).length + 1)
  last_eq := by
    have hlength : (text.cut k).bytes.length ≤ k := CString.length_cut_le k text
    rw [List.drop_append, List.drop_of_length_le hlength, List.nil_append]
    cases hrest : k - (text.cut k).bytes.length with
    | zero =>
      have hfield := congrArg List.length field.last_eq
      simp only [List.length_drop, List.length_singleton] at hfield
      rw [List.drop_zero, List.drop_of_length_le (by simp only [CString.length]; omega)]
    | succ rest =>
      rw [List.drop_succ_cons, List.drop_drop, ← field.last_eq, CString.length]
      congr 1
      omega

theorem length_bytes (field : CharField k) : field.bytes.length = k + 1 := by
  have hdrop := congrArg List.length field.last_eq
  simp only [List.length_drop, List.length_cons, List.length_nil] at hdrop
  omega

/-- The last byte of the array is the NUL that ends every string in it. -/
theorem getElem?_last (field : CharField k) : field.bytes[k]? = some 0 := by
  have hlast := congrArg (·[0]?) field.last_eq
  simpa using hlast

/-- A bounded copy stores the source cut to the bound, whatever the field held before. -/
@[simp]
theorem str_strncpy (field : CharField k) (src : CString) :
    (field.strncpy src).str = src.cut k := by
  have hnul : 0 ∉ src.bytes.take k := (src.cut k).noNul
  apply CString.ext
  show (CString.read (src.bytes.take k ++ List.replicate (k - src.length) 0 ++
    field.bytes.drop k)).bytes = src.bytes.take k
  rw [field.last_eq]
  cases hpad : k - src.length with
  | zero => simpa using CString.read_append_nul hnul []
  | succ pad =>
    simpa [List.replicate_succ] using
      CString.read_append_nul hnul (List.replicate pad 0 ++ [0])

/-- The buffer holds the text, cut where it does not fit. -/
@[simp]
theorem str_snprintf (field : CharField k) (text : CString) :
    (field.snprintf text).str = text.cut k :=
  CString.ext (CString.read_append_nul (text.cut k).noNul _)

/-- The copy looks at no byte of the source behind its bound. -/
theorem strncpy_cut (field : CharField k) (src : CString) :
    field.strncpy (src.cut k) = field.strncpy src := by
  apply CharField.ext
  have hpad : k - (src.cut k).length = k - src.length := by
    rw [CString.length_cut]
    omega
  simp only [strncpy, hpad, CString.bytes_cut, List.take_take, Nat.min_self]

@[simp]
theorem str_clear (field : CharField k) : field.clear.str = ∅ := by
  apply CString.ext
  have hlength := field.length_bytes
  cases hbytes : field.bytes with
  | nil => simp [hbytes] at hlength
  | cons b rest => simp [str, clear, CString.read, hbytes]

/-- A field holds at most `k` bytes of text. -/
theorem length_str_le (field : CharField k) : field.str.length ≤ k := by
  obtain ⟨text, hsplit, hlength⟩ : ∃ text, field.bytes = text ++ [0] ∧ text.length = k :=
    ⟨field.bytes.take k, by rw [← field.last_eq, List.take_append_drop],
      by simp [field.length_bytes]⟩
  have htake : field.str.bytes <+: text := by
    simp only [str, CString.read, hsplit, List.takeWhile_append]
    split
    · simp
    · exact List.takeWhile_prefix _
  exact hlength ▸ htake.length_le

end CharField

end IotMonitoring.Text
