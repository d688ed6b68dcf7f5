import IotMonitoring.Text.CString
import Mathlib.Data.Rat.Defs

/-!
# What the server uses of `double`

The server reads a measurement with `atof`, compares it with thresholds and prints it with `%.2f`.
The model is written over any type with these operations, so a result covers every rounding of the
machine type, infinities and not-a-numbers included. Exact rationals with decimal numerals are the
instance used where a value has to be computed.
-/

namespace IotMonitoring.Server

open Text

/-- Bytes that `%.2f` prints: digits, sign, point, and the letters of `inf` and `nan`. -/
def isNumeral (b : UInt8) : Bool := (48 ≤ b ∧ b ≤ 57) ∨ b ∈ ascii "-.infa"

/-- The operations on `double` that the server relies on. -/
class CDouble (D : Type) where
  ofNat : ℕ → D
  atof : CString → D
  fixed2 : D → CString
  lt : D → D → Bool
  le : D → D → Bool
  fixed2_ne_nil : ∀ value, (fixed2 value).bytes ≠ []
  fixed2_numeral : ∀ value, ∀ b ∈ (fixed2 value).bytes, isNumeral b

/-- A numeral lies behind the comma and before the end of ASCII, and is no semicolon. -/
theorem isNumeral_range {b : UInt8} (h : isNumeral b) :
    44 < b.toNat ∧ b.toNat < 128 ∧ b.toNat ≠ 59 := by
  have hletters : (ascii "-.infa").all fun b ↦
      decide (44 < b.toNat ∧ b.toNat < 128 ∧ b.toNat ≠ 59) := by decide
  simp only [isNumeral, decide_eq_true_eq] at h
  obtain ⟨hlow, hhigh⟩ | hletter := h
  · rw [UInt8.le_iff_toNat_le] at hlow hhigh
    have hlow' : 48 ≤ b.toNat := hlow
    have hhigh' : b.toNat ≤ 57 := hhigh
    omega
  · simpa using List.all_eq_true.mp hletters b hletter

theorem isNumeral_zero : isNumeral 0 = false := by decide

/-- The decimal digits of a natural number, as `%d` and `%.2f` print them. -/
def decimalDigits (n : ℕ) : Bytes := (Nat.toDigits 10 n).map fun c ↦ c.toNat.toUInt8

theorem decimalDigits_isNumeral {n : ℕ} {b : UInt8} (hb : b ∈ decimalDigits n) :
    48 ≤ b ∧ b ≤ 57 := by
  obtain ⟨c, hc, rfl⟩ := List.mem_map.mp hb
  have hdigit := Nat.isDigit_of_mem_toDigits (by decide) (by decide) hc
  simp only [Char.isDigit, Bool.and_eq_true, decide_eq_true_eq, UInt32.le_iff_toNat_le] at hdigit
  obtain ⟨hlow, hhigh⟩ := hdigit
  have hlow' : 48 ≤ c.toNat := hlow
  have hhigh' : c.toNat ≤ 57 := hhigh
  constructor <;>
    · rw [UInt8.le_iff_toNat_le]
      simp
      omega

namespace Rational

/-- Hundredths of the absolute value, rounded to nearest with ties to even. -/
def hundredths (q : ℚ) : ℕ :=
  let scaled := q.num.natAbs * 100
  let floor := scaled / q.den
  let twice := 2 * (scaled % q.den)
  if twice < q.den then floor else if q.den < twice then floor + 1 else floor + floor % 2

def fixed2Bytes (q : ℚ) : Bytes :=
  (if q < 0 then ascii "-" else []) ++ decimalDigits (hundredths q / 100) ++ ascii "." ++
    decimalDigits (hundredths q % 100 / 10) ++ decimalDigits (hundredths q % 10)

theorem fixed2Bytes_numeral (q : ℚ) : ∀ b ∈ fixed2Bytes q, isNumeral b := by
  have hdigits : ∀ n, ∀ b ∈ decimalDigits n, isNumeral b := by
    intro n b hb
    simp [isNumeral, decimalDigits_isNumeral hb]
  have hsign : ∀ b ∈ (if q < 0 then ascii "-" else []), isNumeral b := by
    have hminus : (ascii "-").all isNumeral := by decide
    split
    · exact List.all_eq_true.mp hminus
    · simp
  have hpoint : (ascii ".").all isNumeral := by decide
  intro b hb
  simp only [fixed2Bytes, List.mem_append] at hb
  obtain (((hb | hb) | hb) | hb) | hb := hb
  · exact hsign b hb
  · exact hdigits _ b hb
  · exact List.all_eq_true.mp hpoint b hb
  · exact hdigits _ b hb
  · exact hdigits _ b hb

def isDigit (b : UInt8) : Bool := 48 ≤ b ∧ b ≤ 57

/-- `isspace` in the C locale. -/
def isSpace (b : UInt8) : Bool := b = 32 ∨ 9 ≤ b ∧ b ≤ 13

def digitsValue (digits : Bytes) : ℕ := digits.foldl (fun n b ↦ 10 * n + (b.toNat - 48)) 0

/-- An optional sign and the rest. -/
def splitSign (text : Bytes) : Bool × Bytes :=
  match text with
  | b :: rest => if b = 45 then (true, rest) else if b = 43 then (false, rest) else (false, text)
  | [] => (false, [])

/-- The exponent that follows the digits, zero where there is none. -/
def exponent (text : Bytes) : ℤ :=
  match text with
  | b :: rest =>
    let digits := (splitSign rest).2.takeWhile isDigit
    if (b = 101 ∨ b = 69) ∧ digits ≠ [] then
      if (splitSign rest).1 then -(digitsValue digits : ℤ) else digitsValue digits
    else 0
  | [] => 0

/-- `atof` on decimal numerals; a text that starts with none reads as zero. -/
def atof (s : CString) : ℚ :=
  let signed := splitSign (s.bytes.dropWhile isSpace)
  let whole := signed.2.takeWhile isDigit
  let rest := signed.2.dropWhile isDigit
  let fraction := if rest.head? = some 46 then (rest.drop 1).takeWhile isDigit else []
  let behind := if rest.head? = some 46 then (rest.drop 1).dropWhile isDigit else rest
  if whole ++ fraction = [] then 0
  else
    let magnitude := (digitsValue (whole ++ fraction) : ℚ) * (10 : ℚ) ^ (-(fraction.length : ℤ)) *
      (10 : ℚ) ^ exponent behind
    if signed.1 then -magnitude else magnitude

end Rational

/-- Exact rationals in place of `double`. -/
instance : CDouble ℚ where
  ofNat n := n
  atof := Rational.atof
  fixed2 q := ⟨Rational.fixed2Bytes q, fun h ↦ by
    have hnumeral := Rational.fixed2Bytes_numeral q 0 h
    simp [isNumeral_zero] at hnumeral⟩
  lt a b := a < b
  le a b := a ≤ b
  fixed2_ne_nil q := by simp [Rational.fixed2Bytes, ascii]
  fixed2_numeral := Rational.fixed2Bytes_numeral

end IotMonitoring.Server
