import IotMonitoring.Sensors.Decoding
import IotMonitoring.Server.Double
import Mathlib.Algebra.Order.Field.Rat
import Mathlib.Algebra.Order.Ring.Rat
import Mathlib.Data.NNRat.Lemmas
import Mathlib.Tactic.NormNum
import Mathlib.Tactic.Linarith
import Mathlib.Tactic.Ring

/-!
# Values on their way to the server

The client prints a value with four digits behind the point, and the server reads the text with
`atof`. On exact rationals the server gets the multiple of 1/10000 that the client has rounded to.
-/

namespace IotMonitoring.Sensors.SensorBase

open Text
open Server.Rational
open Auth.AuthServer (PyString encode encode_append encode_of_ascii)

/-! ## Rounding -/

theorem le_rounded {scale n : ℕ} {magnitude : ℚ≥0}
    (h : n * magnitude.den ≤ magnitude.num * scale) : n ≤ rounded scale magnitude := by
  have hfloor : n ≤ magnitude.num * scale / magnitude.den :=
    (Nat.le_div_iff_mul_le magnitude.den_pos).mpr h
  simp only [rounded]
  split
  · exact hfloor
  · split <;> omega

theorem rounded_le {scale n : ℕ} {magnitude : ℚ≥0}
    (h : magnitude.num * scale ≤ n * magnitude.den) : rounded scale magnitude ≤ n := by
  have hsplit := Nat.div_add_mod' (magnitude.num * scale) magnitude.den
  have hfloor : magnitude.num * scale / magnitude.den ≤ n :=
    Nat.div_le_of_le_mul (h.trans_eq (Nat.mul_comm _ _))
  have hden := magnitude.den_pos
  simp only [rounded]
  obtain hlt | heq := hfloor.lt_or_eq
  · split
    · exact hfloor
    · split <;> omega
  · -- At the bound itself nothing is left to round.
    rw [heq] at hsplit
    have hnothing : magnitude.num * scale % magnitude.den = 0 := by omega
    rw [hnothing, if_pos (by omega)]
    exact hfloor

/-- A magnitude that is less than half a unit away from a multiple is rounded to it. -/
theorem rounded_of_close {scale k : ℕ} {magnitude : ℚ≥0}
    (hlow : 2 * k * magnitude.den < 2 * (magnitude.num * scale) + magnitude.den)
    (hhigh : 2 * (magnitude.num * scale) < 2 * k * magnitude.den + magnitude.den) :
    rounded scale magnitude = k := by
  have hsplit := Nat.div_add_mod' (magnitude.num * scale) magnitude.den
  have hrest := Nat.mod_lt (magnitude.num * scale) magnitude.den_pos
  simp only [rounded]
  generalize magnitude.num * scale / magnitude.den = floor at *
  generalize magnitude.num * scale % magnitude.den = rest at *
  rw [← hsplit] at hlow hhigh
  generalize magnitude.den = den at *
  have hle : floor ≤ k := by
    by_contra hlt
    have hmul : (k + 1) * den ≤ floor * den := Nat.mul_le_mul_right den (not_le.mp hlt)
    nlinarith
  have hge : k ≤ floor + 1 := by
    by_contra hlt
    have hmul : (floor + 2) * den ≤ k * den := Nat.mul_le_mul_right den (not_le.mp hlt)
    nlinarith
  obtain rfl | rfl : k = floor ∨ k = floor + 1 := by omega
  · have hdown : 2 * rest < den := by nlinarith
    rw [if_pos hdown]
  · have hup : den < 2 * rest := by nlinarith
    rw [if_neg (by omega), if_pos hup]

/-- Rounding moves a magnitude by at most half a unit. -/
theorem rounded_near (scale : ℕ) (magnitude : ℚ≥0) :
    2 * rounded scale magnitude * magnitude.den ≤ 2 * (magnitude.num * scale) + magnitude.den ∧
      2 * (magnitude.num * scale) ≤
        2 * rounded scale magnitude * magnitude.den + magnitude.den := by
  have hsplit := Nat.div_add_mod' (magnitude.num * scale) magnitude.den
  have hrest := Nat.mod_lt (magnitude.num * scale) magnitude.den_pos
  simp only [rounded]
  generalize magnitude.num * scale / magnitude.den = floor at *
  generalize magnitude.num * scale % magnitude.den = rest at *
  rw [← hsplit]
  generalize magnitude.den = den at *
  split
  · constructor <;> nlinarith
  · split
    · constructor <;> nlinarith
    · -- In the middle either neighbour is half a unit away.
      have hhalf : den = 2 * rest := by omega
      obtain heven | hodd := Nat.mod_two_eq_zero_or_one floor
      · rw [heven]
        constructor <;> nlinarith
      · rw [hodd]
        constructor <;> nlinarith

theorem coe_mul_den (magnitude : ℚ≥0) : (magnitude : ℚ) * magnitude.den = magnitude.num := by
  exact_mod_cast congrArg (NNRat.cast (K := ℚ)) magnitude.mul_den_eq_num

theorem coe_den_pos (magnitude : ℚ≥0) : (0 : ℚ) < magnitude.den := by
  exact_mod_cast magnitude.den_pos

theorem le_rounded_of_le {n : ℕ} {magnitude : ℚ≥0} (h : (n / 100 : ℚ) ≤ magnitude) :
    n ≤ rounded 100 magnitude := by
  have hscaled := mul_le_mul_of_nonneg_right h (coe_den_pos magnitude).le
  rw [coe_mul_den] at hscaled
  have hgoal : (n * magnitude.den : ℚ) ≤ magnitude.num * 100 := by linarith
  exact le_rounded (by exact_mod_cast hgoal)

theorem rounded_le_of_le {n : ℕ} {magnitude : ℚ≥0} (h : (magnitude : ℚ) ≤ n / 100) :
    rounded 100 magnitude ≤ n := by
  have hscaled := mul_le_mul_of_nonneg_right h (coe_den_pos magnitude).le
  rw [coe_mul_den] at hscaled
  have hgoal : (magnitude.num * 100 : ℚ) ≤ n * magnitude.den := by linarith
  exact rounded_le (by exact_mod_cast hgoal)

/-- What is nearest to a multiple of 1/10000 is rounded to it. -/
theorem rounded_of_near {k : ℕ} {magnitude : ℚ≥0} (hlow : (k / 10000 : ℚ) < magnitude + 1 / 20000)
    (hhigh : (magnitude : ℚ) < k / 10000 + 1 / 20000) : rounded 10000 magnitude = k := by
  have hden := coe_den_pos magnitude
  have hnum := coe_mul_den magnitude
  apply rounded_of_close
  · have hscaled := mul_lt_mul_of_pos_right hlow hden
    have hgoal : (2 * k * magnitude.den : ℚ) < 2 * (magnitude.num * 10000) + magnitude.den := by
      rw [← hnum]
      linarith
    exact_mod_cast hgoal
  · have hscaled := mul_lt_mul_of_pos_right hhigh hden
    have hgoal : (2 * (magnitude.num * 10000) : ℚ) < 2 * k * magnitude.den + magnitude.den := by
      rw [← hnum]
      linarith
    exact_mod_cast hgoal

/-- The text of a value is at most 1/20000 away from it. -/
theorem abs_rounded_sub_le (magnitude : ℚ≥0) :
    |(rounded 10000 magnitude : ℚ) / 10000 - magnitude| ≤ 1 / 20000 := by
  obtain ⟨hlow, hhigh⟩ := rounded_near 10000 magnitude
  have hden := coe_den_pos magnitude
  have hnum := coe_mul_den magnitude
  have hlow' : (2 * rounded 10000 magnitude * magnitude.den : ℚ) ≤
      2 * (magnitude.num * 10000) + magnitude.den := by exact_mod_cast hlow
  have hhigh' : (2 * (magnitude.num * 10000) : ℚ) ≤
      2 * rounded 10000 magnitude * magnitude.den + magnitude.den := by exact_mod_cast hhigh
  rw [← hnum] at hlow' hhigh'
  have hlow'' : (2 * rounded 10000 magnitude : ℚ) ≤ 20000 * magnitude + 1 :=
    le_of_mul_le_mul_right (by linarith) hden
  have hhigh'' : (20000 * magnitude : ℚ) ≤ 2 * rounded 10000 magnitude + 1 :=
    le_of_mul_le_mul_right (by linarith) hden
  rw [abs_le]
  constructor <;> linarith

/-! ## Digits -/

theorem toNat_of_isDigit {c : Char} (h : c.isDigit) : 48 ≤ c.toNat ∧ c.toNat ≤ 57 := by
  simp only [Char.isDigit, Bool.and_eq_true, decide_eq_true_eq, UInt32.le_iff_toNat_le] at h
  exact h

theorem toNat_toUInt8 {c : Char} (h : c.toNat < 128) : c.toNat.toUInt8.toNat = c.toNat := by
  rw [Nat.toUInt8, UInt8.toNat_ofNat']
  omega

theorem digitsValue_encode {digits : PyString} (h : ∀ c ∈ digits, c.isDigit) :
    digitsValue (encode digits) = Nat.ofDigitChars 10 digits 0 := by
  have hascii : ∀ c ∈ digits, c.toNat < 128 := fun c hc ↦
    (toNat_of_isDigit (h c hc)).2.trans_lt (by decide)
  rw [encode_of_ascii hascii, digitsValue, List.foldl_map, Nat.ofDigitChars_eq_foldl]
  refine List.foldl_ext _ _ 0 fun n c hc ↦ ?_
  rw [toNat_toUInt8 (hascii c hc)]
  rfl

theorem isDigit_encode {digits : PyString} (h : ∀ c ∈ digits, c.isDigit) :
    ∀ b ∈ encode digits, isDigit b := by
  have hascii : ∀ c ∈ digits, c.toNat < 128 := fun c hc ↦
    (toNat_of_isDigit (h c hc)).2.trans_lt (by decide)
  rw [encode_of_ascii hascii]
  intro b hb
  obtain ⟨c, hc, rfl⟩ := List.mem_map.mp hb
  have hzero : (48 : UInt8).toNat = 48 := rfl
  have hnine : (57 : UInt8).toNat = 57 := rfl
  simp only [isDigit, UInt8.le_iff_toNat_le, toNat_toUInt8 (hascii c hc), hzero, hnine,
    decide_eq_true_eq]
  exact toNat_of_isDigit (h c hc)

/-! ## The value that the server reads -/

/-- A digit is neither white space nor a sign. -/
theorem splitSign_digit {b : UInt8} (h : isDigit b) (rest : Bytes) :
    splitSign ((b :: rest).dropWhile isSpace) = (false, b :: rest) := by
  have hzero : (48 : UInt8).toNat = 48 := rfl
  simp only [isDigit, decide_eq_true_eq, UInt8.le_iff_toNat_le, hzero] at h
  have hne {c : UInt8} (hc : c.toNat < 48) : b ≠ c := by
    rintro rfl
    exact absurd h.1 (not_le.mpr hc)
  have hspace : isSpace b = false := by
    have hhigh : ¬ b ≤ 13 := by
      have hthirteen : (13 : UInt8).toNat = 13 := rfl
      rw [UInt8.le_iff_toNat_le, hthirteen]
      omega
    simp [isSpace, hne (by decide : (32 : UInt8).toNat < 48), hhigh]
  rw [List.dropWhile_cons_of_neg (by simp [hspace]), splitSign,
    if_neg (hne (by decide)), if_neg (hne (by decide))]

/-- `atof` on a sign, digits, a point and digits. -/
theorem atof_of_digits {text : CString} {negative : Bool} {whole fraction : PyString}
    (htext : text.bytes = encode (sign negative ++ whole ++ ['.'] ++ fraction))
    (hne : whole ≠ []) (hwhole : ∀ c ∈ whole, c.isDigit) (hfraction : ∀ c ∈ fraction, c.isDigit) :
    atof text = (if negative then -1 else 1) *
      ((Nat.ofDigitChars 10 (whole ++ fraction) 0 : ℕ) / 10 ^ fraction.length) := by
  have hpoint : encode ['.'] = [46] := by decide
  have hwhole' := isDigit_encode hwhole
  have hfraction' := isDigit_encode hfraction
  have hlength : (encode fraction).length = fraction.length := by
    rw [encode_of_ascii fun c hc ↦ (toNat_of_isDigit (hfraction c hc)).2.trans_lt (by decide),
      List.length_map]
  have hwholeNe : encode whole ≠ [] := by
    rw [encode_of_ascii fun c hc ↦ (toNat_of_isDigit (hwhole c hc)).2.trans_lt (by decide)]
    simpa using hne
  have hsigned : splitSign (text.bytes.dropWhile isSpace) =
      (negative, encode whole ++ 46 :: encode fraction) := by
    rw [htext, encode_append, encode_append, encode_append, hpoint, List.append_assoc,
      List.append_assoc, List.singleton_append]
    cases negative with
    | false =>
      obtain ⟨b, rest, hb⟩ := List.exists_cons_of_ne_nil hwholeNe
      exact hb ▸ splitSign_digit (hwhole' b (hb ▸ List.mem_cons_self)) _
    | true => rfl
  have htake : (encode whole ++ 46 :: encode fraction).takeWhile isDigit = encode whole := by
    rw [List.takeWhile_append_of_pos hwhole', List.takeWhile_cons_of_neg (by decide),
      List.append_nil]
  have hdrop : (encode whole ++ 46 :: encode fraction).dropWhile isDigit =
      46 :: encode fraction := by
    rw [List.dropWhile_append_of_pos hwhole', List.dropWhile_cons_of_neg (by decide)]
  have hall : (encode fraction).takeWhile isDigit = encode fraction :=
    List.takeWhile_eq_self_iff.mpr hfraction'
  have hnothing : (encode fraction).dropWhile isDigit = [] :=
    List.dropWhile_eq_nil_iff.mpr hfraction'
  have hdigits : encode whole ++ encode fraction = encode (whole ++ fraction) :=
    (encode_append whole fraction).symm
  have hsome : encode (whole ++ fraction) ≠ [] := by
    rw [← hdigits]
    exact List.append_ne_nil_of_left_ne_nil hwholeNe _
  simp only [atof, hsigned, htake, hdrop, List.head?_cons, if_true, List.drop_one, List.tail_cons,
    hall, hnothing, hdigits, if_neg hsome, exponent, hlength, zpow_zero, mul_one,
    digitsValue_encode (List.forall_mem_append.mpr ⟨hwhole, hfraction⟩)]
  rw [zpow_neg, zpow_natCast, ← div_eq_mul_inv]
  cases negative with
  | false => simp
  | true => simp

/-- The server reads the value that the client has rounded to. -/
theorem atof_of_fixed4 (negative : Bool) (magnitude : ℚ≥0) {text : CString}
    (htext : text.bytes = encode (fixed4 (.finite negative magnitude))) :
    atof text = (if negative then -1 else 1) * ((rounded 10000 magnitude : ℚ) / 10000) := by
  set n := rounded 10000 magnitude with hn
  have hdigit (m : ℕ) : ∀ c ∈ Nat.toDigits 10 m, c.isDigit := fun c hc ↦
    Nat.isDigit_of_mem_toDigits (by decide) (by decide) hc
  have hsingle (m : ℕ) : Nat.toDigits 10 (m % 10) = [(m % 10).digitChar] :=
    Nat.toDigits_of_lt_base (Nat.mod_lt m (by decide))
  have hfixed : fixed4 (.finite negative magnitude) =
      sign negative ++ Nat.toDigits 10 (n / 10000) ++ ['.'] ++ (Nat.toDigits 10 (n / 1000 % 10) ++
        Nat.toDigits 10 (n / 100 % 10) ++ Nat.toDigits 10 (n / 10 % 10) ++
        Nat.toDigits 10 (n % 10)) := by
    simp only [fixed4, List.append_assoc, hn]
  have hfraction : ∀ c ∈ Nat.toDigits 10 (n / 1000 % 10) ++ Nat.toDigits 10 (n / 100 % 10) ++
      Nat.toDigits 10 (n / 10 % 10) ++ Nat.toDigits 10 (n % 10), c.isDigit := by
    simp only [List.forall_mem_append]
    exact ⟨⟨⟨hdigit _, hdigit _⟩, hdigit _⟩, hdigit _⟩
  rw [hfixed] at htext
  rw [atof_of_digits htext Nat.toDigits_ne_nil (hdigit _) hfraction]
  have hvalue : Nat.ofDigitChars 10 (Nat.toDigits 10 (n / 10000) ++
      (Nat.toDigits 10 (n / 1000 % 10) ++ Nat.toDigits 10 (n / 100 % 10) ++
        Nat.toDigits 10 (n / 10 % 10) ++ Nat.toDigits 10 (n % 10))) 0 = n := by
    have hlt (m : ℕ) : m % 10 < 10 := Nat.mod_lt m (by decide)
    rw [Nat.ofDigitChars_append, Nat.ofDigitChars_ten_toDigits]
    simp only [hsingle, List.cons_append, List.nil_append,
      Nat.ofDigitChars_cons_digitChar_of_lt_ten (hlt _), Nat.ofDigitChars_nil]
    omega
  have hlength : (Nat.toDigits 10 (n / 1000 % 10) ++ Nat.toDigits 10 (n / 100 % 10) ++
        Nat.toDigits 10 (n / 10 % 10) ++ Nat.toDigits 10 (n % 10)).length = 4 := by
    simp only [hsingle, List.length_append, List.length_singleton]
  rw [hvalue, hlength]
  norm_num

end IotMonitoring.Sensors.SensorBase
