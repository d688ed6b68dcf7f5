import IotMonitoring.Server.AlertLine
import IotMonitoring.Server.Thresholds
import IotMonitoring.Text.Charset
import IotMonitoring.Text.Fields
import Mathlib.Data.Rat.Floor
import Mathlib.Tactic.Linarith
import Mathlib.Tactic.Ring

/-!
# The severity shown on the dashboard

The alert line does not tell the level that the server has assigned, so `dashboard.js` works it out
again from the value in the line, which is rounded to two decimals, and from a threshold table of
its own. The two agree except just above the critical bounds of temperature and vibration, where
rounding hides the excess, and on high energy values, which only the dashboard calls critical.
-/

namespace IotMonitoring.Operator.Dashboard

open Text Machine Server Server.Protocol Server.SensorManager Server.AlertEngine
  Server.HandleClient

/-- A JavaScript string. -/
abbrev JsString := List Char

/-! ## Numbers -/

/-- A JavaScript number, with exact rationals as its finite values. -/
inductive Number where
  | nan
  | infinite (negative : Bool)
  | finite (value : ℚ)

/-- `number > bound`. -/
def Number.greater : Number → ℚ → Bool
  | nan, _ => false
  | infinite negative, _ => !negative
  | finite value, bound => bound < value

/-- White space and line terminators. -/
def isWhite (c : Char) : Bool :=
  (9 ≤ c.toNat ∧ c.toNat ≤ 13) ∨ c.toNat = 32 ∨ c.toNat = 0xA0 ∨ c.toNat = 0x1680 ∨
    (0x2000 ≤ c.toNat ∧ c.toNat ≤ 0x200A) ∨ c.toNat = 0x2028 ∨ c.toNat = 0x2029 ∨
    c.toNat = 0x202F ∨ c.toNat = 0x205F ∨ c.toNat = 0x3000 ∨ c.toNat = 0xFEFF

/-- An optional sign and the rest. -/
def splitSign : JsString → Bool × JsString
  | '-' :: rest => (true, rest)
  | '+' :: rest => (false, rest)
  | text => (false, text)

/-- The exponent behind the digits, zero where there is none. -/
def exponent : JsString → ℤ
  | c :: rest =>
    let signed := splitSign rest
    let digits := signed.2.takeWhile Char.isDigit
    if (c = 'e' ∨ c = 'E') ∧ digits ≠ [] then
      if signed.1 then -(Nat.ofDigitChars 10 digits 0 : ℤ) else Nat.ofDigitChars 10 digits 0
    else 0
  | [] => 0

/-- `parseFloat`: the longest front part that is a decimal literal. -/
def parseFloat (text : JsString) : Number :=
  let signed := splitSign (text.dropWhile isWhite)
  if "Infinity".toList.isPrefixOf signed.2 then .infinite signed.1
  else
    let whole := signed.2.takeWhile Char.isDigit
    let rest := signed.2.dropWhile Char.isDigit
    let point := rest.head? = some '.'
    let fraction := if point then (rest.drop 1).takeWhile Char.isDigit else []
    let behind := if point then (rest.drop 1).dropWhile Char.isDigit else rest
    if whole ++ fraction = [] then .nan
    else
      let magnitude := (Nat.ofDigitChars 10 (whole ++ fraction) 0 : ℚ) *
        (10 : ℚ) ^ (-(fraction.length : ℤ)) * (10 : ℚ) ^ exponent behind
      .finite (if signed.1 then -magnitude else magnitude)

/-! ## The dashboard -/

/-- An entry of `THRESHOLDS`. -/
structure Thresholds where
  warning : ℚ
  critical : ℚ

/-- `THRESHOLDS[type]`. -/
def thresholdsOf (type : JsString) : Option Thresholds :=
  if type = "temperature".toList then some ⟨30, 50⟩
  else if type = "vibration".toList then some ⟨5, 10⟩
  else if type = "energy".toList then some ⟨500, 800⟩
  else none

/-- `level`. -/
inductive Level where
  | warning
  | critical
deriving DecidableEq

/-- What `addAlert` shows of an alert, without the time. -/
structure AlertItem where
  level : Level
  sensorId : JsString
  type : JsString
  value : JsString
  unit : JsString

/-- `parts[k]?.trim() ?? otherwise`. -/
def partAt (parts : List JsString) (k : ℕ) (otherwise : JsString) : JsString :=
  match parts[k]? with
  | some part => trimWith isWhite part
  | none => otherwise

/-- `addAlert`. -/
def addAlert (rawLine : JsString) : AlertItem :=
  let data := if "ALERTA ".toList.isPrefixOf rawLine then rawLine.drop 7 else rawLine
  let parts := data.splitOn ','
  let type := partAt parts 1 ['?']
  let value := partAt parts 2 ['?']
  { sensorId := partAt parts 0 ['?']
    type := type
    value := value
    unit := partAt parts 3 []
    level :=
      match thresholdsOf type with
      | some thresh => if (parseFloat value).greater thresh.critical then .critical else .warning
      | none => .warning }

/-! ## Rendered values -/

theorem character_of_digit {c : Char} (h : c.isDigit) : character c.toNat.toUInt8 = c := by
  have hcode : c.toNat ≤ 57 := by
    simp only [Char.isDigit, Bool.and_eq_true, decide_eq_true_eq, UInt32.le_iff_toNat_le] at h
    exact h.2
  have hbyte : c.toNat.toUInt8.toNat = c.toNat := by
    rw [UInt8.toNat_ofNat']
    omega
  rw [character, hbyte, Char.ofNat_toNat]

theorem map_character_decimalDigits (n : ℕ) :
    (decimalDigits n).map character = Nat.toDigits 10 n := by
  rw [decimalDigits, List.map_map]
  refine (List.map_congr_left fun c hc ↦ ?_).trans (List.map_id _)
  exact character_of_digit (Nat.isDigit_of_mem_toDigits (by decide) (by decide) hc)

/-- The characters of a rendered value. -/
theorem map_character_fixed2 (q : ℚ) :
    (CDouble.fixed2 q).bytes.map character =
      (if q < 0 then ['-'] else []) ++ (Nat.toDigits 10 (Rational.hundredths q / 100) ++ '.' ::
        (Nat.toDigits 10 (Rational.hundredths q % 100 / 10) ++
          Nat.toDigits 10 (Rational.hundredths q % 10))) := by
  have hsign : (if q < 0 then ascii "-" else []).map character = if q < 0 then ['-'] else [] := by
    split <;> decide
  have hpoint : (ascii ".").map character = ['.'] := by decide
  have hbytes : (CDouble.fixed2 q).bytes = Rational.fixed2Bytes q := rfl
  simp only [hbytes, Rational.fixed2Bytes, List.map_append, hsign, hpoint,
    map_character_decimalDigits, List.append_assoc, List.cons_append, List.nil_append]

/-- The digits behind the point follow those in front of it. -/
theorem ofDigitChars_hundredths (h : ℕ) :
    Nat.ofDigitChars 10 (Nat.toDigits 10 (h / 100) ++
      (Nat.toDigits 10 (h % 100 / 10) ++ Nat.toDigits 10 (h % 10))) 0 = h := by
  have htens : h % 100 / 10 < 10 := by omega
  have hones : h % 10 < 10 := by omega
  rw [Nat.ofDigitChars_append, Nat.ofDigitChars_ten_toDigits, Nat.toDigits_of_lt_base htens,
    Nat.toDigits_of_lt_base hones, List.singleton_append,
    Nat.ofDigitChars_cons_digitChar_of_lt_ten htens,
    Nat.ofDigitChars_cons_digitChar_of_lt_ten hones, Nat.ofDigitChars_nil]
  omega

theorem digit_facts {c : Char} (h : c.isDigit) :
    isWhite c = false ∧ c ≠ '-' ∧ c ≠ '+' ∧ c ≠ 'I' := by
  simp only [Char.isDigit, Bool.and_eq_true, decide_eq_true_eq, UInt32.le_iff_toNat_le] at h
  have hlow : 48 ≤ c.toNat := h.1
  have hhigh : c.toNat ≤ 57 := h.2
  refine ⟨?_, ?_, ?_, ?_⟩
  · rw [isWhite, decide_eq_false_iff_not]
    omega
  · rintro rfl
    exact absurd hlow (by decide)
  · rintro rfl
    exact absurd hlow (by decide)
  · rintro rfl
    exact absurd hhigh (by decide)

/-- A decimal without exponent is read as its value. -/
theorem parseFloat_decimal (negative : Bool) {whole fraction : JsString} (hne : whole ≠ [])
    (hwhole : ∀ c ∈ whole, c.isDigit) (hfraction : ∀ c ∈ fraction, c.isDigit) :
    parseFloat ((if negative then ['-'] else []) ++ (whole ++ '.' :: fraction)) =
      .finite (if negative then
          -((Nat.ofDigitChars 10 (whole ++ fraction) 0 : ℚ) * 10 ^ (-(fraction.length : ℤ)))
        else (Nat.ofDigitChars 10 (whole ++ fraction) 0 : ℚ) * 10 ^ (-(fraction.length : ℤ))) := by
  obtain ⟨first, rest, rfl⟩ := List.exists_cons_of_ne_nil hne
  obtain ⟨hwhite, hminus, hplus, hletter⟩ := digit_facts (hwhole first List.mem_cons_self)
  have hsigned : splitSign (((if negative then ['-'] else []) ++
      (first :: rest ++ '.' :: fraction)).dropWhile isWhite) =
        (negative, first :: rest ++ '.' :: fraction) := by
    cases negative with
    | true => rfl
    | false =>
      have hunsigned : splitSign (first :: (rest ++ '.' :: fraction)) =
          (false, first :: (rest ++ '.' :: fraction)) := by
        unfold splitSign
        split
        · rename_i heq
          exact absurd (List.cons.inj heq).1 hminus
        · rename_i heq
          exact absurd (List.cons.inj heq).1 hplus
        · rfl
      simpa [hwhite] using hunsigned
  have hinfinity : "Infinity".toList.isPrefixOf (first :: rest ++ '.' :: fraction) = false := by
    have hname : "Infinity".toList = 'I' :: "nfinity".toList := rfl
    rw [hname, List.cons_append, List.isPrefixOf_cons_cons, beq_false_of_ne hletter.symm,
      Bool.false_and]
  have htake : (first :: rest ++ '.' :: fraction).takeWhile Char.isDigit = first :: rest := by
    rw [List.takeWhile_append_of_pos hwhole]
    simp
  have hdrop : (first :: rest ++ '.' :: fraction).dropWhile Char.isDigit = '.' :: fraction := by
    rw [List.dropWhile_append_of_pos hwhole]
    rfl
  have htakeFraction : fraction.takeWhile Char.isDigit = fraction :=
    List.takeWhile_eq_self_iff.mpr hfraction
  have hdropFraction : fraction.dropWhile Char.isDigit = [] :=
    List.dropWhile_eq_nil_iff.mpr hfraction
  simp only [parseFloat, hsigned, hinfinity, htake, hdrop]
  simp [htakeFraction, hdropFraction, exponent]

/-- A rendered value is read as the rounded value. -/
theorem parseFloat_fixed2 (q : ℚ) :
    parseFloat ((CDouble.fixed2 q).bytes.map character) =
      .finite (if q < 0 then -(Rational.hundredths q / 100 : ℚ)
        else Rational.hundredths q / 100) := by
  have htens : Rational.hundredths q % 100 / 10 < 10 := by omega
  have hones : Rational.hundredths q % 10 < 10 := by omega
  have hdigits (n : ℕ) : ∀ c ∈ Nat.toDigits 10 n, c.isDigit := fun c hc ↦
    Nat.isDigit_of_mem_toDigits (by decide) (by decide) hc
  have hread := parseFloat_decimal (decide (q < 0)) Nat.toDigits_ne_nil
    (hdigits (Rational.hundredths q / 100))
    (List.forall_mem_append.mpr ⟨hdigits (Rational.hundredths q % 100 / 10),
      hdigits (Rational.hundredths q % 10)⟩)
  have hlength : (Nat.toDigits 10 (Rational.hundredths q % 100 / 10) ++
      Nat.toDigits 10 (Rational.hundredths q % 10)).length = 2 := by
    rw [Nat.toDigits_of_lt_base htens, Nat.toDigits_of_lt_base hones]
    rfl
  have hscale : (Rational.hundredths q : ℚ) * 10 ^ (-((2 : ℕ) : ℤ)) =
      Rational.hundredths q / 100 := by
    norm_num
    ring
  rw [map_character_fixed2]
  simp only [ofDigitChars_hundredths, hlength, hscale, decide_eq_true_eq] at hread
  exact hread

/-- Rounding to an even number of hundredths needs more than half of one. -/
theorem lt_round_iff {scaled d : ℕ} (hd : 0 < d) (m : ℕ) :
    (100 * m < if 2 * (scaled % d) < d then scaled / d
      else if d < 2 * (scaled % d) then scaled / d + 1 else scaled / d + scaled / d % 2) ↔
      (200 * m + 1) * d < 2 * scaled := by
  have hdiv := Nat.div_add_mod scaled d
  have hmod := Nat.mod_lt scaled hd
  generalize scaled / d = floor at hdiv ⊢
  generalize scaled % d = rest at hdiv hmod ⊢
  obtain hlow | rfl | hhigh := lt_trichotomy floor (100 * m)
  · have hmul := Nat.mul_le_mul_left d (Nat.succ_le_of_lt hlow)
    have hright : ¬ (200 * m + 1) * d < 2 * scaled := by nlinarith
    refine iff_of_false ?_ hright
    split_ifs <;> omega
  · have heven : 100 * m % 2 = 0 := by omega
    rw [heven]
    split_ifs with hdown hup
    · exact iff_of_false (by omega) (by nlinarith)
    · exact iff_of_true (by omega) (by nlinarith)
    · exact iff_of_false (by omega) (by nlinarith)
  · have hmul := Nat.mul_le_mul_left d (Nat.succ_le_of_lt hhigh)
    have hright : (200 * m + 1) * d < 2 * scaled := by nlinarith
    refine iff_of_true ?_ hright
    split_ifs <;> omega

theorem lt_hundredths_iff {q : ℚ} (hq : 0 ≤ q) (m : ℕ) :
    100 * m < Rational.hundredths q ↔ (200 * m + 1 : ℚ) / 200 < q := by
  have hnum : (q.num.natAbs : ℤ) = q.num := Int.natAbs_of_nonneg (Rat.num_nonneg.mpr hq)
  have hq' : q = (q.num.natAbs : ℚ) / q.den := by
    conv_lhs => rw [← Rat.num_div_den q, ← hnum]
    rfl
  have hden : (0 : ℚ) < q.den := by exact_mod_cast q.den_pos
  calc
    100 * m < Rational.hundredths q ↔ (200 * m + 1) * q.den < 2 * (q.num.natAbs * 100) :=
      lt_round_iff q.den_pos m
    _ ↔ ((200 * m + 1 : ℕ) * q.den : ℚ) < (2 * (q.num.natAbs * 100) : ℕ) := by norm_cast
    _ ↔ (200 * m + 1 : ℚ) / 200 < q := by
      conv_rhs => rw [hq']
      rw [div_lt_div_iff₀ (by norm_num) hden]
      push_cast
      constructor <;> intro h <;> linarith

/-- The dashboard takes a rendered value to exceed a whole bound when the exact value exceeds it by
more than half a hundredth. -/
theorem greater_fixed2_iff (q : ℚ) (m : ℕ) :
    (parseFloat ((CDouble.fixed2 q).bytes.map character)).greater m ↔
      (200 * m + 1 : ℚ) / 200 < q := by
  have hbound : (0 : ℚ) ≤ (200 * m + 1) / 200 := by positivity
  rw [parseFloat_fixed2]
  by_cases hq : q < 0
  · have hnegative : -(Rational.hundredths q / 100 : ℚ) ≤ 0 := by
      rw [neg_nonpos]
      positivity
    have hleft : ¬ (m : ℚ) < -(Rational.hundredths q / 100 : ℚ) :=
      not_lt.mpr (hnegative.trans (Nat.cast_nonneg m))
    rw [if_pos hq, Number.greater, decide_eq_true_eq]
    exact iff_of_false hleft (not_lt.mpr (hq.le.trans hbound))
  · rw [if_neg hq, Number.greater, decide_eq_true_eq, ← lt_hundredths_iff (not_lt.mp hq) m,
      lt_div_iff₀ (by norm_num)]
    norm_cast
    rw [Nat.mul_comm]

/-! ## The alert line -/

/-- The types that the dashboard and the server know. -/
inductive Kind where
  | temperature
  | vibration
  | energy

namespace Kind

def name : Kind → String
  | temperature => "temperature"
  | vibration => "vibration"
  | energy => "energy"

/-- The critical bound of the dashboard. -/
def critical : Kind → ℕ
  | temperature => 50
  | vibration => 10
  | energy => 800

/-- The values on which the two severities agree. -/
def Agrees : Kind → ℚ → Prop
  | temperature, value => value ≤ 50 ∨ 10001 / 200 < value
  | vibration, value => value ≤ 10 ∨ 2001 / 200 < value
  | energy, value => value ≤ 160001 / 200

/-- The values that the server calls critical. -/
def ServerCritical : Kind → ℚ → Prop
  | temperature, value => 50 < value
  | vibration, value => 10 < value
  | energy, _ => False

end Kind

/-- A type name is a field of its own with an entry in the table. -/
theorem name_facts (kind : Kind) :
    (∀ b ∈ (CString.lit kind.name).bytes, b < 128) ∧
      ',' ∉ (CString.lit kind.name).bytes.map character ∧
      CleanEdges isWhite ((CString.lit kind.name).bytes.map character) ∧
      ∃ warning, thresholdsOf ((CString.lit kind.name).bytes.map character) =
        some ⟨warning, kind.critical⟩ := by
  have hall : (CString.lit kind.name).bytes.all (· < 128) ∧
      ',' ∉ (CString.lit kind.name).bytes.map character ∧
      ((CString.lit kind.name).bytes.map character).all (! isWhite ·) := by
    cases kind <;> decide
  obtain ⟨hascii, hcomma, hwhite⟩ := hall
  refine ⟨by simpa using hascii, hcomma, cleanEdges_of_forall (by simpa using hwhite), ?_⟩
  cases kind with
  | temperature => exact ⟨30, rfl⟩
  | vibration => exact ⟨5, rfl⟩
  | energy => exact ⟨500, rfl⟩

/-- A rendered value is a field of its own. -/
theorem fixed2_facts (value : ℚ) :
    (∀ b ∈ (CDouble.fixed2 value).bytes, b < 128) ∧
      ',' ∉ (CDouble.fixed2 value).bytes.map character ∧
      CleanEdges isWhite ((CDouble.fixed2 value).bytes.map character) := by
  have hrange := fun b hb ↦ isNumeral_range (CDouble.fixed2_numeral value b hb)
  refine ⟨fun b hb ↦ UInt8.lt_iff_toNat_lt.mpr (hrange b hb).2.1, fun hmem ↦ ?_,
    cleanEdges_of_forall fun c hc ↦ ?_⟩
  · obtain ⟨b, hb, hcomma⟩ := List.mem_map.mp hmem
    have hcode := toNat_character b
    rw [hcomma] at hcode
    exact absurd (hcode ▸ (hrange b hb).1) (by decide)
  · obtain ⟨b, hb, rfl⟩ := List.mem_map.mp hc
    obtain ⟨hlow, hhigh, -⟩ := hrange b hb
    rw [isWhite, decide_eq_false_iff_not, toNat_character]
    omega

theorem decode_alertText (charset : Charset) (sensorId unit : CString) (kind : Kind) (value : ℚ) :
    charset.decode (alertText sensorId (.lit kind.name) value unit).bytes =
      "ALERTA ".toList ++ (charset.decode sensorId.bytes ++ ',' ::
        ((CString.lit kind.name).bytes.map character ++ ',' ::
          ((CDouble.fixed2 value).bytes.map character ++ ',' :: charset.decode unit.bytes))) := by
  have hascii : (CString.lit "ALERTA ").bytes.all (· < 128) := by decide
  have hkeyword : (CString.lit "ALERTA ").bytes.map character = "ALERTA ".toList := by decide
  have hcomma : (CString.lit ",").bytes = [44] := by decide
  have hcommaChar : character 44 = ',' := by decide
  simp only [alertText, CString.bytes_append, hcomma, List.append_assoc, List.cons_append,
    List.nil_append]
  rw [charset.decode_append (by simpa using hascii), hkeyword,
    charset.decode_ascii _ 44 _ (by decide), charset.decode_ascii _ 44 _ (by decide),
    charset.decode_ascii _ 44 _ (by decide), hcommaChar,
    charset.decode_of_ascii (name_facts kind).1, charset.decode_of_ascii (fixed2_facts value).1]

/-- The level of an alert line is worked out from its value. -/
theorem level_alertText (charset : Charset) {sensorId : CString} (hid : 44 ∉ sensorId.bytes)
    (kind : Kind) (value : ℚ) (unit : CString) :
    (addAlert (charset.decode (alertText sensorId (.lit kind.name) value unit).bytes)).level =
        .critical ↔
      (200 * kind.critical + 1 : ℚ) / 200 < value := by
  obtain ⟨-, hnameComma, hnameEdges, warning, hentry⟩ := name_facts kind
  obtain ⟨-, hvalueComma, hvalueEdges⟩ := fixed2_facts value
  have hidComma : ',' ∉ charset.decode sensorId.bytes := fun h ↦
    hid ((charset.mem_decode_iff (by decide) sensorId.bytes).mp h)
  have hparts : (charset.decode sensorId.bytes ++ ',' ::
      ((CString.lit kind.name).bytes.map character ++ ',' ::
        ((CDouble.fixed2 value).bytes.map character ++ ',' ::
          charset.decode unit.bytes))).splitOn ',' =
      charset.decode sensorId.bytes :: (CString.lit kind.name).bytes.map character ::
        (CDouble.fixed2 value).bytes.map character ::
          (charset.decode unit.bytes).splitOn ',' := by
    rw [List.splitOn_append_cons_self_of_not_mem hidComma,
      List.splitOn_append_cons_self_of_not_mem hnameComma,
      List.splitOn_append_cons_self_of_not_mem hvalueComma]
  have hlevel (data : JsString) : (addAlert ("ALERTA ".toList ++ data)).level =
      match thresholdsOf (partAt (data.splitOn ',') 1 ['?']) with
      | some thresh =>
        if (parseFloat (partAt (data.splitOn ',') 2 ['?'])).greater thresh.critical then .critical
        else .warning
      | none => .warning := rfl
  rw [decode_alertText, hlevel, hparts]
  simp only [partAt, List.getElem?_cons_succ, List.getElem?_cons_zero,
    trimWith_eq_self hnameEdges, trimWith_eq_self hvalueEdges, hentry]
  rw [← greater_fixed2_iff value kind.critical]
  split <;> simp [*]

/-! ## The alerts of the server -/

variable {κ : Type}

/-- Of the rules of a type, those of the critical level decide. -/
theorem critical_rule_iff (kind : Kind) (value : ℚ) :
    (∃ rule ∈ startupRules ℚ, rule.Fires (.lit kind.name) value ∧ rule.level = .critical) ↔
      kind.ServerCritical value := by
  have hgreater (bound : ℕ) : AlertLog.Holds (.lit ">") value (CDouble.ofNat bound) ↔
      (bound : ℚ) < value := by
    have hlt : CString.lit ">" ≠ .lit "<" := by decide
    have hge : CString.lit ">" ≠ .lit ">=" := by decide
    have hle : CString.lit ">" ≠ .lit "<=" := by decide
    simp only [AlertLog.Holds, hlt, hge, hle, true_and, false_and, or_false]
    exact decide_eq_true_iff
  have hcritical : (∃ rule ∈ startupRules ℚ, rule.Fires (.lit kind.name) value ∧
      rule.level = .critical) ↔
      ((CString.lit "temperature").cut 15 = (CString.lit kind.name).cut 15 ∧ (50 : ℕ) < value) ∨
        ((CString.lit "vibration").cut 15 = (CString.lit kind.name).cut 15 ∧
          (10 : ℕ) < value) := by
    simp [startupRules, AlertLog.Rule.Fires, hgreater]
  rw [hcritical]
  cases kind with
  | temperature =>
    have hother : (CString.lit "vibration").cut 15 ≠ (CString.lit "temperature").cut 15 := by decide
    simp [Kind.name, Kind.ServerCritical, hother]
  | vibration =>
    have hother : (CString.lit "temperature").cut 15 ≠ (CString.lit "vibration").cut 15 := by decide
    simp [Kind.name, Kind.ServerCritical, hother]
  | energy =>
    have htemperature : (CString.lit "temperature").cut 15 ≠ (CString.lit "energy").cut 15 := by
      decide
    have hvibration : (CString.lit "vibration").cut 15 ≠ (CString.lit "energy").cut 15 := by decide
    simp [Kind.name, Kind.ServerCritical, htemperature, hvibration]

/-- A check in a reachable state records a critical alert when the value is critical. -/
theorem critical_call_iff {now : ℤ} {s : ServerState ℚ κ}
    (hreach : (server ℚ κ).Reachable (serverInit now) s) (time : Fin maxAlerts → ℤ)
    (sensorId : CString) (kind : Kind) (value : ℚ) :
    (∃ call ∈ (checkMeasurement time sensorId (.lit kind.name) value s.engine).2,
        call.level = .critical) ↔ kind.ServerCritical value := by
  have hcalls := AlertLog.calls_of_stores (stores_of_reachable hreach) time sensorId
    (.lit kind.name) value
  have hlevel (call : AlertCall ℚ) : (AlertLog.callRecord call).level = call.level := rfl
  calc
    _ ↔ ∃ record ∈ (checkMeasurement time sensorId (.lit kind.name) value s.engine).2.map
          AlertLog.callRecord, record.level = .critical := by
      simp only [List.mem_map, exists_exists_and_eq_and, hlevel]
    _ ↔ ∃ rule ∈ startupRules ℚ, rule.Fires (.lit kind.name) value ∧ rule.level = .critical := by
      rw [hcalls, AlertLog.firedRecords]
      simp only [List.mem_map, List.mem_filter, decide_eq_true_eq, exists_exists_and_eq_and]
      simp only [and_assoc]
    _ ↔ kind.ServerCritical value := critical_rule_iff kind value

/-! ## Agreement -/

/-- Two bounds on a value decide alike except between them. -/
theorem bounds_agree_iff {low high value : ℚ} (h : low ≤ high) :
    (high < value ↔ low < value) ↔ value ≤ low ∨ high < value := by
  constructor
  · intro hiff
    obtain hle | hlt := le_or_gt value low
    · exact .inl hle
    · exact .inr (hiff.mpr hlt)
  · rintro (hle | hlt)
    · exact iff_of_false (not_lt.mpr (hle.trans h)) (not_lt.mpr hle)
    · exact iff_of_true hlt (h.trans_lt hlt)

theorem agrees_iff (kind : Kind) (value : ℚ) :
    ((200 * kind.critical + 1 : ℚ) / 200 < value ↔ kind.ServerCritical value) ↔
      kind.Agrees value := by
  cases kind with
  | temperature =>
    have hbound : (200 * (Kind.temperature.critical : ℚ) + 1) / 200 = 10001 / 200 := by
      norm_num [Kind.critical]
    rw [hbound]
    exact bounds_agree_iff (by norm_num)
  | vibration =>
    have hbound : (200 * (Kind.vibration.critical : ℚ) + 1) / 200 = 2001 / 200 := by
      norm_num [Kind.critical]
    rw [hbound]
    exact bounds_agree_iff (by norm_num)
  | energy =>
    have hbound : (200 * (Kind.energy.critical : ℚ) + 1) / 200 = 160001 / 200 := by
      norm_num [Kind.critical]
    rw [hbound, Kind.ServerCritical, iff_false, not_lt, Kind.Agrees]

/-- In a reachable state, the dashboard takes a whole alert line of a known type, with no comma in
its id, to be critical exactly when one of the alerts recorded for it is, if and only if the value
is not in the interval of disagreement. -/
theorem level_agrees_iff (charset : Charset) {now : ℤ} {s : ServerState ℚ κ}
    (hreach : (server ℚ κ).Reachable (serverInit now) s) {env : Env} {client : Client κ}
    {chunk : Chunk} {text : CString}
    (hbroadcast : (respond env client chunk s).broadcast = some (text ++ crlf)) :
    ∃ sensorId valueText unit pointer,
      Broadcasts env chunk.message.argStrings s (respond env client chunk s) sensorId valueText
        unit pointer (text ++ crlf) ∧
      ∀ kind : Kind, typeAt s.sensors pointer = .lit kind.name → 44 ∉ sensorId.bytes →
        (((addAlert (charset.decode text.bytes)).level = .critical ↔
          ∃ call ∈ (checkMeasurement env.alertTime sensorId (typeAt s.sensors pointer)
            (CDouble.atof valueText) s.engine).2, call.level = .critical) ↔
          kind.Agrees (CDouble.atof valueText)) := by
  obtain ⟨-, sensorId, valueText, unit, pointer, h⟩ := broadcasts_of_respond hbroadcast
  refine ⟨sensorId, valueText, unit, pointer, h, fun kind htype hid ↦ ?_⟩
  have hfits := (h.crlf_suffix_iff hreach).mp (List.suffix_append _ _)
  have htext : text = alertText sensorId (.lit kind.name) (CDouble.atof valueText : ℚ) unit := by
    have hline := h.line_eq.trans ((alertLine_eq_iff _ _ _ _).mpr hfits)
    rw [htype] at hline
    exact CString.ext (List.append_cancel_right (congrArg CString.bytes hline))
  rw [htext, htype, level_alertText charset hid, critical_call_iff hreach, agrees_iff]

/-- A registered sensor and a measurement of 60 degrees, read as US-ASCII. -/
theorem level_agrees_iff_sixty_degrees :
    ∃ s : ServerState ℚ ℕ, (server ℚ ℕ).run (serverInit 0)
        [.request sensorEnv ⟨5, 0⟩ registerChunk] = some s ∧
      ∃ text, (respond sensorEnv ⟨5, 0⟩ (measurementChunk 1) s).broadcast = some (text ++ crlf) ∧
        ∃ sensorId valueText unit pointer,
          Broadcasts sensorEnv (measurementChunk 1).message.argStrings s
            (respond sensorEnv ⟨5, 0⟩ (measurementChunk 1) s) sensorId valueText unit pointer
            (text ++ crlf) ∧
          ∀ kind : Kind, typeAt s.sensors pointer = .lit kind.name → 44 ∉ sensorId.bytes →
            (((addAlert (Charset.usAscii.decode text.bytes)).level = .critical ↔
              ∃ call ∈ (checkMeasurement sensorEnv.alertTime sensorId (typeAt s.sensors pointer)
                (CDouble.atof valueText) s.engine).2, call.level = .critical) ↔
              kind.Agrees (CDouble.atof valueText)) := by
  obtain ⟨s, hrun, hs⟩ : ∃ s, (server ℚ ℕ).run (serverInit 0)
      [.request sensorEnv ⟨5, 0⟩ registerChunk] = some s ∧
        (respond sensorEnv ⟨5, 0⟩ (measurementChunk 1) s).broadcast =
          some (.lit "ALERTA s1,temperature,60.00,C" ++ crlf) :=
    ⟨_, rfl, by decide +kernel⟩
  exact ⟨s, hrun, _, hs, level_agrees_iff Charset.usAscii ⟨_, hrun⟩ hs⟩

/-- A sensor of the energy type. -/
def registerEnergyChunk : Chunk := ⟨ascii "REGISTER_SENSOR e1 energy\r\n", by decide, by decide⟩

/-- A measurement of 900 kilowatt hours. -/
def highEnergyChunk : Chunk := ⟨ascii "MEASUREMENT e1 900 kWh\r\n", by decide, by decide⟩

/-- An energy of 900 is critical on the dashboard and a warning on the server. -/
theorem not_level_agrees_of_high_energy :
    ∃ s : ServerState ℚ ℕ, (server ℚ ℕ).run (serverInit 0)
        [.request sensorEnv ⟨5, 0⟩ registerEnergyChunk] = some s ∧
      (respond sensorEnv ⟨5, 0⟩ highEnergyChunk s).broadcast =
        some (.lit "ALERTA e1,energy,900.00,kWh" ++ crlf) ∧
      (checkMeasurement sensorEnv.alertTime (.lit "e1") (.lit "energy") (CDouble.atof (.lit "900"))
        s.engine).2.map AlertCall.level = [.warning] ∧
      (addAlert (Charset.usAscii.decode (CString.lit "ALERTA e1,energy,900.00,kWh").bytes)).level =
        .critical :=
  ⟨_, rfl, by decide +kernel, by decide +kernel, by decide +kernel⟩

end IotMonitoring.Operator.Dashboard
