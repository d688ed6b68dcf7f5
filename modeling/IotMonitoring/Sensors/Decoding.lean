import IotMonitoring.Sensors.SensorBase
import IotMonitoring.Server.Grammar

/-!
# What the server decodes of a sensor's messages

A message that consists of a command name and words of visible characters is decoded into these
words. All fields of the client's messages are such words, the id only if `$` has matched at its
very end: an id that ends with a newline is accepted by `ID_PATTERN` too, and the parser takes the
newline for the end of the line.
-/

namespace IotMonitoring.Sensors.SensorBase

open Text Server.Protocol
open Auth.AuthServer (PyString encode encode_append encode_of_ascii)

/-- The parser makes of the text this command and exactly these arguments. -/
def Decodes (text : Bytes) (type : CommandType) (args : List Bytes) : Prop :=
  ∃ msg, protocolParse text = some msg ∧ msg.type = type ∧
    msg.argStrings.map CString.bytes = args

/-! ## Words -/

/-- A word of printable ASCII characters other than the space. -/
def Visible (word : Bytes) : Prop := word ≠ [] ∧ ∀ b ∈ word, 33 ≤ b.toNat ∧ b.toNat < 127

theorem Visible.isWord {word : Bytes} (h : Visible word) :
    word ≠ [] ∧ ∀ b ∈ word, isSpace b = false := by
  refine ⟨h.1, fun b hb ↦ ?_⟩
  have hrange := h.2 b hb
  simp only [isSpace, decide_eq_false_iff_not]
  rintro rfl
  exact absurd hrange.1 (by decide)

theorem Visible.inLine {word : Bytes} (h : Visible word) :
    ∀ b ∈ word, b ≠ 0 ∧ ¬ isLineEnd b := by
  intro b hb
  have hrange := h.2 b hb
  simp only [isLineEnd, decide_eq_true_eq, not_or]
  refine ⟨?_, ?_, ?_⟩ <;>
    · rintro rfl
      exact absurd hrange.1 (by decide)

theorem visible_commandName {type : CommandType} {name : String}
    (h : commandName type = some name) : Visible (ascii name) := by
  have hall : ∀ name, (ascii name).all (fun b ↦ decide (33 ≤ b.toNat ∧ b.toNat < 127)) = true →
      ascii name ≠ [] → Visible (ascii name) := by
    intro name hrange hne
    exact ⟨hne, fun b hb ↦ by simpa using List.all_eq_true.mp hrange b hb⟩
  cases type <;> cases h <;> exact hall _ (by decide) (by decide)

theorem inLine_intercalate {parts : List Bytes} (h : ∀ part ∈ parts, Visible part) :
    ∀ b ∈ [(32 : UInt8)].intercalate parts, b ≠ 0 ∧ ¬ isLineEnd b := by
  induction parts with
  | nil => exact fun b hb ↦ absurd hb List.not_mem_nil
  | cons part rest ih =>
    rw [List.forall_mem_cons] at h
    cases rest with
    | nil => simpa using h.1.inLine
    | cons next rest =>
      rw [List.intercalate_cons_cons]
      refine List.forall_mem_append.mpr ⟨List.forall_mem_append.mpr ⟨h.1.inLine, ?_⟩, ih h.2⟩
      exact List.forall_mem_singleton.mpr (by decide)

/-- The parser decodes the words of the first line of a text that is not too long. -/
theorem decodes_iff_of_words {type : CommandType} {name : String}
    (hname : commandName type = some name) {words : List Bytes}
    (hwords : ∀ word ∈ words, Visible word) {stop : UInt8} (hstop : isLineEnd stop)
    (rest : Bytes) (args : List Bytes) :
    Decodes ([32].intercalate (ascii name :: words) ++ stop :: rest) type args ↔
      ([32].intercalate (ascii name :: words) ++ stop :: rest).length < maxBufferSize ∧
        words.take maxArgs = args := by
  have hall : ∀ word ∈ ascii name :: words, Visible word :=
    List.forall_mem_cons.mpr ⟨visible_commandName hname, hwords⟩
  have hline := lineOf_append (inLine_intercalate hall) hstop rest
  generalize htext : [32].intercalate (ascii name :: words) ++ stop :: rest = text at hline ⊢
  have hfields : fields (lineOf text) = (type, words.take maxArgs) := by
    have hcommand : commandOf (ascii name) = type :=
      (commandOf_eq_iff hname _).mpr (by simp [strcasecmp])
    rw [fields, hline, words_intercalate (by decide) fun word hword ↦ (hall word hword).isWord]
    simp only [hcommand]
  have hpos : 0 < text.length := by
    rw [← htext, List.length_append, List.length_cons]
    omega
  by_cases hlength : text.length < maxBufferSize
  · have hparse := (Chunk.mk text hpos hlength).protocolParse_eq
    obtain ⟨htype, hargs⟩ := (Chunk.mk text hpos hlength).message_fields
    rw [hfields] at htype hargs
    simp only [Decodes, hparse, Option.some.injEq, exists_eq_left', htype, hargs, hlength,
      true_and]
  · have hnone : protocolParse text = none := if_pos (.inr (not_lt.mp hlength))
    simp [Decodes, hnone, hlength]

/-! ## Fields of the messages -/

/-- Visible characters of a Python string. -/
def VisibleText (text : PyString) : Prop :=
  text ≠ [] ∧ ∀ c ∈ text, 33 ≤ c.toNat ∧ c.toNat < 127

theorem encode_toList {text : String} (h : text.toList.all (·.toNat < 128)) :
    encode text.toList = ascii text :=
  encode_of_ascii fun c hc ↦ by simpa using List.all_eq_true.mp h c hc

theorem VisibleText.ascii {text : PyString} (h : VisibleText text) : ∀ c ∈ text, c.toNat < 128 :=
  fun c hc ↦ (h.2 c hc).2.trans (by decide)

theorem VisibleText.encode {text : PyString} (h : VisibleText text) : Visible (encode text) := by
  rw [encode_of_ascii h.ascii]
  refine ⟨by simpa using h.1, fun b hb ↦ ?_⟩
  obtain ⟨c, hc, rfl⟩ := List.mem_map.mp hb
  have hrange := h.2 c hc
  have hcode : c.toNat.toUInt8.toNat = c.toNat := Nat.mod_eq_of_lt (hrange.2.trans (by decide))
  rwa [hcode]

theorem visibleText_of_all {text : PyString} (hne : text ≠ [])
    (h : text.all fun c ↦ 33 ≤ c.toNat ∧ c.toNat < 127) : VisibleText text :=
  ⟨hne, fun c hc ↦ by simpa using List.all_eq_true.mp h c hc⟩

theorem visibleText_toDigits (n : ℕ) : VisibleText (Nat.toDigits 10 n) := by
  refine ⟨Nat.toDigits_ne_nil, fun c hc ↦ ?_⟩
  have hdigit := Nat.isDigit_of_mem_toDigits (by decide) (by decide) hc
  have hzero : '0'.toNat = 48 := rfl
  have hnine : '9'.toNat = 57 := rfl
  rw [Char.isDigit_iff_toNat] at hdigit
  omega

theorem VisibleText.append {front rest : PyString}
    (hfront : ∀ c ∈ front, 33 ≤ c.toNat ∧ c.toNat < 127) (hrest : VisibleText rest) :
    VisibleText (front ++ rest) :=
  ⟨by simp [hrest.1], List.forall_mem_append.mpr ⟨hfront, hrest.2⟩⟩

theorem visible_sign (negative : Bool) : ∀ c ∈ sign negative, 33 ≤ c.toNat ∧ c.toNat < 127 := by
  cases negative with
  | false => exact fun c hc ↦ absurd hc List.not_mem_nil
  | true => exact List.forall_mem_singleton.mpr (by decide)

theorem visibleText_fixed4 (value : Number) : VisibleText (fixed4 value) := by
  cases value with
  | finite negative magnitude =>
    have hpoint : VisibleText ['.'] := visibleText_of_all (by decide) (by decide)
    have hwhole := (VisibleText.append (visible_sign negative) (visibleText_toDigits
      (rounded 10000 magnitude / 10000))).2
    have htenths := (VisibleText.append (VisibleText.append hwhole hpoint).2 (visibleText_toDigits
      (rounded 10000 magnitude / 1000 % 10))).2
    have hhundredths := (VisibleText.append htenths (visibleText_toDigits
      (rounded 10000 magnitude / 100 % 10))).2
    have hthousandths := (VisibleText.append hhundredths (visibleText_toDigits
      (rounded 10000 magnitude / 10 % 10))).2
    exact VisibleText.append hthousandths (visibleText_toDigits (rounded 10000 magnitude % 10))
  | infinite negative =>
    exact VisibleText.append (visible_sign negative) (visibleText_of_all (by decide) (by decide))
  | nan => exact visibleText_of_all (by decide) (by decide)

theorem visibleText_decimal (z : ℤ) : VisibleText (decimal z) :=
  VisibleText.append (visible_sign _) (visibleText_toDigits z.natAbs)

theorem visibleText_unitMap (type : SensorType) : VisibleText (unitMap type).toList := by
  cases type <;> exact visibleText_of_all (by decide) (by decide)

theorem visibleText_name (type : SensorType) : VisibleText type.name.toList := by
  cases type <;> exact visibleText_of_all (by decide) (by decide)

theorem length_encode_name_le (type : SensorType) : (encode type.name.toList).length ≤ 11 := by
  rw [encode_of_ascii (visibleText_name type).ascii, List.length_map]
  cases type <;> decide

theorem visible_of_isIdChar {c : Char} (h : isIdChar c) : 33 ≤ c.toNat ∧ c.toNat < 127 := by
  simp only [isIdChar, decide_eq_true_eq, Char.le_def, UInt32.le_iff_toNat_le] at h
  have hrange {low high : ℕ} (hlow : low ≤ c.toNat) (hhigh : c.toNat ≤ high) (hl : 33 ≤ low)
      (hh : high < 127) : 33 ≤ c.toNat ∧ c.toNat < 127 :=
    ⟨hl.trans hlow, hhigh.trans_lt hh⟩
  obtain ⟨hlow, hhigh⟩ | ⟨hlow, hhigh⟩ | ⟨hlow, hhigh⟩ | rfl | rfl := h
  · exact hrange hlow hhigh (by decide) (by decide)
  · exact hrange hlow hhigh (by decide) (by decide)
  · exact hrange hlow hhigh (by decide) (by decide)
  · decide
  · decide

/-! ## Decoding -/

/-- Both messages of a sensor are decoded into the fields they were made of. -/
def Decoded (sensorId : PyString) (type : SensorType) (value : Number) (timestamp : ℤ) : Prop :=
  let unit := (unitMap type).toList
  Decodes (sendBytes (measurementMessage sensorId value unit timestamp)) .measurement
      [encode sensorId, encode (fixed4 value), encode unit, encode (decimal timestamp)] ∧
    Decodes (sendBytes (registerMessage sensorId type)) .registerSensor
      [encode sensorId, encode type.name.toList]

theorem sendBytes_measurementMessage (sensorId : PyString) (value : Number) (unit : PyString)
    (timestamp : ℤ) :
    sendBytes (measurementMessage sensorId value unit timestamp) =
      [32].intercalate [ascii "MEASUREMENT", encode sensorId, encode (fixed4 value), encode unit,
        encode (decimal timestamp)] ++ 13 :: [10] := by
  have hparts {command space stop : PyString}
      (hcommand : encode command = ascii "MEASUREMENT" ++ [32])
      (hspace : encode space = [32]) (hstop : encode stop = [13, 10]) (a b c d : PyString) :
      encode (command ++ a ++ space ++ b ++ space ++ c ++ space ++ d ++ stop) =
        [32].intercalate [ascii "MEASUREMENT", encode a, encode b, encode c, encode d] ++
          13 :: [10] := by
    simp [encode_append, hcommand, hspace, hstop, List.intercalate_cons_cons]
  exact hparts ((encode_toList (by decide)).trans (by decide))
    ((encode_toList (by decide)).trans (by decide))
    ((encode_toList (by decide)).trans (by decide)) _ _ _ _

theorem sendBytes_registerMessage (sensorId : PyString) (type : SensorType) :
    sendBytes (registerMessage sensorId type) =
      [32].intercalate [ascii "REGISTER_SENSOR", encode sensorId, encode type.name.toList] ++
        13 :: [10] := by
  have hparts {command space stop : PyString}
      (hcommand : encode command = ascii "REGISTER_SENSOR" ++ [32])
      (hspace : encode space = [32]) (hstop : encode stop = [13, 10]) (a b : PyString) :
      encode (command ++ a ++ space ++ b ++ stop) =
        [32].intercalate [ascii "REGISTER_SENSOR", encode a, encode b] ++ 13 :: [10] := by
    simp [encode_append, hcommand, hspace, hstop, List.intercalate_cons_cons]
  exact hparts ((encode_toList (by decide)).trans (by decide))
    ((encode_toList (by decide)).trans (by decide))
    ((encode_toList (by decide)).trans (by decide)) _ _

/-- A newline behind the first argument ends the line there. -/
theorem exists_newline_split (command name : Bytes) (words : List Bytes) (stop : Bytes) :
    ∃ rest, [32].intercalate (command :: (name ++ [10]) :: words) ++ stop =
      [(32 : UInt8)].intercalate [command, name] ++ 10 :: rest := by
  cases words with
  | nil => exact ⟨stop, by simp [List.intercalate_cons_cons]⟩
  | cons word words =>
    exact ⟨32 :: [32].intercalate (word :: words) ++ stop, by simp [List.intercalate_cons_cons]⟩

/-- The server decodes the messages of an id that the client accepts exactly when the id does not
end with a newline and the measurement fits into the server's buffer. -/
theorem decoded_iff {sensorId : PyString} {type : SensorType} {value : Number}
    (hvalid : validateMeasurement sensorId (.number value) (unitMap type).toList = .ok ())
    (timestamp : ℤ) :
    Decoded sensorId type value timestamp ↔
      sensorId.getLast? ≠ some '\n' ∧
        (sendBytes (measurementMessage sensorId value (unitMap type).toList timestamp)).length <
          1024 := by
  obtain ⟨name, hne, hlength, hall, hid⟩ := idPatternMatch_iff.mp (idPatternMatch_of_valid hvalid)
  have hname : VisibleText name := ⟨hne, fun c hc ↦ visible_of_isIdChar (hall c hc)⟩
  have hnameMeasurement : commandName .measurement = some "MEASUREMENT" := rfl
  have hnameRegister : commandName .registerSensor = some "REGISTER_SENSOR" := rfl
  simp only [Decoded, sendBytes_measurementMessage, sendBytes_registerMessage]
  obtain rfl | rfl := hid
  · -- The whole id is the match, and both messages consist of visible words.
    have hlast : sensorId.getLast? ≠ some '\n' := by
      intro hnewline
      exact absurd (hall _ (List.mem_of_getLast? hnewline)) (by decide)
    have hmeasurement : ∀ word ∈ [encode sensorId, encode (fixed4 value),
        encode (unitMap type).toList, encode (decimal timestamp)], Visible word := by
      simp only [List.forall_mem_cons]
      exact ⟨hname.encode, (visibleText_fixed4 value).encode, (visibleText_unitMap type).encode,
        (visibleText_decimal timestamp).encode, nofun⟩
    have hregister : ∀ word ∈ [encode sensorId, encode type.name.toList], Visible word := by
      simp only [List.forall_mem_cons]
      exact ⟨hname.encode, (visibleText_name type).encode, nofun⟩
    have hshort : ([32].intercalate [ascii "REGISTER_SENSOR", encode sensorId,
        encode type.name.toList] ++ 13 :: [10]).length < maxBufferSize := by
      have hcommand : (ascii "REGISTER_SENSOR").length = 15 := by decide
      have htype : (encode type.name.toList).length ≤ 11 := length_encode_name_le type
      have hid : (encode sensorId).length = sensorId.length := by
        rw [encode_of_ascii hname.ascii, List.length_map]
      simp only [List.intercalate_cons_cons, List.intercalate_singleton, List.length_append,
        List.length_cons, List.length_nil, hcommand, hid, maxBufferSize]
      omega
    rw [decodes_iff_of_words hnameMeasurement hmeasurement (by decide),
      decodes_iff_of_words hnameRegister hregister (by decide)]
    simp only [hshort, hlast, true_and, ne_eq, not_false_eq_true]
    exact ⟨fun h ↦ h.1.1, fun h ↦ ⟨⟨h, rfl⟩, rfl⟩⟩
  · -- The line ends behind the name, and one argument is left.
    obtain ⟨rest, hrest⟩ := exists_newline_split (ascii "MEASUREMENT") (encode name)
      [encode (fixed4 value), encode (unitMap type).toList, encode (decimal timestamp)] [13, 10]
    have hencode : encode (name ++ ['\n']) = encode name ++ [10] := encode_append name ['\n']
    have hword : ∀ word ∈ [encode name], Visible word := List.forall_mem_singleton.mpr hname.encode
    rw [hencode, hrest, decodes_iff_of_words hnameMeasurement hword (by decide)]
    simp [maxArgs]

/-- 21.5 -/
def reading : Number := .finite false ⟨43 / 2, by decide +kernel⟩

/-- The messages of an ordinary id. -/
theorem decoded_iff_ordinary_id :
    Decoded "s1".toList .temperature reading 1700000000 ↔
      "s1".toList.getLast? ≠ some '\n' ∧
        (sendBytes (measurementMessage "s1".toList reading
          (unitMap .temperature).toList 1700000000)).length < 1024 :=
  decoded_iff (by decide) 1700000000

/-- An id with a newline at its end is accepted, and the server decodes neither message. -/
theorem not_decoded_of_newline :
    validateMeasurement "s1\n".toList (.number reading)
        (unitMap .temperature).toList = .ok () ∧
      ¬ Decoded "s1\n".toList .temperature reading 1700000000 := by
  refine ⟨by decide, fun h ↦ ?_⟩
  obtain ⟨⟨msg, hparse, -, hargs⟩, -⟩ := h
  have hcount : (protocolParse (sendBytes (measurementMessage "s1\n".toList
      reading (unitMap .temperature).toList 1700000000))).map
        (·.args.length) = some 1 := by decide +kernel
  have hlength := congrArg List.length hargs
  rw [hparse, Option.map_some, Option.some.injEq] at hcount
  rw [List.length_map, ParsedMessage.argStrings, List.length_map, hcount] at hlength
  cases hlength

/-! ## Lengths -/

theorem length_sign_le (negative : Bool) : (sign negative).length ≤ 1 := by
  cases negative <;> decide

/-- The integer part of a rounded magnitude below a power of ten has at most one digit more. -/
theorem length_fixed4_le {magnitude : ℚ≥0} {k : ℕ}
    (h : magnitude.num < 10 ^ k * magnitude.den) (negative : Bool) :
    (fixed4 (.finite negative magnitude)).length ≤ k + 7 := by
  have hfloor : magnitude.num * 10000 / magnitude.den < 10 ^ k * 10000 := by
    rw [Nat.div_lt_iff_lt_mul magnitude.den_pos, Nat.mul_right_comm]
    exact Nat.mul_lt_mul_of_pos_right h (by decide)
  have hrounded : rounded 10000 magnitude ≤ 10 ^ k * 10000 := by
    simp only [rounded]
    split
    · omega
    · split <;> omega
  have hwhole : (Nat.toDigits 10 (rounded 10000 magnitude / 10000)).length ≤ k + 1 := by
    rw [Nat.length_toDigits_le_iff (by decide) (Nat.succ_pos k), Nat.pow_succ]
    have hpos : 0 < 10 ^ k := Nat.pow_pos (by decide)
    omega
  have hdigit (n : ℕ) : (Nat.toDigits 10 (n % 10)).length = 1 := by
    rw [Nat.toDigits_of_lt_base (Nat.mod_lt n (by decide)), List.length_singleton]
  have hsign := length_sign_le negative
  simp only [fixed4, List.length_append, List.length_singleton, hdigit]
  omega

/-- Finite values of type `float` lie below 10^309, so with a timestamp of at most 600 digits the
message of a measurement fits into the server's buffer. -/
theorem length_measurement_lt {sensorId : PyString} {type : SensorType} {value : Number}
    (hvalid : validateMeasurement sensorId (.number value) (unitMap type).toList = .ok ())
    (hvalue : ∀ negative magnitude, value = .finite negative magnitude →
      magnitude.num < 10 ^ 309 * magnitude.den)
    {timestamp : ℤ} (htime : (decimal timestamp).length ≤ 601) :
    (sendBytes (measurementMessage sensorId value (unitMap type).toList timestamp)).length <
      1024 := by
  have hcommand : (ascii "MEASUREMENT").length = 11 := by decide
  have hid : (encode sensorId).length ≤ 33 := by
    obtain ⟨name, hne, hlength, hall, hid⟩ := idPatternMatch_iff.mp (idPatternMatch_of_valid hvalid)
    have hname : ∀ c ∈ name, c.toNat < 128 := fun c hc ↦
      (visible_of_isIdChar (hall c hc)).2.trans (by decide)
    obtain rfl | rfl := hid
    · rw [encode_of_ascii hname, List.length_map]
      omega
    · rw [encode_append, encode_of_ascii hname, List.length_append, List.length_map]
      exact Nat.add_le_add_right hlength 1
  have hunit : (encode (unitMap type).toList).length ≤ 4 := by
    rw [encode_of_ascii (visibleText_unitMap type).ascii, List.length_map]
    cases type <;> decide
  have hrendered : (encode (fixed4 value)).length ≤ 316 := by
    rw [encode_of_ascii (visibleText_fixed4 value).ascii, List.length_map]
    cases value with
    | finite negative magnitude => exact length_fixed4_le (hvalue negative magnitude rfl) negative
    | infinite negative => exact (by cases negative <;> decide)
    | nan => decide
  have hdecimal : (encode (decimal timestamp)).length ≤ 601 := by
    rwa [encode_of_ascii (visibleText_decimal timestamp).ascii, List.length_map]
  rw [sendBytes_measurementMessage]
  simp only [List.intercalate_cons_cons, List.intercalate_singleton, List.length_append,
    List.length_cons, List.length_nil, hcommand]
  omega

end IotMonitoring.Sensors.SensorBase
