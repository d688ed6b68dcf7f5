import IotMonitoring.Auth.AuthServer

/-!
# What the service can decode

Python's decoder takes the shortest encodings of the scalar values and no others, so a byte string
is decoded exactly when it is the encoding of a text, and to this text only.
-/

namespace IotMonitoring.Auth.AuthServer

open Text

/-- A byte that continues a sequence. -/
def Continues (b : UInt8) : Prop := 0x80 ≤ b.toNat ∧ b.toNat ≤ 0xBF

/-- A sequence that the decoder takes as one character, and its code. -/
inductive IsSequence : Bytes → ℕ → Prop
  | one (a : UInt8) (ha : a.toNat < 0x80) : IsSequence [a] a.toNat
  | two (a b : UInt8) (ha : 0xC2 ≤ a.toNat ∧ a.toNat ≤ 0xDF) (hb : Continues b) :
      IsSequence [a, b] ((a.toNat - 0xC0) * 64 + (b.toNat - 0x80))
  | three (a b c : UInt8) (ha : 0xE0 ≤ a.toNat ∧ a.toNat ≤ 0xEF) (hb : Continues b)
      (hc : Continues c) (hshortest : a.toNat = 0xE0 → 0xA0 ≤ b.toNat)
      (hscalar : a.toNat = 0xED → b.toNat ≤ 0x9F) :
      IsSequence [a, b, c]
        ((a.toNat - 0xE0) * 4096 + (b.toNat - 0x80) * 64 + (c.toNat - 0x80))
  | four (a b c d : UInt8) (ha : 0xF0 ≤ a.toNat ∧ a.toNat ≤ 0xF4) (hb : Continues b)
      (hc : Continues c) (hd : Continues d) (hshortest : a.toNat = 0xF0 → 0x90 ≤ b.toNat)
      (hscalar : a.toNat = 0xF4 → b.toNat ≤ 0x8F) :
      IsSequence [a, b, c, d] ((a.toNat - 0xF0) * 262144 + (b.toNat - 0x80) * 4096 +
        (c.toNat - 0x80) * 64 + (d.toNat - 0x80))

theorem isContinuation_iff {b : UInt8} : isContinuation b ↔ Continues b := by
  simp [isContinuation, Continues, UInt8.le_iff_toNat_le]

theorem isSecondOfThree_iff {a b : UInt8} : isSecondOfThree a b ↔
    (0xE0 ≤ a.toNat ∧ a.toNat ≤ 0xEF) ∧ Continues b ∧
      (a.toNat = 0xE0 → 0xA0 ≤ b.toNat) ∧ (a.toNat = 0xED → b.toNat ≤ 0x9F) := by
  simp only [isSecondOfThree, decide_eq_true_eq, isContinuation_iff, Continues,
    UInt8.le_iff_toNat_le, ← UInt8.toNat_inj, ne_eq]
  simp only [UInt8.reduceToNat]
  omega

theorem isSecondOfFour_iff {a b : UInt8} : isSecondOfFour a b ↔
    (0xF0 ≤ a.toNat ∧ a.toNat ≤ 0xF4) ∧ Continues b ∧
      (a.toNat = 0xF0 → 0x90 ≤ b.toNat) ∧ (a.toNat = 0xF4 → b.toNat ≤ 0x8F) := by
  simp only [isSecondOfFour, decide_eq_true_eq, isContinuation_iff, Continues,
    UInt8.le_iff_toNat_le, ← UInt8.toNat_inj]
  simp only [UInt8.reduceToNat]
  omega

/-- The first byte decides on the length of the sequence. -/
theorem not_ascii {a : UInt8} (h : 0x80 ≤ a.toNat) : ¬ a < 0x80 := by
  simp only [UInt8.lt_iff_toNat_lt, UInt8.reduceToNat]
  omega

theorem not_firstOfTwo {a : UInt8} (h : 0xE0 ≤ a.toNat) : ¬ a ≤ 0xDF := by
  simp only [UInt8.le_iff_toNat_le, UInt8.reduceToNat]
  omega

/-- The decoder takes a sequence off the front. -/
theorem decode_append {bytes : Bytes} {code : ℕ} (h : IsSequence bytes code) (rest : Bytes) :
    decode (bytes ++ rest) = (decode rest).map (Char.ofNat code :: ·) := by
  cases h with
  | one a ha =>
    have ha' : a < 0x80 := UInt8.lt_iff_toNat_lt.mpr ha
    rw [List.singleton_append, decode.eq_def]
    simp [ha']
  | two a b ha hb =>
    have hnot := not_ascii (Nat.le_trans (by decide) ha.1)
    have htwo : 0xC2 ≤ a ∧ a ≤ 0xDF ∧ isContinuation b :=
      ⟨UInt8.le_iff_toNat_le.mpr ha.1, UInt8.le_iff_toNat_le.mpr ha.2, isContinuation_iff.mpr hb⟩
    rw [List.cons_append, List.singleton_append, decode.eq_def]
    simp [hnot, htwo]
  | three a b c ha hb hc hshortest hscalar =>
    have hnot := not_ascii (Nat.le_trans (by decide) ha.1)
    have hnotTwo := not_firstOfTwo ha.1
    have hthree : isSecondOfThree a b ∧ isContinuation c :=
      ⟨isSecondOfThree_iff.mpr ⟨ha, hb, hshortest, hscalar⟩, isContinuation_iff.mpr hc⟩
    rw [List.cons_append, List.cons_append, List.singleton_append, decode.eq_def]
    simp [hnot, hnotTwo, hthree]
  | four a b c d ha hb hc hd hshortest hscalar =>
    have hnot := not_ascii (Nat.le_trans (by decide) ha.1)
    have hnotTwo := not_firstOfTwo (Nat.le_trans (by decide) ha.1)
    have hnotThree : isSecondOfThree a b = false := by
      rw [← Bool.not_eq_true, isSecondOfThree_iff]
      omega
    have hfour : isSecondOfFour a b ∧ isContinuation c ∧ isContinuation d :=
      ⟨isSecondOfFour_iff.mpr ⟨ha, hb, hshortest, hscalar⟩, isContinuation_iff.mpr hc,
        isContinuation_iff.mpr hd⟩
    rw [List.cons_append, List.cons_append, List.cons_append, List.singleton_append,
      decode.eq_def]
    simp [hnot, hnotTwo, hnotThree, hfour]

/-- What the decoder returns, it has taken off the front. -/
theorem decode_cases {data : Bytes} {text : PyString} (h : decode data = some text) :
    (data = [] ∧ text = []) ∨ ∃ bytes code rest text', IsSequence bytes code ∧
      data = bytes ++ rest ∧ decode rest = some text' ∧ text = Char.ofNat code :: text' := by
  rw [decode.eq_def] at h
  split at h
  · exact .inl ⟨rfl, (Option.some.inj h).symm⟩
  · rename_i a rest
    right
    split_ifs at h with ha
    · obtain ⟨text', htext', rfl⟩ := Option.map_eq_some_iff.mp h
      exact ⟨[a], _, rest, text', .one a (UInt8.lt_iff_toNat_lt.mp ha), rfl, htext', rfl⟩
    · split at h
      · cases h
      · rename_i b rest
        split_ifs at h with hb
        · obtain ⟨text', htext', rfl⟩ := Option.map_eq_some_iff.mp h
          refine ⟨[a, b], _, rest, text', .two a b ⟨?_, ?_⟩ ?_, rfl, htext', rfl⟩
          · exact UInt8.le_iff_toNat_le.mp hb.1
          · exact UInt8.le_iff_toNat_le.mp hb.2.1
          · exact isContinuation_iff.mp hb.2.2
        · split at h
          · cases h
          · rename_i c rest
            split_ifs at h with hc
            · obtain ⟨text', htext', rfl⟩ := Option.map_eq_some_iff.mp h
              obtain ⟨ha, hb, hshortest, hscalar⟩ := isSecondOfThree_iff.mp hc.1
              exact ⟨[a, b, c], _, rest, text', .three a b c ha hb (isContinuation_iff.mp hc.2)
                hshortest hscalar, rfl, htext', rfl⟩
            · split at h
              · cases h
              · rename_i d rest
                split_ifs at h with hd
                · obtain ⟨text', htext', rfl⟩ := Option.map_eq_some_iff.mp h
                  obtain ⟨ha, hb, hshortest, hscalar⟩ := isSecondOfFour_iff.mp hd.1
                  exact ⟨[a, b, c, d], _, rest, text', .four a b c d ha hb
                    (isContinuation_iff.mp hd.2.1) (isContinuation_iff.mp hd.2.2) hshortest
                    hscalar, rfl, htext', rfl⟩

/-! ## Encodings -/

theorem toNat_ofNat_valid {n : ℕ} (h : n.isValidChar) : (Char.ofNat n).toNat = n := by
  rw [Char.ofNat, dif_pos h]
  rfl

theorem toNat_ofNat_byte {n : ℕ} (h : n < 256) : (UInt8.ofNat n).toNat = n :=
  UInt8.toNat_ofNat_of_lt' h

/-- The encoding of a character is a sequence. -/
theorem isSequence_encodeChar (c : Char) : IsSequence (String.utf8EncodeChar c) c.toNat := by
  have hvalid : c.toNat < 0xD800 ∨ 0xDFFF < c.toNat ∧ c.toNat < 0x110000 := c.valid
  have hv : c.val.toNat = c.toNat := rfl
  simp only [String.utf8EncodeChar, hv]
  generalize c.toNat = v at hvalid
  have hlast : (UInt8.ofNat (v % 0x40 + 0x80)).toNat = v % 0x40 + 0x80 :=
    toNat_ofNat_byte (by omega)
  have hmiddle : (UInt8.ofNat (v / 64 % 0x40 + 0x80)).toNat = v / 64 % 0x40 + 0x80 :=
    toNat_ofNat_byte (by omega)
  split_ifs with hone htwo hthree
  · have hcode := IsSequence.one (UInt8.ofNat v) (by rw [toNat_ofNat_byte] <;> omega)
    rwa [toNat_ofNat_byte (by omega)] at hcode
  · have hfirst : (UInt8.ofNat (v / 64 % 0x20 + 0xC0)).toNat = v / 64 % 0x20 + 0xC0 :=
      toNat_ofNat_byte (by omega)
    generalize UInt8.ofNat (v / 64 % 0x20 + 0xC0) = a at hfirst
    generalize UInt8.ofNat (v % 0x40 + 0x80) = b at hlast
    have hcode : v = (a.toNat - 0xC0) * 64 + (b.toNat - 0x80) := by omega
    rw [hcode]
    exact .two a b (by omega) (by rw [Continues]; omega)
  · have hfirst : (UInt8.ofNat (v / 4096 % 0x10 + 0xE0)).toNat = v / 4096 % 0x10 + 0xE0 :=
      toNat_ofNat_byte (by omega)
    generalize UInt8.ofNat (v / 4096 % 0x10 + 0xE0) = a at hfirst
    generalize UInt8.ofNat (v / 64 % 0x40 + 0x80) = b at hmiddle
    generalize UInt8.ofNat (v % 0x40 + 0x80) = d at hlast
    have hcode : v = (a.toNat - 0xE0) * 4096 + (b.toNat - 0x80) * 64 + (d.toNat - 0x80) := by omega
    rw [hcode]
    exact .three a b d (by omega) (by rw [Continues]; omega) (by rw [Continues]; omega) (by omega)
      (by omega)
  · have hfirst : (UInt8.ofNat (v / 262144 % 0x08 + 0xF0)).toNat = v / 262144 % 0x08 + 0xF0 :=
      toNat_ofNat_byte (by omega)
    have hsecond : (UInt8.ofNat (v / 4096 % 0x40 + 0x80)).toNat = v / 4096 % 0x40 + 0x80 :=
      toNat_ofNat_byte (by omega)
    generalize UInt8.ofNat (v / 262144 % 0x08 + 0xF0) = a at hfirst
    generalize UInt8.ofNat (v / 4096 % 0x40 + 0x80) = b at hsecond
    generalize UInt8.ofNat (v / 64 % 0x40 + 0x80) = d at hmiddle
    generalize UInt8.ofNat (v % 0x40 + 0x80) = e at hlast
    have hcode : v = (a.toNat - 0xF0) * 262144 + (b.toNat - 0x80) * 4096 + (d.toNat - 0x80) * 64 +
        (e.toNat - 0x80) := by omega
    rw [hcode]
    exact .four a b d e (by omega) (by rw [Continues]; omega) (by rw [Continues]; omega)
      (by rw [Continues]; omega) (by omega) (by omega)

theorem ofNat_eq_byte {n : ℕ} {b : UInt8} (h : n = b.toNat) : UInt8.ofNat n = b := by
  rw [h, UInt8.ofNat_toNat]

/-- A sequence is the encoding of the character it is taken for. -/
theorem encodeChar_of_isSequence {bytes : Bytes} {code : ℕ} (h : IsSequence bytes code) :
    String.utf8EncodeChar (Char.ofNat code) = bytes := by
  have hcode (hvalid : code.isValidChar) : (Char.ofNat code).val.toNat = code :=
    toNat_ofNat_valid hvalid
  cases h with
  | one a ha =>
    rw [String.utf8EncodeChar, hcode (.inl (by omega)), if_pos (by omega), UInt8.ofNat_toNat]
  | two a b ha hb =>
    obtain ⟨hb, hb'⟩ := hb
    rw [String.utf8EncodeChar, hcode (.inl (by omega)), if_neg (by omega), if_pos (by omega),
      ofNat_eq_byte (b := a) (by omega), ofNat_eq_byte (b := b) (by omega)]
  | three a b c ha hb hc hshortest hscalar =>
    obtain ⟨hb, hb'⟩ := hb
    obtain ⟨hc, hc'⟩ := hc
    rw [String.utf8EncodeChar, hcode (by rw [Nat.isValidChar]; omega), if_neg (by omega),
      if_neg (by omega), if_pos (by omega), ofNat_eq_byte (b := a) (by omega),
      ofNat_eq_byte (b := b) (by omega), ofNat_eq_byte (b := c) (by omega)]
  | four a b c d ha hb hc hd hshortest hscalar =>
    obtain ⟨hb, hb'⟩ := hb
    obtain ⟨hc, hc'⟩ := hc
    obtain ⟨hd, hd'⟩ := hd
    rw [String.utf8EncodeChar, hcode (.inr (by omega)), if_neg (by omega), if_neg (by omega),
      if_neg (by omega), ofNat_eq_byte (b := a) (by omega), ofNat_eq_byte (b := b) (by omega),
      ofNat_eq_byte (b := c) (by omega), ofNat_eq_byte (b := d) (by omega)]

theorem decode_encode (text : PyString) : decode (encode text) = some text := by
  induction text with
  | nil => rfl
  | cons c text ih =>
    have hencode : encode (c :: text) = String.utf8EncodeChar c ++ encode text := rfl
    rw [hencode, decode_append (isSequence_encodeChar c), ih, Option.map_some, Char.ofNat_toNat]

theorem encode_of_decode {data : Bytes} {text : PyString} (h : decode data = some text) :
    encode text = data := by
  induction hlength : data.length using Nat.strongRecOn generalizing data text with
  | ind n ih =>
    obtain ⟨rfl, rfl⟩ | ⟨bytes, code, rest, text', hbytes, rfl, hrest, rfl⟩ := decode_cases h
    · rfl
    · have hchar := encodeChar_of_isSequence hbytes
      have hshorter : rest.length < n := by
        have hne : bytes.length ≠ 0 := by
          rw [← hchar]
          exact fun hzero ↦ String.utf8EncodeChar_ne_nil (List.eq_nil_of_length_eq_zero hzero)
        rw [List.length_append] at hlength
        omega
      calc
        encode (Char.ofNat code :: text') =
            String.utf8EncodeChar (Char.ofNat code) ++ encode text' := rfl
        _ = bytes ++ rest := by rw [hchar, ih rest.length hshorter hrest rfl]

/-- Decoding undoes encoding and takes nothing else. -/
theorem decode_eq_some_iff {data : Bytes} {text : PyString} :
    decode data = some text ↔ encode text = data :=
  ⟨encode_of_decode, fun h ↦ h ▸ decode_encode text⟩

end IotMonitoring.Auth.AuthServer
