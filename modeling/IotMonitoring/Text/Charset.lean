import IotMonitoring.Text.CString

/-!
# Decoding bytes into characters

The Java and JavaScript clients see characters where the server sends bytes. Which character set
their runtime uses is not fixed by the source; all that is relied on is that an ASCII byte always
stands for itself, whatever surrounds it, and that no other bytes decode to an ASCII character, as
it is in US-ASCII, in the ISO 8859 family and in UTF-8 with replacement characters.
-/

namespace IotMonitoring.Text

/-- The character with the code of a byte. -/
def character (b : UInt8) : Char := Char.ofNat b.toNat

/-- A decoder that treats ASCII bytes as such. -/
structure Charset where
  decode : Bytes → List Char
  decode_nil : decode [] = []
  decode_ascii : ∀ (front : Bytes) (b : UInt8) (rest : Bytes), b < 128 →
    decode (front ++ b :: rest) = decode front ++ character b :: decode rest
  ascii_of_mem : ∀ (bytes : Bytes), ∀ c ∈ decode bytes, c.toNat < 128 →
    ∃ b ∈ bytes, b < 128 ∧ c = character b

theorem toNat_character (b : UInt8) : (character b).toNat = b.toNat := by
  have hlt : b.toNat < 256 := b.toNat_lt
  rw [character, Char.ofNat, dif_pos (.inl (by omega))]
  rfl

theorem character_inj {a b : UInt8} : character a = character b ↔ a = b := by
  constructor
  · intro h
    have hcode := congrArg Char.toNat h
    rw [toNat_character, toNat_character] at hcode
    exact UInt8.toNat_inj.mp hcode
  · exact congrArg character

namespace Charset

variable (charset : Charset)

/-- ASCII text in front of other bytes stands for itself. -/
theorem decode_append {text : Bytes} (h : ∀ b ∈ text, b < 128) (rest : Bytes) :
    charset.decode (text ++ rest) = text.map character ++ charset.decode rest := by
  induction text with
  | nil => rfl
  | cons b text ih =>
    rw [List.forall_mem_cons] at h
    have hfirst := charset.decode_ascii [] b (text ++ rest) h.1
    rw [List.nil_append, charset.decode_nil, List.nil_append] at hfirst
    rw [List.cons_append, hfirst, ih h.2, List.map_cons, List.cons_append]

theorem decode_of_ascii {text : Bytes} (h : ∀ b ∈ text, b < 128) :
    charset.decode text = text.map character := by
  have htext := charset.decode_append h []
  rwa [List.append_nil, charset.decode_nil, List.append_nil] at htext

/-- An ASCII character occurs when its byte does. -/
theorem mem_decode_iff {b : UInt8} (hb : b < 128) (bytes : Bytes) :
    character b ∈ charset.decode bytes ↔ b ∈ bytes := by
  constructor
  · intro h
    have hcode : (character b).toNat < 128 := by
      rw [toNat_character]
      exact UInt8.lt_iff_toNat_lt.mp hb
    obtain ⟨b', hmem, -, heq⟩ := charset.ascii_of_mem bytes _ h hcode
    exact character_inj.mp heq ▸ hmem
  · intro h
    obtain ⟨front, rest, rfl⟩ := List.append_of_mem h
    rw [charset.decode_ascii front b rest hb]
    simp

/-- US-ASCII, with the replacement character for every other byte. -/
def usAscii : Charset where
  decode bytes := bytes.map fun b ↦ if b < 128 then character b else Char.ofNat 0xFFFD
  decode_nil := rfl
  decode_ascii front b rest hb := by simp [hb]
  ascii_of_mem bytes c hc hcode := by
    obtain ⟨b, hb, rfl⟩ := List.mem_map.mp hc
    split at hcode
    · rename_i hlt
      exact ⟨b, hb, hlt, if_pos hlt⟩
    · exact absurd hcode (by decide)

end Charset

/-- A character set for both directions, as the default one of the JVM: it writes ASCII characters
as their bytes. -/
structure DefaultCharset extends Charset where
  encode : List Char → Bytes
  encode_of_ascii : ∀ text : List Char, (∀ c ∈ text, c.toNat < 128) →
    encode text = text.map fun c ↦ c.toNat.toUInt8

/-- US-ASCII, with a question mark for every other character. -/
def DefaultCharset.usAscii : DefaultCharset where
  toCharset := .usAscii
  encode text := text.map fun c ↦ if c.toNat < 128 then c.toNat.toUInt8 else 63
  encode_of_ascii _ h := List.map_congr_left fun c hc ↦ if_pos (h c hc)

end IotMonitoring.Text
