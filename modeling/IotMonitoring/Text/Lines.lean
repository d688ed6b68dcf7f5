import IotMonitoring.Text.CString

/-!
# Lines on a byte stream

A reader splits a stream at line ends. A message is framed when it is one line and its CR LF. A
text without line ends that is formatted together with a CR LF comes out framed exactly when the
buffer has room for both; otherwise the cut takes the line end away first.
-/

namespace IotMonitoring.Text

def isLineEnd (b : UInt8) : Bool := b = 13 ∨ b = 10

/-- The line end of the protocol. -/
def crlf : CString := CString.lit "\r\n"

/-- What a buffered reader returns for the next line, and the rest of the stream. A line ends at
CR LF, at a CR, or at an LF. -/
def readLine (stream : Bytes) : Option (Bytes × Bytes) :=
  if stream = [] then none
  else
    some (stream.takeWhile (! isLineEnd ·),
      match stream.dropWhile (! isLineEnd ·) with
      | [] => []
      | b :: rest => if b = 13 ∧ rest.head? = some 10 then rest.drop 1 else rest)

/-- No CR and no LF. -/
def CString.LineSafe (s : CString) : Prop := ∀ b ∈ s.bytes, isLineEnd b = false

/-- The message is one line with its CR LF, the line ends with the payload, and a reader of the
stream gets this line and the stream behind the message. -/
def Framed (message payload : CString) : Prop :=
  ∃ line, message.bytes = line ++ [13, 10] ∧ (∀ b ∈ line, isLineEnd b = false) ∧
    payload.bytes <:+ line ∧ ∀ stream, readLine (message.bytes ++ stream) = some (line, stream)

namespace CString

theorem lineSafe_lit {text : String} (h : (lit text).bytes.all (! isLineEnd ·)) :
    (lit text).LineSafe := by
  intro b hb
  simpa using List.all_eq_true.mp h b hb

theorem LineSafe.append {s t : CString} (hs : s.LineSafe) (ht : t.LineSafe) :
    (s ++ t).LineSafe := by
  intro b hb
  obtain hb | hb := List.mem_append.mp hb
  · exact hs b hb
  · exact ht b hb

theorem LineSafe.cut {s : CString} (hs : s.LineSafe) (n : ℕ) : (s.cut n).LineSafe :=
  fun b hb ↦ hs b (List.mem_of_mem_take hb)

theorem LineSafe.snprintf {s : CString} (hs : s.LineSafe) (size : ℕ) :
    (CString.snprintf size s).LineSafe := hs.cut (size - 1)

theorem lineSafe_empty : (∅ : CString).LineSafe := fun _ hb ↦ absurd hb List.not_mem_nil

/-- What precedes the first line end has none. -/
theorem lineSafe_before (s : CString) : (s.before isLineEnd).LineSafe := by
  intro b hb
  simpa using List.mem_takeWhile_imp hb

theorem lineSafe_concat {parts : List CString} (h : ∀ s ∈ parts, s.LineSafe) :
    (concat parts).LineSafe := by
  induction parts with
  | nil => exact lineSafe_empty
  | cons s parts ih =>
    rw [concat_cons]
    exact (h s List.mem_cons_self).append (ih fun t ht ↦ h t (List.mem_cons_of_mem s ht))

end CString

theorem readLine_crlf {line : Bytes} (hline : ∀ b ∈ line, isLineEnd b = false) (stream : Bytes) :
    readLine (line ++ [13, 10] ++ stream) = some (line, stream) := by
  have hpass : ∀ b ∈ line, (! isLineEnd b) = true := by simpa using hline
  have hne : line ++ [13, 10] ++ stream ≠ [] := by simp
  rw [readLine, if_neg hne, List.append_assoc, List.takeWhile_append_of_pos hpass,
    List.dropWhile_append_of_pos hpass]
  simp [isLineEnd]

theorem bytes_crlf : crlf.bytes = [13, 10] := by decide

/-- The line feed is the last byte of the whole text, so a cut text has none. -/
theorem lineFeed_mem_snprintf_iff {text : CString} (htext : text.LineSafe) (size : ℕ) :
    10 ∈ (CString.snprintf size (text ++ crlf)).bytes ↔ text.length + 2 ≤ size - 1 := by
  rw [CString.snprintf, CString.bytes_cut, CString.bytes_append, bytes_crlf]
  constructor
  · intro hlf
    by_contra! hlong
    have hsplit : text.bytes ++ [13, 10] = (text.bytes ++ [13]) ++ [10] := by simp
    have hshort : size - 1 ≤ (text.bytes ++ [13]).length := by
      simp only [CString.length] at hlong
      simp only [List.length_append, List.length_singleton]
      omega
    rw [hsplit, List.take_append_of_le_length hshort] at hlf
    obtain hlf | hlf := List.mem_append.mp (List.mem_of_mem_take hlf)
    · exact absurd (htext 10 hlf) (by decide)
    · simp at hlf
  · intro hfits
    have hwhole : (text.bytes ++ [13, 10]).length ≤ size - 1 := by
      simpa [CString.length] using hfits
    rw [List.take_of_length_le hwhole]
    simp

/-- A formatted line is framed exactly when the buffer holds it with its line end. -/
theorem framed_snprintf_iff {text payload : CString} (htext : text.LineSafe)
    (hpayload : payload.bytes <:+ text.bytes) (size : ℕ) :
    Framed (CString.snprintf size (text ++ crlf)) payload ↔ text.length + 2 ≤ size - 1 := by
  constructor
  · rintro ⟨line, hmessage, -, -, -⟩
    rw [← lineFeed_mem_snprintf_iff htext, hmessage]
    simp
  · intro hfits
    have hwhole : (CString.snprintf size (text ++ crlf)).bytes = text.bytes ++ [13, 10] := by
      have hlength : (text ++ crlf).length ≤ size - 1 := by
        rwa [CString.length_append]
      rw [CString.snprintf, CString.cut_eq_self hlength, CString.bytes_append, bytes_crlf]
    exact ⟨text.bytes, hwhole, htext, hpayload, fun stream ↦ hwhole ▸ readLine_crlf htext stream⟩

end IotMonitoring.Text
