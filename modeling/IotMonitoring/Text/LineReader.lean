import IotMonitoring.Text.Lines

/-!
# Reading lines as they arrive

A buffered reader returns a line as soon as its CR or LF has arrived, and remembers a CR so that it
can leave out the LF behind it, which may come later. On a stream of messages that are one line and
its CR LF each, the lines it returns are the messages in order, wherever the stream is divided.
-/

namespace IotMonitoring.Text

/-- A reader: whether the last line ended with a CR, and what has arrived behind it. -/
structure LineReader where
  skipLF : Bool
  unread : Bytes
deriving DecidableEq

namespace LineReader

/-- A reader of a fresh stream. -/
def fresh : LineReader := ⟨false, []⟩

def feed (reader : LineReader) (bytes : Bytes) : LineReader :=
  { reader with unread := reader.unread ++ bytes }

/-- What is left when the LF of the last line is left out. -/
def chars (reader : LineReader) : Bytes :=
  if reader.skipLF ∧ reader.unread.head? = some 10 then reader.unread.drop 1 else reader.unread

/-- The next line and the reader behind it. There is none as long as no line end has arrived; at the
end of the stream, what is left is a line unless it is empty. -/
def readLine (reader : LineReader) (ended : Bool) : Option (Bytes × LineReader) :=
  match reader.chars.dropWhile (! isLineEnd ·) with
  | b :: behind => some (reader.chars.takeWhile (! isLineEnd ·), ⟨b = 13, behind⟩)
  | [] => if ended ∧ reader.chars ≠ [] then some (reader.chars, fresh) else none

/-! ## Streams of messages -/

/-- The stream of messages with these lines. -/
def frames (lines : List Bytes) : Bytes := (lines.map (· ++ [13, 10])).flatten

/-- Of the stream so far, these lines have been read. -/
def Reads (reader : LineReader) (stream : Bytes) (lines : List Bytes) : Prop :=
  ∃ consumed, stream = consumed ++ reader.unread ∧
    frames lines = consumed ++ if reader.skipLF then [10] else []

@[simp]
theorem frames_nil : frames [] = [] := rfl

theorem frames_cons (line : Bytes) (lines : List Bytes) :
    frames (line :: lines) = line ++ 13 :: 10 :: frames lines := by
  simp [frames]

theorem frames_append (lines more : List Bytes) :
    frames (lines ++ more) = frames lines ++ frames more := by
  simp [frames]

theorem reads_fresh : Reads fresh [] [] := ⟨[], rfl, rfl⟩

theorem Reads.feed {reader : LineReader} {stream : Bytes} {lines : List Bytes}
    (h : Reads reader stream lines) (bytes : Bytes) :
    Reads (reader.feed bytes) (stream ++ bytes) lines := by
  obtain ⟨consumed, rfl, hlines⟩ := h
  exact ⟨consumed, List.append_assoc _ _ _, hlines⟩

/-- What follows the lines that have been read, where an LF may still have to be left out. -/
theorem Reads.unread_append {reader : LineReader} {stream rest : Bytes} {lines more : List Bytes}
    (h : Reads reader stream lines) (hstream : stream ++ rest = frames (lines ++ more)) :
    reader.unread ++ rest = (if reader.skipLF then [10] else []) ++ frames more := by
  obtain ⟨consumed, rfl, hlines⟩ := h
  rw [frames_append, hlines, List.append_assoc, List.append_assoc] at hstream
  exact List.append_cancel_left hstream

/-- Unless the LF is the very next byte to come, the reader is in front of the next message. -/
theorem Reads.chars_append {reader : LineReader} {stream rest : Bytes} {lines more : List Bytes}
    (h : Reads reader stream lines) (hstream : stream ++ rest = frames (lines ++ more)) :
    reader.unread = [] ∧ reader.skipLF = true ∨
      reader.unread = (if reader.skipLF then [10] else []) ++ reader.chars ∧
        reader.chars ++ rest = frames more := by
  have hunread := h.unread_append hstream
  by_cases hempty : reader.unread = [] ∧ reader.skipLF = true
  · exact .inl hempty
  have hbytes : reader.unread = (if reader.skipLF then [10] else []) ++ reader.chars := by
    cases hskip : reader.skipLF with
    | false => simp [chars, hskip]
    | true =>
      cases hcons : reader.unread with
      | nil => exact absurd ⟨hcons, hskip⟩ hempty
      | cons b unread =>
        rw [hskip, hcons, if_pos rfl, List.cons_append, List.cons_append, List.nil_append,
          List.cons.injEq] at hunread
        simp [chars, hskip, hcons, hunread.1]
  rw [hbytes, List.append_assoc] at hunread
  exact .inr ⟨hbytes, List.append_cancel_left hunread⟩

/-- A text is divided at its first line end. -/
theorem takeWhile_dropWhile_append {chars behind : Bytes} {b : UInt8}
    (hend : chars.dropWhile (! isLineEnd ·) = b :: behind) (rest : Bytes) :
    (chars ++ rest).takeWhile (! isLineEnd ·) = chars.takeWhile (! isLineEnd ·) ∧
      (chars ++ rest).dropWhile (! isLineEnd ·) = b :: (behind ++ rest) := by
  have hsplit := List.takeWhile_append_dropWhile (p := (! isLineEnd ·)) (l := chars)
  have hlong : ¬ (chars.takeWhile (! isLineEnd ·)).length = chars.length := by
    have hlength := congrArg List.length hsplit
    rw [hend, List.length_append, List.length_cons] at hlength
    omega
  rw [List.takeWhile_append, if_neg hlong, List.dropWhile_append, hend]
  exact ⟨rfl, rfl⟩

theorem takeWhile_dropWhile_frames {line : Bytes} (hline : ∀ b ∈ line, isLineEnd b = false)
    (others : List Bytes) :
    (frames (line :: others)).takeWhile (! isLineEnd ·) = line ∧
      (frames (line :: others)).dropWhile (! isLineEnd ·) = 13 :: 10 :: frames others := by
  have hpass : ∀ b ∈ line, (! isLineEnd b) = true := by simpa using hline
  rw [frames_cons, List.takeWhile_append_of_pos hpass, List.dropWhile_append_of_pos hpass]
  simp [isLineEnd]

/-- Where a line end has arrived, the next message has arrived up to its CR. -/
theorem exists_line_of_dropWhile {chars rest behind : Bytes} {b : UInt8} {more : List Bytes}
    (hsafe : ∀ line ∈ more, ∀ b ∈ line, isLineEnd b = false)
    (hchars : chars ++ rest = frames more)
    (hend : chars.dropWhile (! isLineEnd ·) = b :: behind) :
    b = 13 ∧ ∃ others, more = chars.takeWhile (! isLineEnd ·) :: others := by
  obtain ⟨htake, hdrop⟩ := takeWhile_dropWhile_append hend rest
  cases more with
  | nil =>
    rw [frames_nil, List.append_eq_nil_iff] at hchars
    rw [hchars.1] at hend
    cases hend
  | cons line others =>
    obtain ⟨hline, hbehind⟩ := takeWhile_dropWhile_frames (hsafe line List.mem_cons_self) others
    rw [← hchars] at hline hbehind
    rw [hdrop] at hbehind
    exact ⟨(List.cons.inj hbehind).1, others, by rw [← htake, hline]⟩

/-- A stream of messages without a line end has none. -/
theorem eq_nil_of_dropWhile {more : List Bytes}
    (hsafe : ∀ line ∈ more, ∀ b ∈ line, isLineEnd b = false)
    (hnone : (frames more).dropWhile (! isLineEnd ·) = []) : more = [] := by
  cases more with
  | nil => rfl
  | cons line others =>
    rw [(takeWhile_dropWhile_frames (hsafe line List.mem_cons_self) others).2] at hnone
    cases hnone

/-- A line is read: it is the next message, provided that the stream does not end inside a
message. -/
theorem Reads.readLine {reader reader' : LineReader} {stream rest line : Bytes}
    {lines more : List Bytes} {ended : Bool} (h : Reads reader stream lines)
    (hsafe : ∀ line ∈ more, ∀ b ∈ line, isLineEnd b = false)
    (hstream : stream ++ rest = frames (lines ++ more)) (hended : ended = true → rest = [])
    (hread : reader.readLine ended = some (line, reader')) :
    ∃ others, more = line :: others ∧ Reads reader' stream (lines ++ [line]) := by
  obtain ⟨hnil, -⟩ | ⟨hbytes, hchars⟩ := h.chars_append hstream
  · rw [LineReader.readLine, chars, hnil] at hread
    simp at hread
  rw [LineReader.readLine] at hread
  split at hread
  · rename_i b behind hend
    obtain ⟨rfl, others, rfl⟩ := exists_line_of_dropWhile hsafe hchars hend
    obtain ⟨rfl, rfl⟩ := Prod.mk.inj (Option.some.inj hread)
    refine ⟨others, rfl, ?_⟩
    obtain ⟨consumed, rfl, hlines⟩ := h
    have hsplit := List.takeWhile_append_dropWhile (p := (! isLineEnd ·)) (l := reader.chars)
    rw [hend] at hsplit
    refine ⟨frames lines ++ reader.chars.takeWhile (! isLineEnd ·) ++ [13], ?_, ?_⟩
    · rw [hlines, hbytes]
      conv_lhs => rw [← hsplit]
      simp
    · rw [frames_append, frames_cons]
      simp
  · rename_i hnone
    obtain ⟨⟨hend, hne⟩, -⟩ := Option.ite_none_right_eq_some.mp hread
    rw [hended hend, List.append_nil] at hchars
    rw [hchars, eq_nil_of_dropWhile hsafe (hchars ▸ hnone)] at hne
    exact absurd rfl hne

/-- When nothing can be read although the stream has come to the end of a message, all messages
have been read. -/
theorem Reads.eq_nil_of_readLine {reader : LineReader} {stream : Bytes} {lines more : List Bytes}
    {ended : Bool} (h : Reads reader stream lines)
    (hsafe : ∀ line ∈ more, ∀ b ∈ line, isLineEnd b = false)
    (hstream : stream = frames (lines ++ more)) (hread : reader.readLine ended = none) :
    more = [] := by
  rw [← List.append_nil stream] at hstream
  obtain ⟨hnil, hskip⟩ | ⟨-, hchars⟩ := h.chars_append hstream
  · have hunread := h.unread_append hstream
    simp [hnil, hskip] at hunread
  · rw [List.append_nil] at hchars
    rw [LineReader.readLine] at hread
    split at hread
    · cases hread
    · rename_i hnone
      exact eq_nil_of_dropWhile hsafe (hchars ▸ hnone)

end LineReader

end IotMonitoring.Text
