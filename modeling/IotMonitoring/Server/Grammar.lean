import IotMonitoring.Server.Protocol

/-!
# The documented grammar in the buffer of the message

`protocol_parse` leaves the arguments as positions in its own buffer. The tokenizer writes nothing
but NULs into that buffer, so the NUL behind the copied chunk stays and every argument ends inside
the buffer. Together with the words that the arguments read as, this is the message structure of
the protocol description.
-/

namespace IotMonitoring.Server.Protocol

open Text

/-- The name of a command. -/
def commandName : CommandType → Option String
  | .unknown => none
  | .registerSensor => some "REGISTER_SENSOR"
  | .measurement => some "MEASUREMENT"
  | .login => some "LOGIN"
  | .getSensors => some "GET_SENSORS"
  | .getStatus => some "GET_STATUS"
  | .getAlerts => some "GET_ALERTS"
  | .ping => some "PING"
  | .operatorIdentify => some "OPERATOR_IDENTIFY"

theorem commandName_eq_none_iff {command : CommandType} :
    commandName command = none ↔ command = .unknown := by
  cases command <;> simp [commandName]

/-- The comparisons of the parser tell the names apart. -/
theorem commandOf_eq_iff {command : CommandType} {name : String}
    (hname : commandName command = some name) (token : Bytes) :
    commandOf token = command ↔ strcasecmp token name := by
  constructor
  · rintro rfl
    unfold commandOf at hname
    split_ifs at hname <;> cases hname <;> assumption
  · intro hequal
    have htoken : token.map toLower = (ascii name).map toLower := by simpa [strcasecmp] using hequal
    cases command <;> cases hname <;>
      · simp only [commandOf, strcasecmp, htoken]
        decide

theorem commandOf_eq_unknown_iff (token : Bytes) :
    commandOf token = .unknown ↔
      ∀ command name, commandName command = some name → strcasecmp token name = false := by
  constructor
  · intro hunknown command name hname
    by_contra hequal
    rw [Bool.not_eq_false, ← commandOf_eq_iff hname, hunknown] at hequal
    subst hequal
    cases hname
  · intro hnone
    cases hname : commandName (commandOf token) with
    | none => exact commandName_eq_none_iff.mp hname
    | some name =>
      have hequal := (commandOf_eq_iff hname token).mp rfl
      rw [hnone _ name hname] at hequal
      cases hequal

/-! ## The buffer -/

@[simp]
theorem length_terminateLine (buffer : Bytes) :
    (terminateLine buffer).length = buffer.length := by
  induction buffer with
  | nil => rfl
  | cons b rest ih =>
    rw [terminateLine]
    split
    · rfl
    · split
      · rfl
      · rw [List.length_cons, ih, List.length_cons]

theorem terminateLine_nul {buffer : Bytes} {i : ℕ} (h : buffer[i]? = some 0) :
    (terminateLine buffer)[i]? = some 0 := by
  induction buffer generalizing i with
  | nil => exact h
  | cons b rest ih =>
    rw [terminateLine]
    split
    · exact h
    · split
      · cases i with
        | zero => rfl
        | succ i => exact h
      · cases i with
        | zero => exact h
        | succ i => exact ih h

theorem collectArgs_nul {last : ℕ} (room : ℕ) {buffer : Bytes} (h : buffer[last]? = some 0)
    (save : ℕ) :
    (collectArgs room buffer save).2[last]? = some 0 ∧
      (collectArgs room buffer save).2.length = buffer.length := by
  induction room generalizing buffer save with
  | zero => exact ⟨strtok_nul h isSpace save, length_buffer_strtok isSpace buffer save⟩
  | succ room ih =>
    have hcall := strtok_nul h isSpace save
    rw [collectArgs]
    split
    · exact ⟨hcall, length_buffer_strtok isSpace buffer save⟩
    · obtain ⟨hnul, hlength⟩ := ih hcall (strtok isSpace buffer save).save
      exact ⟨hnul, hlength.trans (length_buffer_strtok isSpace buffer save)⟩

/-- The buffer of a message has room for the chunk and one NUL, which is still there at its end. -/
theorem Chunk.rawBuffer_nul (chunk : Chunk) :
    chunk.message.rawBuffer[chunk.bytes.length]? = some 0 ∧
      chunk.message.rawBuffer.length = chunk.bytes.length + 1 := by
  have hcopy : (terminateLine (chunk.bytes ++ [0]))[chunk.bytes.length]? = some 0 :=
    terminateLine_nul (by simp)
  have hfirst := strtok_nul hcopy isSpace 0
  have hlength : (strtok isSpace (terminateLine (chunk.bytes ++ [0])) 0).buffer.length =
      chunk.bytes.length + 1 := by simp
  rw [Chunk.message, messageFrom]
  split
  · exact ⟨hfirst, hlength⟩
  · obtain ⟨hnul, hkeep⟩ := collectArgs_nul maxArgs hfirst
      (strtok isSpace (terminateLine (chunk.bytes ++ [0])) 0).save
    exact ⟨hnul, hkeep.trans hlength⟩

/-- Read from its front, the buffer ends behind the command name: the tokenizer has written a NUL
there, or the line ends there. -/
theorem Chunk.readAt_rawBuffer (chunk : Chunk) :
    (readAt chunk.message.rawBuffer 0).bytes = leadingWord isSpace (lineOf chunk.bytes) := by
  obtain ⟨after, hcopy⟩ := terminateLine_eq chunk.bytes
  have htext := lineOf_noNul chunk.bytes
  rw [Chunk.message, hcopy]
  cases hwords : words isSpace (lineOf chunk.bytes) with
  | nil =>
    have hcall := strtok_of_words_nil [] after htext hwords
    rw [List.nil_append, List.length_nil] at hcall
    rw [hcall, messageFrom, readAt, List.drop_zero, leadingWord_of_words_nil hwords]
    exact CString.read_append_nul htext after
  | cons name args =>
    obtain ⟨skip, sep, rest, hleading, -, hrest, hname, hsep, hcall⟩ :=
      strtok_of_words_cons [] after htext hwords
    rw [List.nil_append, List.length_nil, List.nil_append, Nat.zero_add] at hcall
    obtain ⟨tail, hbuffer, hhead, -⟩ :=
      collectArgs_spec maxArgs (skip ++ name ++ sep) after hrest
    have hnul : (sep ++ tail).head? = some 0 := by
      obtain rfl | ⟨rfl, rfl⟩ := hsep
      · rfl
      · exact hhead rfl
    have hfront : 0 ∉ skip ++ name := by
      rw [← hleading]
      exact fun h ↦ htext ((isLeadingWord_leadingWord _).1.mem h)
    rw [hcall, messageFrom, readAt, List.drop_zero, hleading]
    dsimp only
    rw [hbuffer, List.append_assoc, List.eq_cons_of_mem_head? hnul]
    exact CString.read_append_nul hfront _

/-! ## Messages -/

/-- A position of the buffer where a word without separators and line ends starts that a NUL inside
the buffer follows. -/
structure HoldsWord (rawBuffer : Bytes) (position : ℕ) (word : Bytes) : Prop where
  reads : (readAt rawBuffer position).bytes = word
  nul : rawBuffer[position + word.length]? = some 0
  inside : position + word.length < rawBuffer.length
  separated : ∀ b ∈ word, b ≠ 32 ∧ b ≠ 13 ∧ b ≠ 10

/-- What the grammar makes of a line: the first word names the command, and the next words, at most
eight of them, are the arguments. -/
structure Parses (line : Bytes) (msg : ParsedMessage) : Prop where
  named : ∀ command name, commandName command = some name → (msg.type = command ↔
    ∃ token, (words isSpace line).head? = some token ∧ strcasecmp token name)
  unnamed : msg.type = .unknown ↔ ∀ token, (words isSpace line).head? = some token →
    ∀ command name, commandName command = some name → strcasecmp token name = false
  argc : msg.args.length = min maxArgs (words isSpace line).tail.length
  args : ∀ (k position : ℕ), msg.args[k]? = some position →
    ∃ word, (words isSpace line).tail[k]? = some word ∧ HoldsWord msg.rawBuffer position word

theorem holdsWord_of_mem_words (chunk : Chunk) {position : ℕ} {word : Bytes}
    (hword : word ∈ words isSpace (lineOf chunk.bytes))
    (hreads : (readAt chunk.message.rawBuffer position).bytes = word) :
    HoldsWord chunk.message.rawBuffer position word := by
  obtain ⟨hnul, hlength⟩ := chunk.rawBuffer_nul
  have hposition : position ≤ chunk.bytes.length := by
    by_contra hout
    have hdrop : chunk.message.rawBuffer.drop position = [] :=
      List.drop_eq_nil_of_le (by omega)
    rw [readAt, hdrop] at hreads
    exact ne_nil_of_mem_words hword hreads.symm
  obtain ⟨hends, hterminated⟩ := readAt_ends hposition hnul
  rw [CString.length, hreads] at hends hterminated
  refine ⟨hreads, hterminated, by omega, fun b hb ↦ ?_⟩
  obtain ⟨hline, hspace⟩ := mem_text_of_mem_words hword b hb
  have hend := lineOf_noLineEnd chunk.bytes b hline
  simp only [isSpace, decide_eq_false_iff_not] at hspace
  simp only [isLineEnd, decide_eq_true_eq, not_or] at hend
  exact ⟨hspace, hend⟩

/-- `protocol_parse` implements the grammar on every received chunk, and its arguments lie in its
own buffer. -/
theorem protocolParse_parses (chunk : Chunk) :
    ∃ msg, protocolParse chunk.bytes = some msg ∧ Parses (lineOf chunk.bytes) msg ∧
      msg.rawBuffer.length = chunk.bytes.length + 1 := by
  obtain ⟨htype, hargs⟩ := chunk.message_fields
  refine ⟨chunk.message, chunk.protocolParse_eq, ?_, chunk.rawBuffer_nul.2⟩
  cases hwords : words isSpace (lineOf chunk.bytes) with
  | nil =>
    simp only [fields, hwords] at htype hargs
    have hnone : chunk.message.args = [] := by
      simpa [ParsedMessage.argStrings] using hargs
    refine ⟨fun command name hname ↦ ?_, ?_, ?_, ?_⟩
    · rw [hwords, htype]
      refine ⟨?_, by simp⟩
      rintro rfl
      cases hname
    · simp [hwords, htype]
    · simp [hwords, hnone]
    · simp [hnone]
  | cons token rest =>
    simp only [fields, hwords] at htype hargs
    refine ⟨fun command name hname ↦ ?_, ?_, ?_, ?_⟩
    · simp [hwords, htype, commandOf_eq_iff hname]
    · simp [hwords, htype, commandOf_eq_unknown_iff]
    · have hlength := congrArg List.length hargs
      simpa [ParsedMessage.argStrings, hwords] using hlength
    · intro k position hposition
      have hk : some (readAt chunk.message.rawBuffer position).bytes = (rest.take maxArgs)[k]? := by
        rw [← hargs, ParsedMessage.argStrings, List.map_map, List.getElem?_map, hposition]
        rfl
      rw [List.getElem?_take] at hk
      split at hk
      · refine ⟨_, by rw [hwords, List.tail_cons, ← hk], holdsWord_of_mem_words chunk ?_ rfl⟩
        rw [hwords]
        exact List.mem_cons_of_mem token (List.mem_of_getElem? hk.symm)
      · cases hk

end IotMonitoring.Server.Protocol
