import IotMonitoring.Text.Lines
import IotMonitoring.Text.Tokens

/-!
# The line protocol of the server

`protocol_parse` copies a received chunk, ends it at the first CR or LF, takes the first
space-separated token as the command name and up to eight further tokens as arguments; the
arguments are positions inside the message's own buffer, which the tokenizer has written NULs into.
The reply builders format into one static buffer of 512 bytes. The parser is compared with a
description of the grammar in terms of the words of the line.
-/

namespace IotMonitoring.Server.Protocol

open Text

def maxBufferSize : ℕ := 1024

def maxArgs : ℕ := 8

/-- Size of the static `resp_buf`. -/
def respBufSize : ℕ := 512

inductive CommandType where
  | unknown
  | registerSensor
  | measurement
  | login
  | getSensors
  | getStatus
  | getAlerts
  | ping
  | operatorIdentify
deriving DecidableEq, Repr

/-- `tolower` in the C locale. -/
def toLower (b : UInt8) : UInt8 := if 65 ≤ b ∧ b ≤ 90 then b + 32 else b

/-- `strcasecmp(token, name) == 0`. -/
def strcasecmp (token : Bytes) (name : String) : Bool :=
  token.map toLower = (ascii name).map toLower

/-- The comparisons of the first token with the command names, in source order. -/
def commandOf (token : Bytes) : CommandType :=
  if strcasecmp token "REGISTER_SENSOR" then .registerSensor
  else if strcasecmp token "MEASUREMENT" then .measurement
  else if strcasecmp token "LOGIN" then .login
  else if strcasecmp token "GET_SENSORS" then .getSensors
  else if strcasecmp token "GET_STATUS" then .getStatus
  else if strcasecmp token "GET_ALERTS" then .getAlerts
  else if strcasecmp token "PING" then .ping
  else if strcasecmp token "OPERATOR_IDENTIFY" then .operatorIdentify
  else .unknown

/-- A parsed message. The arguments are positions in `rawBuffer`; bytes of the source's buffer
behind the initialized part are never read and are left out. -/
structure ParsedMessage where
  type : CommandType
  args : List ℕ
  rawBuffer : Bytes
  argc_le : args.length ≤ maxArgs

/-- The strings `args[0..argc-1]` as they read after the call. -/
def ParsedMessage.argStrings (msg : ParsedMessage) : List CString :=
  msg.args.map (readAt msg.rawBuffer)

/-- The delimiter string `" "` of the `strtok` calls. -/
def isSpace (b : UInt8) : Bool := b = 32

/-- The loop that ends the copied chunk at its first CR or LF. -/
def terminateLine : Bytes → Bytes
  | [] => []
  | b :: rest =>
    if b = 0 then b :: rest
    else if isLineEnd b then 0 :: rest
    else b :: terminateLine rest

/-- The argument loop, with `room` free places in `args`. It calls `strtok` once more after the
last place is filled. -/
def collectArgs : ℕ → Bytes → ℕ → List ℕ × Bytes
  | 0, buffer, save => ([], (strtok isSpace buffer save).buffer)
  | room + 1, buffer, save =>
    let call := strtok isSpace buffer save
    match call.token with
    | none => ([], call.buffer)
    | some token =>
      let rest := collectArgs room call.buffer call.save
      (token :: rest.1, rest.2)

theorem length_collectArgs_le (room : ℕ) (buffer : Bytes) (save : ℕ) :
    (collectArgs room buffer save).1.length ≤ room := by
  induction room generalizing buffer save with
  | zero => simp [collectArgs]
  | succ room ih =>
    rw [collectArgs]
    split
    · exact Nat.zero_le _
    · exact Nat.succ_le_succ (ih _ _)

/-- The body of the parser after its first `strtok` call. -/
def messageFrom (first : Strtok) : ParsedMessage :=
  match first.token with
  | none => ⟨.unknown, [], first.buffer, Nat.zero_le _⟩
  | some name =>
    let rest := collectArgs maxArgs first.buffer first.save
    ⟨commandOf (readAt first.buffer name).bytes, rest.1, rest.2,
      length_collectArgs_le maxArgs first.buffer first.save⟩

/-- `protocol_parse` run alone on the received bytes; `none` is the return value `-1`. -/
def protocolParse (buffer : Bytes) : Option ParsedMessage :=
  if buffer.length = 0 ∨ maxBufferSize ≤ buffer.length then none
  else some (messageFrom (strtok isSpace (terminateLine (buffer ++ [0])) 0))

/-- What one successful `recv` of `handle_client` puts into its 1024-byte buffer: at least one byte
and at most 1023. -/
structure Chunk where
  bytes : Bytes
  pos : 0 < bytes.length
  lt : bytes.length < maxBufferSize

/-- The message the parser makes of a chunk when it runs alone. -/
def Chunk.message (chunk : Chunk) : ParsedMessage :=
  messageFrom (strtok isSpace (terminateLine (chunk.bytes ++ [0])) 0)

/-- The parser cannot fail on a received chunk. -/
theorem Chunk.protocolParse_eq (chunk : Chunk) :
    protocolParse chunk.bytes = some chunk.message := by
  have hpos := chunk.pos
  have hlt := chunk.lt
  rw [protocolParse, if_neg (by omega)]
  rfl

/-! ## Replies -/

/-- A reply text and its line end, formatted into `resp_buf`. -/
def buildLine (text : CString) : CString := CString.snprintf respBufSize (text ++ crlf)

def protocolBuildOk (details : Option CString) : CString :=
  buildLine (CString.lit "OK " ++ details.getD ∅)

def protocolBuildError (code desc : Option CString) : CString :=
  buildLine (CString.lit "ERROR " ++ code.getD (CString.lit "500") ++ CString.lit " " ++
    desc.getD ∅)

def protocolBuildSensorsList (listData : Option CString) : CString :=
  buildLine (CString.lit "SENSORS " ++ listData.getD ∅)

def protocolBuildAlertsList (alertsData : Option CString) : CString :=
  buildLine (CString.lit "ALERTS " ++ alertsData.getD ∅)

def protocolBuildStatus (statusText : Option CString) : CString :=
  buildLine (CString.lit "STATUS " ++ statusText.getD (CString.lit "OK"))

/-! ## The documented grammar -/

/-- The part of a chunk that is parsed: what precedes the first CR, LF or NUL. -/
def lineOf (buffer : Bytes) : Bytes := buffer.takeWhile fun b ↦ b ≠ 0 ∧ ¬ isLineEnd b

/-- Command and arguments of a line: its first word names the command, the next eight words are
the arguments. -/
def fields (line : Bytes) : CommandType × List Bytes :=
  match words isSpace line with
  | [] => (.unknown, [])
  | name :: args => (commandOf name, args.take maxArgs)

theorem lineOf_noNul (buffer : Bytes) : 0 ∉ lineOf buffer := by
  intro h
  simpa using List.mem_takeWhile_imp h

theorem lineOf_noLineEnd (text : Bytes) : ∀ b ∈ lineOf text, ¬ isLineEnd b := by
  intro b hb
  have hpass := List.mem_takeWhile_imp hb
  simp only [decide_eq_true_eq] at hpass
  exact hpass.2

/-- A line end stops the line, whatever follows. -/
theorem lineOf_append {line : Bytes} (hline : ∀ b ∈ line, b ≠ 0 ∧ ¬ isLineEnd b) {stop : UInt8}
    (hstop : isLineEnd stop) (rest : Bytes) : lineOf (line ++ stop :: rest) = line := by
  rw [lineOf, List.takeWhile_append_of_pos (by simpa using hline),
    List.takeWhile_cons_of_neg (by simp [hstop]), List.append_nil]

/-- Ending the copy at the line end leaves the line followed by a NUL. -/
theorem terminateLine_eq (buffer : Bytes) :
    ∃ after, terminateLine (buffer ++ [0]) = lineOf buffer ++ 0 :: after := by
  induction buffer with
  | nil => exact ⟨[], rfl⟩
  | cons b buffer ih =>
    obtain ⟨after, hafter⟩ := ih
    rw [List.cons_append, terminateLine]
    by_cases hzero : b = 0
    · exact ⟨buffer ++ [0], by simp [hzero, lineOf]⟩
    by_cases hend : isLineEnd b
    · exact ⟨buffer ++ [0], by simp [hzero, hend, lineOf]⟩
    · exact ⟨after, by simp [hzero, hend, lineOf, hafter]⟩

/-- The argument loop returns the words of the remaining text, as many as there is room for, and
leaves the bytes before the saved position alone. -/
theorem collectArgs_spec (room : ℕ) (before after : Bytes) {text : Bytes} (htext : 0 ∉ text) :
    let result := collectArgs room (before ++ text ++ 0 :: after) before.length
    ∃ tail, result.2 = before ++ tail ∧ (text = [] → tail.head? = some 0) ∧
      result.1.map (fun position ↦ (readAt result.2 position).bytes) =
        (words isSpace text).take room := by
  induction room generalizing before text with
  | zero =>
    cases hwords : words isSpace text with
    | nil =>
      refine ⟨text ++ 0 :: after, ?_, fun h ↦ by simp [h], by simp [collectArgs]⟩
      rw [collectArgs, strtok_of_words_nil before after htext hwords, List.append_assoc]
    | cons word others =>
      obtain ⟨skip, sep, rest, -, -, -, -, -, hcall⟩ :=
        strtok_of_words_cons before after htext hwords
      refine ⟨skip ++ word ++ sep ++ rest ++ 0 :: after, ?_, ?_, by simp [collectArgs]⟩
      · rw [collectArgs, hcall]
        simp
      · rintro rfl
        simp [words_nil] at hwords
  | succ room ih =>
    cases hwords : words isSpace text with
    | nil =>
      have hresult : collectArgs (room + 1) (before ++ text ++ 0 :: after) before.length =
          ([], before ++ text ++ 0 :: after) := by
        rw [collectArgs, strtok_of_words_nil before after htext hwords]
      rw [hresult]
      exact ⟨text ++ 0 :: after, by simp, fun h ↦ by simp [h], rfl⟩
    | cons word others =>
      obtain ⟨skip, sep, rest, -, hothers, hrest, hword, hsep, hcall⟩ :=
        strtok_of_words_cons before after htext hwords
      obtain ⟨tail, hbuffer, hhead, hargs⟩ :=
        ih (before ++ (skip ++ word ++ sep)) hrest
      have hresult : collectArgs (room + 1) (before ++ text ++ 0 :: after) before.length =
          ((before.length + skip.length) ::
            (collectArgs room (before ++ (skip ++ word ++ sep) ++ rest ++ 0 :: after)
              (before ++ (skip ++ word ++ sep)).length).1,
            (collectArgs room (before ++ (skip ++ word ++ sep) ++ rest ++ 0 :: after)
              (before ++ (skip ++ word ++ sep)).length).2) := by
        rw [collectArgs, hcall]
      -- The NUL behind the word is the one written by the call or the end of the text.
      have hnul : (sep ++ tail).head? = some 0 := by
        obtain rfl | ⟨rfl, rfl⟩ := hsep
        · rfl
        · exact hhead rfl
      have hfirst : (readAt (before ++ (skip ++ word ++ sep) ++ tail)
          (before.length + skip.length)).bytes = word := readAt_word before hword hnul
      rw [hresult]
      refine ⟨skip ++ word ++ sep ++ tail, ?_, ?_, ?_⟩
      · rw [hbuffer]
        simp
      · rintro rfl
        simp [words_nil] at hwords
      · rw [List.map_cons, hargs, hbuffer]
        calc
          _ = word :: (words isSpace rest).take room := by rw [hfirst]
          _ = (word :: others).take (room + 1) := by rw [hothers, List.take_succ_cons]

/-- `protocol_parse` implements the grammar on every received chunk. -/
theorem Chunk.message_fields (chunk : Chunk) :
    chunk.message.type = (fields (lineOf chunk.bytes)).1 ∧
      chunk.message.argStrings.map CString.bytes = (fields (lineOf chunk.bytes)).2 := by
  obtain ⟨after, hraw⟩ := terminateLine_eq chunk.bytes
  have htext := lineOf_noNul chunk.bytes
  rw [Chunk.message, hraw]
  cases hwords : words isSpace (lineOf chunk.bytes) with
  | nil =>
    have hcall := strtok_of_words_nil [] after htext hwords
    rw [List.nil_append, List.length_nil] at hcall
    rw [hcall]
    simp [messageFrom, fields, hwords, ParsedMessage.argStrings]
  | cons name args =>
    obtain ⟨skip, sep, rest, -, hrest, hnul, hname, hsep, hcall⟩ :=
      strtok_of_words_cons [] after htext hwords
    rw [List.nil_append, List.length_nil, List.nil_append, Nat.zero_add] at hcall
    obtain ⟨tail, -, -, hargs⟩ :=
      collectArgs_spec maxArgs (skip ++ name ++ sep) after hnul
    have hread : (readAt (skip ++ name ++ sep ++ rest ++ 0 :: after) skip.length).bytes =
        name := by
      have hfollow : (sep ++ (rest ++ 0 :: after)).head? = some 0 := by
        obtain rfl | ⟨rfl, rfl⟩ := hsep <;> rfl
      have hfirst : (readAt ([] ++ (skip ++ name ++ sep) ++ (rest ++ 0 :: after))
          (([] : Bytes).length + skip.length)).bytes = name := readAt_word [] hname hfollow
      simpa using hfirst
    rw [hcall]
    refine ⟨by simp only [messageFrom, fields, hwords, hread], ?_⟩
    simp only [messageFrom, fields, hwords, ParsedMessage.argStrings, List.map_map, ← hrest,
      ← hargs]
    rfl

/-- Every argument is a word of the line. -/
theorem Chunk.arg_mem_words (chunk : Chunk) {arg : CString}
    (harg : arg ∈ chunk.message.argStrings) :
    arg.bytes ∈ words isSpace (lineOf chunk.bytes) := by
  have hmem : arg.bytes ∈ (fields (lineOf chunk.bytes)).2 := by
    rw [← chunk.message_fields.2]
    exact List.mem_map_of_mem harg
  unfold fields at hmem
  split at hmem
  · simp at hmem
  · rename_i name args hwords
    rw [hwords]
    exact List.mem_cons_of_mem name (List.mem_of_mem_take hmem)

/-- Arguments have no line ends. -/
theorem Chunk.lineSafe_of_mem_args (chunk : Chunk) {arg : CString}
    (harg : arg ∈ chunk.message.argStrings) : arg.LineSafe := by
  intro b hb
  have hline : b ∈ lineOf chunk.bytes := by
    have hflat := List.mem_flatten_of_mem (chunk.arg_mem_words harg) hb
    rw [flatten_words] at hflat
    exact List.mem_of_mem_filter hflat
  simpa using lineOf_noLineEnd chunk.bytes b hline

end IotMonitoring.Server.Protocol
