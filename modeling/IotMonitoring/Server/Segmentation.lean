import IotMonitoring.Server.HandleClient
import Mathlib.Algebra.Order.BigOperators.Group.List
import Mathlib.Algebra.Order.Ring.Nat

/-!
# Command lines and received chunks

Commands are lines that end in CR LF, but the handler parses each received chunk on its own and
keeps nothing for the next one. It handles a stream line by line exactly when there are as many
chunks as lines and each chunk, up to its first line end, has the fields of its line. For lines
that name a command and carry no more arguments than the parser keeps, this means that every chunk
is one line. The comparison counts the bytes of words: none of them may be left behind the first
line end of a chunk.
-/

namespace IotMonitoring.Server.Segmentation

open Text Protocol HandleClient

/-- A command line without its CR LF. -/
structure Line where
  bytes : Bytes
  plain : ∀ b ∈ bytes, b ≠ 0 ∧ ¬ isLineEnd b
  short : bytes.length + 2 ≤ 1023

namespace Line

def framed (line : Line) : Bytes := line.bytes ++ [13, 10]

theorem length_framed (line : Line) : line.framed.length = line.bytes.length + 2 := by
  simp [framed]

theorem length_framed_lt (line : Line) : line.framed.length < maxBufferSize := by
  rw [length_framed]
  exact line.short.trans_lt (by decide)

/-- The chunk that holds just this line. -/
def chunk (line : Line) : Chunk :=
  ⟨line.framed, line.length_framed ▸ Nat.succ_pos _, line.length_framed_lt⟩

/-- The line names a command, from its first byte on, and the parser keeps all its arguments. -/
structure IsCommand (line : Line) : Prop where
  head : line.bytes.head? ≠ some 32
  fits : ∃ name args, words isSpace line.bytes = name :: args ∧ commandOf name ≠ .unknown ∧
    args.length ≤ maxArgs

end Line

/-- The bytes a client sends for a sequence of commands. -/
def stream (lines : List Line) : Bytes := (lines.map Line.framed).flatten

/-- The handler dispatches what the parser makes of each line alone, and replies once a line. -/
def LineByLine (iterations : List Iteration) (lines : List Line) : Prop :=
  (iterations.map fun iteration ↦ (iteration.type, iteration.args)) =
      lines.map (fun line ↦ (line.chunk.message.type, line.chunk.message.argStrings)) ∧
    (iterations.map Iteration.reply).length = lines.length

/-- There is a round for each line, with the line's fields before its first line end. -/
def ReadsLines (rounds : List Round) (lines : List Line) : Prop :=
  List.Forall₂ (fun round line ↦ fields (lineOf round.chunk.bytes) = fields line.bytes)
    rounds lines

/-! ## Fields -/

theorem lineOf_framed (line : Line) : lineOf line.framed = line.bytes :=
  lineOf_append (by simpa using line.plain) (by decide) [10]

/-- Two chunks are parsed alike when their first lines have the same fields. -/
theorem message_eq_iff (first second : Chunk) :
    ((first.message.type, first.message.argStrings) =
      (second.message.type, second.message.argStrings)) ↔
      fields (lineOf first.bytes) = fields (lineOf second.bytes) := by
  have hinjective : Function.Injective CString.bytes := fun _ _ ↦ CString.ext
  obtain ⟨htype, hargs⟩ := first.message_fields
  obtain ⟨htype', hargs'⟩ := second.message_fields
  calc
    _ ↔ first.message.type = second.message.type ∧
        first.message.argStrings = second.message.argStrings := Prod.ext_iff
    _ ↔ first.message.type = second.message.type ∧ first.message.argStrings.map CString.bytes =
        second.message.argStrings.map CString.bytes := by
      rw [(List.map_injective_iff.mpr hinjective).eq_iff]
    _ ↔ fields (lineOf first.bytes) = fields (lineOf second.bytes) := by
      rw [htype, hargs, htype', hargs', ← Prod.ext_iff]

variable {D κ : Type} [CDouble D]

/-- As long as replies can be sent, the handler dispatches every chunk it receives. -/
theorem requests_handleClient (client : Client κ) {rounds : List Round}
    (hsent : ∀ round ∈ rounds, round.sent = true) (s : ServerState D κ) :
    ((handleClient client rounds s).2.map fun iteration ↦ (iteration.type, iteration.args)) =
      rounds.map fun round ↦ (round.chunk.message.type, round.chunk.message.argStrings) := by
  induction rounds generalizing s with
  | nil => rfl
  | cons round rounds ih =>
    have hround := hsent round List.mem_cons_self
    have hrounds := ih fun other hother ↦ hsent other (List.mem_cons_of_mem round hother)
    rw [handleClient, if_pos hround, List.map_cons, List.map_cons, hrounds]

theorem lineByLine_iff_readsLines (client : Client κ) {rounds : List Round}
    (hsent : ∀ round ∈ rounds, round.sent = true) (s : ServerState D κ) (lines : List Line) :
    LineByLine (handleClient client rounds s).2 lines ↔ ReadsLines rounds lines := by
  have hlength := congrArg List.length (requests_handleClient client hsent s)
  simp only [List.length_map] at hlength
  rw [LineByLine, requests_handleClient client hsent s, List.length_map, hlength, ReadsLines]
  constructor
  · rintro ⟨hrequests, -⟩
    rw [← List.forall₂_eq_eq_eq, List.forall₂_map_left_iff, List.forall₂_map_right_iff]
      at hrequests
    exact hrequests.imp fun round line hrequest ↦ by
      simpa only [Line.chunk, lineOf_framed] using (message_eq_iff _ _).mp hrequest
  · intro hreads
    refine ⟨?_, hreads.length_eq⟩
    rw [← List.forall₂_eq_eq_eq, List.forall₂_map_left_iff, List.forall₂_map_right_iff]
    exact hreads.imp fun round line hfields ↦ (message_eq_iff _ _).mpr <| by
      simpa only [Line.chunk, lineOf_framed] using hfields

/-! ## Bytes of words -/

def isWordByte (b : UInt8) : Bool := !isSpace b && !isLineEnd b

/-- The number of bytes that are neither spaces nor line ends. -/
def weight (text : Bytes) : ℕ := text.countP isWordByte

@[simp]
theorem weight_append (text rest : Bytes) : weight (text ++ rest) = weight text + weight rest :=
  List.countP_append

@[simp]
theorem weight_framed (line : Line) : weight line.framed = weight line.bytes := by
  rw [Line.framed, weight_append]
  rfl

theorem weight_flatten (texts : List Bytes) : weight texts.flatten = (texts.map weight).sum := by
  induction texts with
  | nil => rfl
  | cons text texts ih =>
    calc
      weight (text :: texts).flatten = weight text + weight texts.flatten := weight_append _ _
      _ = weight text + (texts.map weight).sum := by rw [ih]
      _ = ((text :: texts).map weight).sum := rfl

theorem weight_lineOf_le (text : Bytes) : weight (lineOf text) ≤ weight text :=
  (List.takeWhile_sublist _).countP_le

/-- On one line the words make up the weight. -/
theorem weight_eq_length_words {text : Bytes} (h : ∀ b ∈ text, ¬ isLineEnd b) :
    weight text = ((words isSpace text).map List.length).sum := by
  rw [← List.length_flatten, flatten_words, weight, List.countP_eq_length_filter]
  congr 1
  refine List.filter_congr fun b hb ↦ ?_
  simp [isWordByte, h b hb]

/-- The name of a known command, as the source spells it. -/
def commandName : CommandType → String
  | .unknown => ""
  | .registerSensor => "REGISTER_SENSOR"
  | .measurement => "MEASUREMENT"
  | .login => "LOGIN"
  | .getSensors => "GET_SENSORS"
  | .getStatus => "GET_STATUS"
  | .getAlerts => "GET_ALERTS"
  | .ping => "PING"
  | .operatorIdentify => "OPERATOR_IDENTIFY"

theorem strcasecmp_commandName {token : Bytes} (h : commandOf token ≠ .unknown) :
    strcasecmp token (commandName (commandOf token)) := by
  unfold commandOf at h ⊢
  split_ifs at h ⊢ <;> first | assumption | exact absurd rfl h

/-- Tokens that name the same command have the same length. -/
theorem length_eq_of_commandOf_eq {token token' : Bytes} (heq : commandOf token = commandOf token')
    (h : commandOf token' ≠ .unknown) : token.length = token'.length := by
  have hlength : ∀ t, commandOf t = commandOf token' →
      t.length = (ascii (commandName (commandOf token'))).length := by
    intro t ht
    have hname := strcasecmp_commandName (ht ▸ h : commandOf t ≠ .unknown)
    rw [ht, strcasecmp, decide_eq_true_eq] at hname
    simpa using congrArg List.length hname
  rw [hlength token heq, hlength token' rfl]

/-- A text with the fields of a command weighs at least as much as the command. -/
theorem weight_le_of_fields {text : Bytes} {line : Line} (hcommand : line.IsCommand)
    (hfields : fields (lineOf text) = fields line.bytes) :
    weight line.bytes ≤ weight (lineOf text) := by
  obtain ⟨name, args, hwords, hknown, hfew⟩ := hcommand.fits
  have hline : fields line.bytes = (commandOf name, args) := by
    rw [fields, hwords]
    simp [List.take_of_length_le hfew]
  rw [hline] at hfields
  rw [weight_eq_length_words (lineOf_noLineEnd text),
    weight_eq_length_words fun b hb ↦ (line.plain b hb).2, hwords]
  cases hwords' : words isSpace (lineOf text) with
  | nil =>
    rw [fields, hwords'] at hfields
    exact absurd (congrArg Prod.fst hfields).symm hknown
  | cons name' args' =>
    rw [fields, hwords', Prod.mk.injEq] at hfields
    obtain ⟨hname, hargs⟩ := hfields
    have hsum : (args.map List.length).sum ≤ (args'.map List.length).sum := by
      rw [← hargs, List.map_take]
      exact (List.take_sublist _ _).sum_le_sum fun _ _ ↦ Nat.zero_le _
    simp only [List.map_cons, List.sum_cons]
    rw [length_eq_of_commandOf_eq hname hknown]
    exact Nat.add_le_add_left hsum _

/-- Values that are pairwise at least as large, with equal sums, are pairwise equal. -/
theorem forall₂_eq_of_sum_eq {α β : Type*} {f : α → ℕ} {g : β → ℕ} {as : List α} {bs : List β}
    (hle : List.Forall₂ (fun a b ↦ g b ≤ f a) as bs)
    (hsum : (as.map f).sum = (bs.map g).sum) : List.Forall₂ (fun a b ↦ f a = g b) as bs := by
  induction hle with
  | nil => exact .nil
  | @cons a b as bs hab hrest ih =>
    have htail : (bs.map g).sum ≤ (as.map f).sum := by
      have hmap : List.Forall₂ (· ≤ ·) (bs.map g) (as.map f) := by
        rw [List.forall₂_map_left_iff, List.forall₂_map_right_iff]
        exact hrest.flip
      exact hmap.sum_le_sum
    simp only [List.map_cons, List.sum_cons] at hsum
    exact .cons (by omega) (ih (by omega))

/-! ## Cuts -/

/-- A text that starts with the end of a line has no words before its first line end. -/
theorem fields_of_line_rest {text rest behind q : Bytes} (hweight : weight q = 0)
    (hend : ∃ b ∈ q, isLineEnd b) (hsplit : text ++ rest = q ++ behind) :
    fields (lineOf text) = (.unknown, []) := by
  have hstop : (lineOf q).length ≠ q.length := by
    intro hlength
    obtain ⟨b, hb, hbEnd⟩ := hend
    have hself : lineOf q = q := (List.takeWhile_prefix _).eq_of_length hlength
    exact lineOf_noLineEnd q b (by rwa [hself]) hbEnd
  have hfront : lineOf text <+: lineOf q := by
    have hwhole : lineOf text <+: lineOf (text ++ rest) := by
      rw [lineOf, lineOf, List.takeWhile_append]
      split
      · exact (List.takeWhile_prefix _).trans (List.prefix_append _ _)
      · exact List.prefix_refl _
    have hshort : lineOf (q ++ behind) = lineOf q := by
      rw [lineOf, List.takeWhile_append]
      exact if_neg hstop
    rwa [hsplit, hshort] at hwhole
  have hspaces : ∀ b ∈ lineOf text, isSpace b := by
    intro b hb
    have hzero := List.countP_eq_zero.mp hweight b ((List.takeWhile_prefix _).mem (hfront.mem hb))
    simpa [isWordByte, lineOf_noLineEnd text b hb] using hzero
  rw [fields, words_eq_nil_iff.mpr hspaces]

theorem fields_of_isCommand {line : Line} (h : line.IsCommand) :
    (fields line.bytes).1 ≠ .unknown := by
  obtain ⟨name, args, hwords, hknown, -⟩ := h.fits
  simpa [fields, hwords] using hknown

/-- A command line starts with a byte of a word. -/
theorem exists_cons_of_isCommand {line : Line} (h : line.IsCommand) :
    ∃ b rest, line.bytes = b :: rest ∧ isWordByte b := by
  cases hbytes : line.bytes with
  | nil =>
    obtain ⟨name, args, hwords, -⟩ := h.fits
    simp [hbytes, words_nil] at hwords
  | cons b rest =>
    have hspace : b ≠ 32 := fun hb ↦ h.head (by rw [hbytes, hb]; rfl)
    have hend := (line.plain b (by simp [hbytes])).2
    exact ⟨b, rest, rfl, by simp [isWordByte, isSpace, hspace, hend]⟩

/-- A chunk that weighs as much as the line it begins does not end within that line: the next
chunk would start with the end of the line. -/
theorem eq_nil_of_line_rest {text q : Bytes} {line : Line} {chunks : List Bytes}
    {lines : List Line} (hcommands : ∀ other ∈ lines, other.IsCommand)
    (hrest : List.Forall₂ (fun text line ↦ fields (lineOf text) = fields line.bytes) chunks lines)
    (hweight : weight text = weight line.bytes) (hsplit : line.framed = text ++ q)
    (hbehind : chunks.flatten = q ++ (lines.map Line.framed).flatten) : q = [] := by
  by_contra hne
  have hlight : weight q = 0 := by
    have htotal : weight line.bytes = weight text + weight q :=
      calc
        weight line.bytes = weight line.framed := (weight_framed line).symm
        _ = weight text + weight q := by rw [hsplit, weight_append]
    omega
  have hend : ∃ b ∈ q, isLineEnd b := by
    have hlast : q.getLast? = some 10 := by
      have hframed : line.framed.getLast? = some 10 := by simp [Line.framed]
      rw [hsplit, List.getLast?_append_of_ne_nil _ hne] at hframed
      exact hframed
    exact ⟨10, List.mem_of_getLast? hlast, by decide⟩
  cases hrest with
  | nil => simp [hne] at hbehind
  | cons hsecond _ =>
    rw [List.flatten_cons] at hbehind
    have hunknown := fields_of_line_rest hlight hend hbehind
    rw [hsecond] at hunknown
    exact fields_of_isCommand (hcommands _ List.mem_cons_self) (congrArg Prod.fst hunknown)

/-- A chunk that weighs as much as the line it begins with does not go on behind that line: the
next line starts with a byte of a word. -/
theorem eq_nil_of_chunk_rest {text q behind : Bytes} {line : Line} {lines : List Line}
    (hcommands : ∀ other ∈ lines, other.IsCommand) (hweight : weight text = weight line.bytes)
    (hsplit : text = line.framed ++ q) (hbehind : (lines.map Line.framed).flatten = q ++ behind) :
    q = [] := by
  by_contra hne
  have hlight : weight q = 0 := by
    have htotal : weight text = weight line.bytes + weight q :=
      calc
        weight text = weight line.framed + weight q := by rw [hsplit, weight_append]
        _ = weight line.bytes + weight q := by rw [weight_framed]
    omega
  obtain ⟨c, more, rfl⟩ := List.exists_cons_of_ne_nil hne
  cases lines with
  | nil => simp at hbehind
  | cons second lines =>
    obtain ⟨b, rest, hbytes, hword⟩ :=
      exists_cons_of_isCommand (hcommands second List.mem_cons_self)
    have hhead : c = b := by
      simp only [List.map_cons, List.flatten_cons, Line.framed, hbytes, List.cons_append,
        List.cons.injEq] at hbehind
      exact hbehind.1.symm
    exact List.countP_eq_zero.mp hlight c List.mem_cons_self (hhead ▸ hword)

/-- Where each chunk weighs as much as its line and has its fields, each chunk is its line. -/
theorem chunks_eq_lines {chunks : List Bytes} {lines : List Line}
    (hcommands : ∀ line ∈ lines, line.IsCommand) (hcut : chunks.flatten = stream lines)
    (hchunks : List.Forall₂ (fun text line ↦
      weight text = weight line.bytes ∧ fields (lineOf text) = fields line.bytes) chunks lines) :
    chunks = lines.map Line.framed := by
  induction hchunks with
  | nil => rfl
  | @cons text line chunks lines hfirst hrest ih =>
    have hcommands' : ∀ other ∈ lines, other.IsCommand := fun other hother ↦
      hcommands other (List.mem_cons_of_mem line hother)
    rw [List.flatten_cons, stream, List.map_cons, List.flatten_cons] at hcut
    rw [List.map_cons]
    obtain ⟨q, hq, hbehind⟩ | ⟨q, hq, hbehind⟩ := List.append_eq_append_iff.mp hcut
    · have hfields := hrest.imp fun _ _ ↦ And.right
      obtain rfl := eq_nil_of_line_rest hcommands' hfields hfirst.1 hq hbehind
      rw [List.append_nil] at hq
      rw [ih hcommands' hbehind, hq]
    · obtain rfl := eq_nil_of_chunk_rest hcommands' hfirst.1 hq hbehind
      rw [List.append_nil] at hq
      rw [ih hcommands' hbehind.symm, hq]

/-- A stream of lines is handled line by line exactly when each round reads the fields of its
line; for command lines, exactly when each round receives one whole line. -/
theorem lineByLine_iff (client : Client κ) {rounds : List Round}
    (hsent : ∀ round ∈ rounds, round.sent = true) (s : ServerState D κ) {lines : List Line}
    (hcut : (rounds.map fun round ↦ round.chunk.bytes).flatten = stream lines) :
    (LineByLine (handleClient client rounds s).2 lines ↔ ReadsLines rounds lines) ∧
      ((∀ line ∈ lines, line.IsCommand) →
        (LineByLine (handleClient client rounds s).2 lines ↔
          (rounds.map fun round ↦ round.chunk.bytes) = lines.map Line.framed)) := by
  have hreads := lineByLine_iff_readsLines client hsent s lines
  refine ⟨hreads, fun hcommands ↦ hreads.trans ⟨fun h ↦ ?_, fun h ↦ ?_⟩⟩
  · have hfields : List.Forall₂ (fun text line ↦ fields (lineOf text) = fields line.bytes)
        (rounds.map fun round ↦ round.chunk.bytes) lines := by
      rwa [List.forall₂_map_left_iff]
    have hheavy : List.Forall₂ (fun text line ↦ weight line.bytes ≤ weight text)
        (rounds.map fun round ↦ round.chunk.bytes) lines := by
      refine List.Forall₂.flip (((List.forall₂_and_left _ _).mpr ⟨hcommands, hfields.flip⟩).imp ?_)
      rintro line text ⟨hcommand, htext⟩
      exact (weight_le_of_fields hcommand htext).trans (weight_lineOf_le text)
    have hsum : ((rounds.map fun round ↦ round.chunk.bytes).map weight).sum =
        (lines.map fun line ↦ weight line.bytes).sum := by
      calc
        _ = weight (stream lines) := by rw [← weight_flatten, hcut]
        _ = ((lines.map Line.framed).map weight).sum := weight_flatten _
        _ = (lines.map fun line ↦ weight line.bytes).sum := by
          rw [List.map_map]
          exact congrArg List.sum (List.map_congr_left fun line _ ↦ weight_framed line)
    exact chunks_eq_lines hcommands hcut
      (List.Forall₂.mp (fun _ _ ↦ And.intro) (forall₂_eq_of_sum_eq hheavy hsum) hfields)
  · rw [← List.forall₂_eq_eq_eq, List.forall₂_map_left_iff, List.forall₂_map_right_iff] at h
    exact h.imp fun round line hround ↦ by rw [hround, lineOf_framed]

/-! ## Two commands -/

def pingLine : Line where
  bytes := ascii "PING"
  plain := by
    have hall : (ascii "PING").all fun b ↦ decide (b ≠ 0 ∧ ¬ isLineEnd b) := by decide
    exact fun b hb ↦ of_decide_eq_true (List.all_eq_true.mp hall b hb)
  short := by decide

def statusLine : Line where
  bytes := ascii "GET_STATUS"
  plain := by
    have hall : (ascii "GET_STATUS").all fun b ↦ decide (b ≠ 0 ∧ ¬ isLineEnd b) := by decide
    exact fun b hb ↦ of_decide_eq_true (List.all_eq_true.mp hall b hb)
  short := by decide

/-- A round that receives the bytes and can reply. -/
def receives (chunk : Chunk) : Round := ⟨⟨0, fun _ ↦ 0, none⟩, chunk, true⟩

/-- Two lines that arrive one at a time. -/
theorem lineByLine_iff_two_lines :
    let rounds := [receives pingLine.chunk, receives statusLine.chunk]
    let iterations := (handleClient ⟨5, 0⟩ rounds (serverInit 0 : ServerState ℚ ℕ)).2
    (LineByLine iterations [pingLine, statusLine] ↔ ReadsLines rounds [pingLine, statusLine]) ∧
      ((∀ line ∈ [pingLine, statusLine], line.IsCommand) →
        (LineByLine iterations [pingLine, statusLine] ↔
          (rounds.map fun round ↦ round.chunk.bytes) =
            [pingLine, statusLine].map Line.framed)) :=
  lineByLine_iff ⟨5, 0⟩ (by simp [receives]) (serverInit 0) (by decide)

/-- Both lines as one `recv` may return them. -/
def pingAndStatus : Chunk := ⟨stream [pingLine, statusLine], by decide, by decide⟩

/-- The second of two lines that arrive together is neither dispatched nor answered. -/
theorem not_lineByLine_of_joined_lines :
    ((handleClient ⟨5, 0⟩ [receives pingAndStatus] (serverInit 0 : ServerState ℚ ℕ)).2.map
        fun iteration ↦ (iteration.type, iteration.reply)) =
      [(.ping, .lit "PONG\r\n")] ∧
    ¬ LineByLine (handleClient ⟨5, 0⟩ [receives pingAndStatus] (serverInit 0 : ServerState ℚ ℕ)).2
      [pingLine, statusLine] := by
  refine ⟨by decide +kernel, fun h ↦ ?_⟩
  exact absurd h.2 (by decide +kernel)

end IotMonitoring.Server.Segmentation
