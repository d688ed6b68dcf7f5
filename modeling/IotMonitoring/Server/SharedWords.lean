import IotMonitoring.Server.SharedTokenizer

/-!
# What the calls of the tokenizer find

A handler that finds the saved pointer in another buffer may still end with its own message: two
handlers whose lines have no arguments do no harm to each other. What decides is the word that each
call finds. A string in front of the saved pointer is never written to, and a buffer that has been
left by the saved pointer is not searched again, so an argument reads for ever as it did when it was
found. A complete schedule is therefore harmless exactly when every call finds the next word of the
handler's own line.
-/

namespace IotMonitoring.Server.SharedTokenizer

open Text Protocol Machine

variable {ι : Type*} [DecidableEq ι]

/-! ## Words and arguments -/

/-- The arguments of a handler so far. -/
def Parser.args : Parser ι → List (Pointer ι)
  | ready _ => []
  | scanning _ args | finished _ args => args

/-- The arguments of a handler whose parse is under way. -/
def Parser.underWay : Parser ι → Option (List (Pointer ι))
  | scanning _ args => some args
  | ready _ | finished .. => none

/-- The parse has begun. -/
def Parser.Begun : Parser ι → Prop
  | ready _ => False
  | scanning .. | finished .. => True

/-- The word that a call of `strtok(NULL, " ")` would return. -/
def State.nextWord (s : State ι) : Option CString :=
  s.save.bind fun p ↦
    let call := strtok isSpace (s.rawBuffer p.owner) p.position
    call.token.map (readAt call.buffer)

/-- A call of a handler that has room for an argument finds the next word of its own line, in
whatever buffer, or no word when it has all of them. -/
def FindsWord (chunk : ι → Chunk) (s : State ι) (i : ι) : Prop :=
  ∀ args ∈ (s.parser i).underWay, args.length < maxArgs →
    s.nextWord = (chunk i).message.argStrings[args.length]?

instance (chunk : ι → Chunk) (s : State ι) (i : ι) : Decidable (FindsWord chunk s i) :=
  inferInstanceAs (Decidable (∀ args ∈ (s.parser i).underWay, args.length < maxArgs →
    s.nextWord = (chunk i).message.argStrings[args.length]?))

/-- The string behind a pointer. -/
def State.string (s : State ι) (p : Pointer ι) : CString :=
  readAt (s.rawBuffer p.owner) p.position

omit [DecidableEq ι] in
theorem strings_concat (s : State ι) (args : List (Pointer ι)) (p : Pointer ι) :
    s.strings (args ++ [p]) = s.strings args ++ [s.string p] := List.map_append

/-! ## Settled arguments -/

/-- The arguments of all handlers are strings in front of the saved pointer, in buffers that have
been filled. -/
structure Settled (s : State ι) : Prop where
  saved : (∃ i, (s.parser i).Begun) → ∃ p, s.save = some p ∧ (s.parser p.owner).Begun
  begun : ∀ i, ∀ p ∈ (s.parser i).args, (s.parser p.owner).Begun
  ended : ∀ i, ∀ p ∈ (s.parser i).args, ∀ position, s.save = some ⟨p.owner, position⟩ →
    p.position + (s.string p).length ≤ position

theorem start_self (s : State ι) (i : ι) (chunk : Chunk) :
    ((start s i chunk).parser i).Begun ∧ ((start s i chunk).parser i).args = [] := by
  simp only [start, Function.update_self]
  split <;> exact ⟨trivial, rfl⟩

theorem continueScan_of_ne (s : State ι) {i j : ι} (hj : j ≠ i) (type : CommandType)
    (args : List (Pointer ι)) (p : Pointer ι) :
    (continueScan s i type args p).parser j = s.parser j := Function.update_of_ne hj _ _

/-- What a call finds and what becomes of its handler. -/
theorem continueScan_cases {s : State ι} {p : Pointer ι} (hsave : s.save = some p) (i : ι)
    (type : CommandType) (args : List (Pointer ι)) :
    let call := strtok isSpace (s.rawBuffer p.owner) p.position
    let s' := continueScan s i type args p
    (s.nextWord = none ∧ s'.parser i = .finished type args) ∨
      (¬ args.length < maxArgs ∧ s'.parser i = .finished type args) ∨
      ∃ token, call.token = some token ∧ args.length < maxArgs ∧
        s.nextWord = some (s'.string ⟨p.owner, token⟩) ∧
        s'.parser i = .scanning type (args ++ [⟨p.owner, token⟩]) := by
  intro call s'
  simp only [s', call, continueScan, State.nextWord, State.string, hsave, Option.bind_some,
    Function.update_self]
  cases hcall : (strtok isSpace (s.rawBuffer p.owner) p.position).token with
  | none => exact .inl ⟨rfl, rfl⟩
  | some token =>
    by_cases hroom : args.length < maxArgs
    · exact .inr (.inr ⟨token, rfl, hroom, rfl, if_pos hroom⟩)
    · exact .inr (.inl ⟨hroom, if_neg hroom⟩)

/-- The arguments so far are in other buffers than the one that is filled. -/
theorem settled_start {s : State ι} {i : ι} (h : Settled s) (chunk : Chunk)
    (hready : ¬ (s.parser i).Begun) :
    Settled (start s i chunk) ∧
      ∀ j, ∀ p ∈ (s.parser j).args, (start s i chunk).string p = s.string p := by
  obtain ⟨hself, hnone⟩ := start_self s i chunk
  have hforeign (j : ι) (p : Pointer ι) (hp : p ∈ (s.parser j).args) : p.owner ≠ i :=
    fun howner ↦ hready (howner ▸ h.begun j p hp)
  have hothers (j : ι) (hj : j ≠ i) : (start s i chunk).parser j = s.parser j :=
    Function.update_of_ne hj _ _
  have hargs (j : ι) (p : Pointer ι)
      (hp : p ∈ ((start s i chunk).parser j).args) : p ∈ (s.parser j).args := by
    obtain rfl | hj := eq_or_ne j i
    · rw [hnone] at hp
      cases hp
    · rwa [hothers j hj] at hp
  refine ⟨⟨fun _ ↦ ⟨_, rfl, hself⟩, fun j p hp ↦ ?_, fun j p hp position hsave ↦ ?_⟩,
    fun j p hp ↦ ?_⟩
  · have hp' := hargs j p hp
    rw [hothers p.owner (hforeign j p hp')]
    exact h.begun j p hp'
  · obtain ⟨rfl, -⟩ := Pointer.mk.inj (Option.some.inj hsave)
    exact absurd rfl (hforeign j p (hargs j p hp))
  · simp only [State.string, start, Function.update_of_ne (hforeign j p hp)]

/-- A parse that has begun stays begun. -/
theorem begun_continueScan {s : State ι} {p : Pointer ι} (hsave : s.save = some p) (i : ι)
    (type : CommandType) (args : List (Pointer ι)) {j : ι} (hj : (s.parser j).Begun) :
    ((continueScan s i type args p).parser j).Begun := by
  obtain rfl | hne := eq_or_ne j i
  · obtain ⟨-, hnext⟩ | ⟨-, hnext⟩ | ⟨token, -, -, -, hnext⟩ :=
      continueScan_cases hsave j type args <;> rw [hnext] <;> trivial
  · rwa [continueScan_of_ne s hne]

/-- The new argument of a call ends in front of the new saved pointer. -/
theorem args_continueScan {s : State ι} {i : ι} {type : CommandType} {args : List (Pointer ι)}
    {p : Pointer ι} (hparser : s.parser i = .scanning type args) (hsave : s.save = some p) {j : ι}
    {q : Pointer ι} (hq : q ∈ ((continueScan s i type args p).parser j).args) :
    q ∈ (s.parser j).args ∨ q.owner = p.owner ∧
      q.position + ((continueScan s i type args p).string q).length ≤
        (strtok isSpace (s.rawBuffer p.owner) p.position).save := by
  obtain rfl | hne := eq_or_ne j i
  · rw [hparser]
    obtain ⟨-, hnext⟩ | ⟨-, hnext⟩ | ⟨token, htoken, -, -, hnext⟩ :=
      continueScan_cases hsave j type args
    · rw [hnext] at hq
      exact .inl hq
    · rw [hnext] at hq
      exact .inl hq
    · rw [hnext] at hq
      obtain hq | hq := List.mem_append.mp hq
      · exact .inl hq
      · obtain rfl := List.mem_singleton.mp hq
        refine .inr ⟨rfl, ?_⟩
        simp only [State.string, continueScan, Function.update_self]
        exact token_strtok htoken
  · exact .inl (continueScan_of_ne s hne type args p ▸ hq)

/-- A call writes behind the saved pointer. -/
theorem string_continueScan {s : State ι} {p : Pointer ι} (h : Settled s)
    (hsave : s.save = some p) (i : ι) (type : CommandType) (args : List (Pointer ι)) {j : ι}
    {q : Pointer ι} (hq : q ∈ (s.parser j).args) :
    (continueScan s i type args p).string q = s.string q := by
  simp only [State.string, continueScan]
  by_cases howner : q.owner = p.owner
  · rw [howner, Function.update_self]
    refine readAt_strtok ?_ isSpace
    have hended := h.ended j q hq p.position (howner ▸ hsave)
    rwa [State.string, howner] at hended
  · rw [Function.update_of_ne howner]

theorem settled_continueScan {s : State ι} {i : ι} {type : CommandType} {args : List (Pointer ι)}
    {p : Pointer ι} (h : Settled s) (hparser : s.parser i = .scanning type args)
    (hsave : s.save = some p) : Settled (continueScan s i type args p) := by
  have hbegun : (s.parser p.owner).Begun := by
    obtain ⟨q, hq, hbegun⟩ := h.saved ⟨i, by simp [hparser, Parser.Begun]⟩
    rwa [Option.some.inj (hsave.symm.trans hq)]
  refine ⟨fun _ ↦ ⟨_, rfl, begun_continueScan hsave i type args hbegun⟩, fun j q hq ↦ ?_,
    fun j q hq position hposition ↦ ?_⟩
  · apply begun_continueScan hsave i type args
    obtain hq | ⟨howner, -⟩ := args_continueScan hparser hsave hq
    · exact h.begun j q hq
    · exact howner ▸ hbegun
  · obtain ⟨howner, rfl⟩ := Pointer.mk.inj (Option.some.inj hposition)
    obtain hq | ⟨-, hended⟩ := args_continueScan hparser hsave hq
    · rw [string_continueScan h hsave i type args hq]
      exact (h.ended j q hq p.position (howner ▸ hsave)).trans (le_save_strtok _ _ _)
    · exact hended

theorem strings_continueScan {s : State ι} {i : ι} {type : CommandType} {args : List (Pointer ι)}
    {p : Pointer ι} (h : Settled s) (hparser : s.parser i = .scanning type args)
    (hsave : s.save = some p) :
    (continueScan s i type args p).strings args = s.strings args := by
  refine List.map_congr_left fun q hq ↦ string_continueScan h hsave i type args (j := i) ?_
  rwa [hparser]

/-- A step leaves the arguments so far as they are. -/
theorem Settled.step {s s' : State ι} {i : ι} (h : Settled s)
    (hstep : (parsers ι).step s i = some s') :
    Settled s' ∧ ∀ j, ∀ p ∈ (s.parser j).args, s'.string p = s.string p := by
  obtain ⟨received, hparser, rfl⟩ | ⟨type, args, p, hparser, hsave, rfl⟩ :=
    parsers_step_cases hstep
  · exact settled_start h received (by simp [hparser, Parser.Begun])
  · exact ⟨settled_continueScan h hparser hsave,
      fun j q hq ↦ string_continueScan h hsave i type args hq⟩

/-! ## Words of the own line -/

/-- What a handler has read so far are the first words of its own line, and all of them when it has
finished. -/
def WellRead (s : State ι) (i : ι) (chunk : Chunk) : Prop :=
  match s.parser i with
  | .ready received => received = chunk
  | .scanning type args =>
    type = chunk.message.type ∧ s.strings args <+: chunk.message.argStrings
  | .finished type args => type = chunk.message.type ∧ s.strings args = chunk.message.argStrings

/-- A handler has read another word. -/
def Misled (s : State ι) (i : ι) (chunk : Chunk) : Prop :=
  match s.parser i with
  | .ready _ => False
  | .scanning _ args => ¬ s.strings args <+: chunk.message.argStrings
  | .finished _ args => s.strings args ≠ chunk.message.argStrings

omit [DecidableEq ι] in
/-- Both depend on the parser of the handler and on what its arguments read as. -/
theorem read_congr {s s' : State ι} {i : ι} (hparser : s'.parser i = s.parser i)
    (hstring : ∀ p ∈ (s.parser i).args, s'.string p = s.string p) (chunk : Chunk) :
    (WellRead s' i chunk ↔ WellRead s i chunk) ∧ (Misled s' i chunk ↔ Misled s i chunk) := by
  have hstrings : s'.strings (s.parser i).args = s.strings (s.parser i).args :=
    List.map_congr_left hstring
  unfold WellRead Misled
  rw [hparser]
  cases hcase : s.parser i with
  | ready received => exact ⟨Iff.rfl, Iff.rfl⟩
  | scanning type args =>
    simp only [hcase, Parser.args] at hstrings
    simp only [hstrings, and_self]
  | finished type args =>
    simp only [hcase, Parser.args] at hstrings
    simp only [hstrings, ne_eq, and_self]

/-- A step of another handler does not matter. -/
theorem read_of_ne {s s' : State ι} {i j : ι} (h : Settled s)
    (hstep : (parsers ι).step s i = some s') (hj : j ≠ i) (chunk : Chunk) :
    (WellRead s' j chunk ↔ WellRead s j chunk) ∧ (Misled s' j chunk ↔ Misled s j chunk) := by
  have hparser : s'.parser j = s.parser j := by
    obtain ⟨received, -, rfl⟩ | ⟨type, args, p, -, -, rfl⟩ := parsers_step_cases hstep
    · exact Function.update_of_ne hj _ _
    · exact continueScan_of_ne s hj type args p
  exact read_congr hparser ((h.step hstep).2 j) chunk

theorem concat_prefix_iff {α : Type*} {front whole : List α} {a : α} :
    front ++ [a] <+: whole ↔ front <+: whole ∧ whole[front.length]? = some a := by
  constructor
  · rintro ⟨rest, rfl⟩
    simp
  · rintro ⟨⟨rest, rfl⟩, hnext⟩
    cases rest with
    | nil => simp at hnext
    | cons b rest =>
      obtain rfl : b = a := by simpa using hnext
      exact ⟨rest, by simp⟩

/-- A handler that goes on to read its own words is one whose call finds the next one. -/
theorem read_continueScan {s : State ι} {i : ι} {type : CommandType} {args : List (Pointer ι)}
    {p : Pointer ι} {chunk : ι → Chunk} (h : Settled s)
    (hparser : s.parser i = .scanning type args) (hsave : s.save = some p)
    (hread : WellRead s i (chunk i)) :
    (FindsWord chunk s i → WellRead (continueScan s i type args p) i (chunk i)) ∧
      (¬ FindsWord chunk s i → Misled (continueScan s i type args p) i (chunk i)) := by
  have hstrings := strings_continueScan h hparser hsave
  have hlength : (s.strings args).length = args.length := List.length_map _
  have hle : (chunk i).message.argStrings.length ≤ maxArgs := by
    rw [ParsedMessage.argStrings, List.length_map]
    exact (chunk i).message.argc_le
  simp only [WellRead, hparser] at hread
  obtain ⟨htype, hprefix⟩ := hread
  have hall (hno : (chunk i).message.argStrings.length ≤ args.length) :
      s.strings args = (chunk i).message.argStrings :=
    hprefix.eq_of_length_le (hlength ▸ hno)
  simp only [FindsWord, hparser, Parser.underWay, Option.mem_def, Option.some.injEq, forall_eq']
  obtain ⟨hnone, hnext⟩ | ⟨hfull, hnext⟩ | ⟨token, -, hroom, hsome, hnext⟩ :=
    continueScan_cases hsave i type args
  · simp only [WellRead, Misled, hnext, hstrings, hnone]
    refine ⟨fun hfinds ↦ ⟨htype, hall ?_⟩, fun hmisses hequal ↦ hmisses fun _ ↦ ?_⟩
    · by_cases hroom : args.length < maxArgs
      · exact List.getElem?_eq_none_iff.mp (hfinds hroom).symm
      · exact hle.trans (not_lt.mp hroom)
    · exact (List.getElem?_eq_none_iff.mpr (hequal ▸ hlength.le)).symm
  · simp only [WellRead, Misled, hnext, hstrings]
    exact ⟨fun _ ↦ ⟨htype, hall (hle.trans (not_lt.mp hfull))⟩,
      fun hmisses ↦ absurd (fun hroom ↦ absurd hroom hfull) hmisses⟩
  · have hconcat : (continueScan s i type args p).strings (args ++ [⟨p.owner, token⟩]) =
        s.strings args ++ [(continueScan s i type args p).string ⟨p.owner, token⟩] := by
      rw [strings_concat, hstrings]
    have hiff : (continueScan s i type args p).strings (args ++ [⟨p.owner, token⟩]) <+:
        (chunk i).message.argStrings ↔
          s.nextWord = (chunk i).message.argStrings[args.length]? := by
      rw [hconcat, concat_prefix_iff, hlength, and_iff_right hprefix, hsome, eq_comm]
    simp only [WellRead, Misled, hnext, hiff]
    exact ⟨fun hfinds ↦ ⟨htype, hfinds hroom⟩, fun hmisses hword ↦ hmisses fun _ ↦ hword⟩

theorem wellRead_start (s : State ι) (i : ι) (chunk : Chunk) :
    WellRead (start s i chunk) i chunk := by
  simp only [WellRead, start, Function.update_self]
  cases hcall : (strtok isSpace (terminateLine (chunk.bytes ++ [0])) 0).token with
  | none => simp [Chunk.message, messageFrom, hcall, ParsedMessage.argStrings, State.strings]
  | some name => simp [Chunk.message, messageFrom, hcall, State.strings]

omit [DecidableEq ι] in
theorem isolated_of_wellRead {s : State ι} {i : ι} {chunk : Chunk} (h : WellRead s i chunk) :
    Isolated s i chunk := by
  intro type args houtcome
  unfold State.outcome at houtcome
  split at houtcome
  · rename_i type' pointers hparser
    obtain ⟨rfl, rfl⟩ := Prod.mk.inj (Option.some.inj houtcome)
    simp only [WellRead, hparser] at h
    exact ⟨h.1, h.2, fun arg harg ↦ chunk.arg_mem_words (h.2 ▸ harg)⟩
  · cases houtcome

/-- All handlers have read their own words so far. -/
structure OnWords (chunk : ι → Chunk) (s : State ι) : Prop where
  settled : Settled s
  read : ∀ i, WellRead s i (chunk i)

theorem onWords_step {chunk : ι → Chunk} (s : State ι) (i : ι) (s' : State ι)
    (h : OnWords chunk s) (hfinds : FindsWord chunk s i)
    (hstep : (parsers ι).step s i = some s') : OnWords chunk s' := by
  refine ⟨(h.settled.step hstep).1, fun j ↦ ?_⟩
  obtain rfl | hj := eq_or_ne j i
  · obtain ⟨received, hparser, rfl⟩ | ⟨type, args, p, hparser, hsave, rfl⟩ :=
      parsers_step_cases hstep
    · have hreceived := h.read j
      simp only [WellRead, hparser] at hreceived
      exact hreceived ▸ wellRead_start s j received
    · exact (read_continueScan h.settled hparser hsave (h.read j)).1 hfinds
  · exact (read_of_ne h.settled hstep hj (chunk j)).1.mpr (h.read j)

theorem misled_of_step {chunk : ι → Chunk} (s : State ι) (i : ι) (s' : State ι)
    (h : OnWords chunk s) (hmisses : ¬ FindsWord chunk s i)
    (hstep : (parsers ι).step s i = some s') : Settled s' ∧ ∃ j, Misled s' j (chunk j) := by
  refine ⟨(h.settled.step hstep).1, i, ?_⟩
  obtain ⟨received, hparser, rfl⟩ | ⟨type, args, p, hparser, hsave, rfl⟩ :=
    parsers_step_cases hstep
  · exact absurd (by simp [FindsWord, hparser, Parser.underWay]) hmisses
  · exact (read_continueScan h.settled hparser hsave (h.read i)).2 hmisses

/-- A wrong word stays among the arguments. -/
theorem misled_step {chunk : ι → Chunk} (s : State ι) (i : ι) (s' : State ι)
    (h : Settled s ∧ ∃ j, Misled s j (chunk j)) (hstep : (parsers ι).step s i = some s') :
    Settled s' ∧ ∃ j, Misled s' j (chunk j) := by
  obtain ⟨hsettled, j, hmisled⟩ := h
  refine ⟨(hsettled.step hstep).1, j, ?_⟩
  obtain rfl | hj := eq_or_ne j i
  · obtain ⟨received, hparser, rfl⟩ | ⟨type, args, p, hparser, hsave, rfl⟩ :=
      parsers_step_cases hstep
    · simp only [Misled, hparser] at hmisled
    · have hstrings := strings_continueScan hsettled hparser hsave
      simp only [Misled, hparser] at hmisled
      obtain ⟨-, hnext⟩ | ⟨-, hnext⟩ | ⟨token, -, -, -, hnext⟩ :=
        continueScan_cases hsave j type args
      · simp only [Misled, hnext, hstrings]
        exact fun hequal ↦ hmisled (hequal ▸ List.prefix_rfl)
      · simp only [Misled, hnext, hstrings]
        exact fun hequal ↦ hmisled (hequal ▸ List.prefix_rfl)
      · simp only [Misled, hnext]
        refine fun hprefix ↦ hmisled ?_
        rw [strings_concat, hstrings] at hprefix
        exact (concat_prefix_iff.mp hprefix).1
  · exact (read_of_ne hsettled hstep hj (chunk j)).2.mpr hmisled

/-! ## Whole schedules -/

omit [DecidableEq ι] in
theorem onWords_of_ready {chunk : ι → Chunk} {s : State ι}
    (hready : ∀ i, s.parser i = .ready (chunk i)) : OnWords chunk s := by
  refine ⟨⟨?_, ?_, ?_⟩, fun i ↦ by simp [WellRead, hready i]⟩
  · rintro ⟨i, hbegun⟩
    simp [hready i, Parser.Begun] at hbegun
  · intro i p hp
    simp [hready i, Parser.args] at hp
  · intro i p hp
    simp [hready i, Parser.args] at hp

/-- Handlers whose calls find the words of their own lines are isolated from each other, at every
point of every schedule. -/
theorem isolated_of_findsWord (chunk : ι → Chunk) {s t : State ι} {schedule : List ι}
    (hready : ∀ i, s.parser i = .ready (chunk i))
    (hfinds : (parsers ι).Meets (FindsWord chunk) s schedule)
    (hrun : (parsers ι).run s schedule = some t) (i : ι) : Isolated t i (chunk i) :=
  isolated_of_wellRead
    ((Labelled.inv_of_run _ onWords_step (onWords_of_ready hready) hfinds hrun).read i)

/-- In a schedule at whose end no parse is under way, every handler holds the message of its own
chunk exactly when every call has found the next word of the handler's own line. -/
theorem isolated_iff_findsWord (chunk : ι → Chunk) {s t : State ι} {schedule : List ι}
    (hready : ∀ i, s.parser i = .ready (chunk i))
    (hrun : (parsers ι).run s schedule = some t)
    (hdone : ∀ i type args, t.parser i ≠ .scanning type args) :
    (∀ i, Isolated t i (chunk i)) ↔ (parsers ι).Meets (FindsWord chunk) s schedule := by
  refine ⟨fun hisolated ↦ ?_, fun hmeets ↦ isolated_of_findsWord chunk hready hmeets hrun⟩
  obtain hmeets | ⟨-, i, hmisled⟩ := Labelled.meets_or_of_run onWords_step misled_of_step
    misled_step (onWords_of_ready hready) hrun
  · exact hmeets
  · unfold Misled at hmisled
    split at hmisled
    · exact hmisled.elim
    · rename_i type args hparser
      exact absurd hparser (hdone i type args)
    · rename_i type args hparser
      refine absurd (hisolated i type (t.strings args) ?_).2.1 hmisled
      simp only [State.outcome, hparser]

/-- Two commands without arguments. -/
def withoutArguments : Bool → Chunk
  | false => ⟨ascii "ping\r\n", by decide, by decide⟩
  | true => ⟨ascii "get_alerts\r\n", by decide, by decide⟩

/-- When their calls alternate, both handlers continue in the other's buffer and find nothing. -/
example :
    let s : State Bool := ⟨fun _ ↦ [], none, fun i ↦ .ready (withoutArguments i)⟩
    (parsers Bool).Meets (FindsWord withoutArguments) s [false, true, false, true] ∧
      ¬ (parsers Bool).Meets OwnPointer s [false, true, false, true] := by decide +kernel

end IotMonitoring.Server.SharedTokenizer
