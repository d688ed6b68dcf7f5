import IotMonitoring.Machine.Labelled
import IotMonitoring.Server.Protocol
import Mathlib.Logic.Function.Basic

/-!
# Handlers that parse at the same time

`strtok` keeps one saved pointer for the whole process, while every handler thread parses into its
own message. Here each `strtok` call is one step on the shared pointer, and a schedule interleaves
the steps of any number of handlers. A pointer names the message buffer it points into, so a call
of one handler may well write into the buffer of another and return a token from there.

The parser is isolated along the schedules in which a handler only continues a scan while the saved
pointer is in its own buffer. Without that restriction a handler can end with another client's
words as its arguments.
-/

namespace IotMonitoring.Server.SharedTokenizer

open Text Protocol Machine

variable {ι : Type*}

/-- A `char *` into the `raw_buffer` of one handler's message. -/
structure Pointer (ι : Type*) where
  owner : ι
  position : ℕ
deriving DecidableEq

/-- Where a handler stands between two `strtok` calls. -/
inductive Parser (ι : Type*) where
  | ready (chunk : Chunk)
  | scanning (type : CommandType) (args : List (Pointer ι))
  | finished (type : CommandType) (args : List (Pointer ι))

/-- The message buffers of all handlers and the saved pointer they share. -/
structure State (ι : Type*) where
  rawBuffer : ι → Bytes
  save : Option (Pointer ι)
  parser : ι → Parser ι

/-- The strings a list of pointers reads as. -/
def State.strings (s : State ι) (args : List (Pointer ι)) : List CString :=
  args.map fun p ↦ readAt (s.rawBuffer p.owner) p.position

/-- Command and arguments a handler ends with, once its parse is over. -/
def State.outcome (s : State ι) (i : ι) : Option (CommandType × List CString) :=
  match s.parser i with
  | .finished type args => some (type, s.strings args)
  | _ => none

variable [DecidableEq ι]

/-- Copying and ending the chunk touches only the handler's own message, so these actions are
part of the step that makes the first call. -/
def start (s : State ι) (i : ι) (chunk : Chunk) : State ι :=
  let call := strtok isSpace (terminateLine (chunk.bytes ++ [0])) 0
  { rawBuffer := Function.update s.rawBuffer i call.buffer
    save := some ⟨i, call.save⟩
    parser := Function.update s.parser i <|
      match call.token with
      | none => .finished .unknown []
      | some name => .scanning (commandOf (readAt call.buffer name).bytes) [] }

/-- `strtok(NULL, " ")` and the test of the argument loop. -/
def continueScan (s : State ι) (i : ι) (type : CommandType) (args : List (Pointer ι))
    (p : Pointer ι) : State ι :=
  let call := strtok isSpace (s.rawBuffer p.owner) p.position
  { rawBuffer := Function.update s.rawBuffer p.owner call.buffer
    save := some ⟨p.owner, call.save⟩
    parser := Function.update s.parser i <|
      match call.token with
      | none => .finished type args
      | some token =>
        if args.length < maxArgs then .scanning type (args ++ [⟨p.owner, token⟩])
        else .finished type args }

/-- The handlers as one machine; the label is the handler that makes its next call. -/
def parsers (ι : Type*) [DecidableEq ι] : Labelled (State ι) ι where
  step s i :=
    match s.parser i with
    | .ready chunk => some (start s i chunk)
    | .scanning type args => s.save.map (continueScan s i type args)
    | .finished _ _ => none

/-- A handler that continues its scan finds the saved pointer in its own buffer. -/
def OwnPointer (s : State ι) (i : ι) : Prop :=
  match s.parser i with
  | .scanning _ _ => s.save.map Pointer.owner = some i
  | _ => True

instance (s : State ι) (i : ι) : Decidable (OwnPointer s i) := by
  unfold OwnPointer
  split <;> infer_instance

/-- A finished handler holds the message the parser yields alone on the handler's chunk, and its
arguments are words of that chunk's line. -/
def Isolated (s : State ι) (i : ι) (chunk : Chunk) : Prop :=
  ∀ type args, s.outcome i = some (type, args) →
    type = chunk.message.type ∧ args = chunk.message.argStrings ∧
      ∀ arg ∈ args, arg.bytes ∈ words isSpace (lineOf chunk.bytes)

/-- What a handler still has to do, seen from its own buffer: while it scans and the saved pointer
is in its buffer, the argument loop run from there yields the message of the lone run. -/
def OnTrack (s : State ι) (i : ι) (chunk : Chunk) : Prop :=
  match s.parser i with
  | .ready received => received = chunk
  | .scanning type args =>
    type = chunk.message.type ∧ args.length ≤ maxArgs ∧ ∀ position, s.save = some ⟨i, position⟩ →
      let rest := collectArgs (maxArgs - args.length) (s.rawBuffer i) position
      chunk.message.args.map (Pointer.mk i) = args ++ rest.1.map (Pointer.mk i) ∧
        chunk.message.rawBuffer = rest.2
  | .finished type args =>
    type = chunk.message.type ∧ args = chunk.message.args.map (Pointer.mk i) ∧
      s.rawBuffer i = chunk.message.rawBuffer

theorem parsers_step_cases {s s' : State ι} {i : ι} (hstep : (parsers ι).step s i = some s') :
    (∃ chunk, s.parser i = .ready chunk ∧ s' = start s i chunk) ∨
      ∃ type args p, s.parser i = .scanning type args ∧ s.save = some p ∧
        s' = continueScan s i type args p := by
  simp only [parsers] at hstep
  split at hstep
  · rename_i chunk hparser
    exact .inl ⟨chunk, hparser, (Option.some.inj hstep).symm⟩
  · rename_i type args hparser
    obtain ⟨p, hsave, hs'⟩ := Option.map_eq_some_iff.mp hstep
    exact .inr ⟨type, args, p, hparser, hsave, hs'.symm⟩
  · cases hstep

omit [DecidableEq ι] in
/-- A step that leaves a handler's parser and buffer alone, and the saved pointer outside its
buffer, keeps the handler on track. -/
theorem OnTrack.of_frame {s s' : State ι} {i : ι} {chunk : Chunk} (h : OnTrack s i chunk)
    (hparser : s'.parser i = s.parser i) (hbuffer : s'.rawBuffer i = s.rawBuffer i)
    (hsave : ∀ position, s'.save ≠ some ⟨i, position⟩) : OnTrack s' i chunk := by
  unfold OnTrack at h ⊢
  rw [hparser]
  cases hcase : s.parser i with
  | ready received => simpa [hcase] using h
  | scanning type args =>
    simp only [hcase] at h
    exact ⟨h.1, h.2.1, fun position hposition ↦ absurd hposition (hsave position)⟩
  | finished type args =>
    simp only [hcase] at h
    exact ⟨h.1, h.2.1, hbuffer ▸ h.2.2⟩

theorem onTrack_start_self (s : State ι) (i : ι) (chunk : Chunk) :
    OnTrack (start s i chunk) i chunk := by
  simp only [OnTrack, start, Function.update_self]
  cases hcall : (strtok isSpace (terminateLine (chunk.bytes ++ [0])) 0).token with
  | none => simp [Chunk.message, messageFrom, hcall]
  | some name => simp [Chunk.message, messageFrom, hcall]

theorem onTrack_continueScan_self {s : State ι} {i : ι} {chunk : Chunk} {type : CommandType}
    {args : List (Pointer ι)} {position : ℕ} (h : OnTrack s i chunk)
    (hparser : s.parser i = .scanning type args) (hsave : s.save = some ⟨i, position⟩) :
    OnTrack (continueScan s i type args ⟨i, position⟩) i chunk := by
  simp only [OnTrack, hparser] at h
  obtain ⟨htype, hlength, hrest⟩ := h
  obtain ⟨hargs, hbuffer⟩ := hrest position hsave
  simp only [OnTrack, continueScan, Function.update_self]
  -- The call and the loop test in the same order as one round of `collectArgs`.
  cases hroom : maxArgs - args.length with
  | zero =>
    have hfull : ¬ args.length < maxArgs := by omega
    rw [hroom, collectArgs, List.map_nil, List.append_nil] at hargs
    rw [hroom, collectArgs] at hbuffer
    cases hcall : (strtok isSpace (s.rawBuffer i) position).token <;>
      simp [hfull, htype, hargs, hbuffer]
  | succ room =>
    have hfree : args.length < maxArgs := by omega
    rw [hroom, collectArgs] at hargs hbuffer
    cases hcall : (strtok isSpace (s.rawBuffer i) position).token with
    | none =>
      simp only [hcall, List.map_nil, List.append_nil] at hargs hbuffer
      simp [htype, hargs, hbuffer]
    | some token =>
      simp only [hcall] at hargs hbuffer
      have hroom' : maxArgs - (args.length + 1) = room := by omega
      simp only [hfree, if_true, List.length_append, List.length_singleton, hroom']
      refine ⟨htype, hfree, fun position' hposition' ↦ ?_⟩
      cases hposition'
      exact ⟨by simp [hargs], hbuffer⟩

/-- One step of any handler that respects the pointer keeps every handler on track. -/
theorem onTrack_step {chunk : ι → Chunk} (s : State ι) (i : ι) (s' : State ι)
    (h : ∀ j, OnTrack s j (chunk j)) (hown : OwnPointer s i)
    (hstep : (parsers ι).step s i = some s') (j : ι) : OnTrack s' j (chunk j) := by
  obtain ⟨received, hparser, rfl⟩ | ⟨type, args, p, hparser, hsave, rfl⟩ :=
    parsers_step_cases hstep
  · have hreceived : received = chunk i := by simpa [OnTrack, hparser] using h i
    obtain rfl | hj := eq_or_ne j i
    · exact hreceived ▸ onTrack_start_self s j received
    · refine (h j).of_frame ?_ ?_ ?_ <;> simp [start, hj, hj.symm]
  · obtain ⟨owner, position⟩ := p
    obtain rfl : owner = i := by simpa [OwnPointer, hparser, hsave] using hown
    obtain rfl | hj := eq_or_ne j owner
    · exact onTrack_continueScan_self (h j) hparser hsave
    · refine (h j).of_frame ?_ ?_ ?_ <;> simp [continueScan, hj, hj.symm]

omit [DecidableEq ι] in
theorem Isolated.of_onTrack {s : State ι} {i : ι} {chunk : Chunk} (h : OnTrack s i chunk) :
    Isolated s i chunk := by
  intro type args houtcome
  unfold State.outcome at houtcome
  split at houtcome
  · rename_i type' pointers hparser
    simp only [Option.some.injEq, Prod.mk.injEq] at houtcome
    obtain ⟨rfl, rfl⟩ := houtcome
    simp only [OnTrack, hparser] at h
    obtain ⟨htype, hargs, hbuffer⟩ := h
    have hstrings : s.strings pointers = chunk.message.argStrings := by
      simp [State.strings, ParsedMessage.argStrings, hargs, hbuffer]
    exact ⟨htype, hstrings, fun arg harg ↦ chunk.arg_mem_words (hstrings ▸ harg)⟩
  · cases houtcome

/-- Handlers that continue their scans only while the saved pointer is in their own buffer are
isolated from each other, at every point of every schedule. -/
theorem isolated_of_ownPointer (chunk : ι → Chunk) {s t : State ι} {schedule : List ι}
    (hready : ∀ i, s.parser i = .ready (chunk i))
    (hown : (parsers ι).Meets OwnPointer s schedule)
    (hrun : (parsers ι).run s schedule = some t) (i : ι) : Isolated t i (chunk i) := by
  have hinit : ∀ j, OnTrack s j (chunk j) := fun j ↦ by simp [OnTrack, hready j]
  have hfinal : ∀ j, OnTrack t j (chunk j) :=
    Labelled.inv_of_run (fun s ↦ ∀ j, OnTrack s j (chunk j)) onTrack_step hinit hown hrun
  exact Isolated.of_onTrack (hfinal i)

/-! ## Two handlers -/

/-- A sensor registers while an operator logs in. -/
def sensorAndOperator : Bool → Chunk
  | false => ⟨ascii "REGISTER_SENSOR s1 temp\r\n", by decide, by decide⟩
  | true => ⟨ascii "LOGIN bob secret\r\n", by decide, by decide⟩

/-- Both chunks received, no call made yet. -/
def sensorAndOperatorReady : State Bool :=
  ⟨fun _ ↦ [], none, fun i ↦ .ready (sensorAndOperator i)⟩

/-- One handler after the other is a schedule the guard allows. -/
theorem isolated_of_ownPointer_serial :
    ∃ t, (parsers Bool).run sensorAndOperatorReady
        [false, false, false, false, true, true, true, true] = some t ∧
      ∀ i, Isolated t i (sensorAndOperator i) := by
  obtain ⟨t, hrun⟩ : ∃ t, (parsers Bool).run sensorAndOperatorReady
      [false, false, false, false, true, true, true, true] = some t :=
    Option.isSome_iff_exists.mp (by decide +kernel)
  exact ⟨t, hrun, isolated_of_ownPointer sensorAndOperator (fun _ ↦ rfl)
    (by decide +kernel) hrun⟩

/-- When the operator's first call falls between the sensor's first two, the sensor's handler
registers with the operator's user name and password. -/
theorem not_isolated_of_interleaved_login :
    ∃ t, (parsers Bool).run sensorAndOperatorReady [false, true, false, false, false] = some t ∧
      t.outcome false =
        some (.registerSensor, [CString.lit "bob", CString.lit "secret"]) ∧
      ¬ Isolated t false (sensorAndOperator false) := by
  have houtcome : ((parsers Bool).run sensorAndOperatorReady
      [false, true, false, false, false]).map (State.outcome · false) =
        some (some (.registerSensor, [CString.lit "bob", CString.lit "secret"])) := by
    decide +kernel
  obtain ⟨t, hrun, ht⟩ := Option.map_eq_some_iff.mp houtcome
  refine ⟨t, hrun, ht, fun hisolated ↦ ?_⟩
  have hargs := (hisolated _ _ ht).2.1
  exact absurd hargs (by decide +kernel)

end IotMonitoring.Server.SharedTokenizer
