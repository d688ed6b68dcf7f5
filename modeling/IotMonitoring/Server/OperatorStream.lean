import IotMonitoring.Machine.Labelled
import IotMonitoring.Server.Protocol
import Mathlib.Logic.Function.Basic
import Mathlib.Order.MinMax

/-!
# The stream to an operator

Two kinds of messages go to an operator's connection: the replies of its own handler, and the alerts
that any handler broadcasts. Both are sent under the connection's `write_mutex`, but
`send_complete_response` calls `send` until every byte has been accepted, while `broadcast_alert`
calls it once. The mutex does not guard `resp_buf`, where all handlers build their replies, and
`send_complete_response` measures its reply once and reads it anew for every call of `send`. A run
keeps the messages of the stream whole exactly when every single `send` of an alert accepts all of
it, and every `send` of a reply finds what it sends as it was when the reply was measured.
-/

namespace IotMonitoring.Server.OperatorStream

open Text Machine Protocol

/-- What the pointer `response` of a handler refers to. -/
inductive Pointer where
  | literal (text : CString)
  | respBuf
deriving DecidableEq

/-- Where a handler stands with respect to the connection. Under `write_mutex`, it has sent a number
of bytes of its reply, whose text and length are those of the moment of its `strlen`, or is before
or behind the `send` of its alert; `broadcast_alert` comes to the connection once for every entry of
the registry that refers to it. -/
inductive Phase where
  | idle
  | broadcasting (line : CString)
  | alerting (line : CString)
  | alerted (line : CString)
  | replying (response : Pointer) (text : CString) (totalSent : ℕ)
deriving DecidableEq

/-- The reply buffer of all handlers, the two mutexes, the handlers, the bytes of the stream, and
the messages whose senders have released `write_mutex`. -/
structure State (ι : Type*) where
  respBuf : CharField (respBufSize - 1)
  operatorMutex : Option ι
  writeMutex : Option ι
  phase : ι → Phase
  delivered : Bytes
  finished : List CString

/-- The steps of the handlers: a reply that any of them builds, for whatever connection, an alert on
its way to this one, and the reply of this connection's handler. -/
inductive Event (ι : Type*) where
  | build (i : ι) (text : CString)
  | lockOperators (i : ι) (line : CString)
  | lockForAlert (i : ι)
  | sendAlert (i : ι) (accepted : ℕ)
  | unlockOperators (i : ι)
  | lockForReply (response : Pointer)
  | sendReply (accepted : ℕ)
  | unlock (i : ι)
deriving DecidableEq

/-- What `send` returns when it does not fail: a number of bytes from 1 to the length. -/
def Accepts (length accepted : ℕ) : Prop := min 1 length ≤ accepted ∧ accepted ≤ length

instance (length accepted : ℕ) : Decidable (Accepts length accepted) :=
  inferInstanceAs (Decidable (_ ∧ _))

variable {ι : Type*}

/-- The memory that a reply is read from. -/
def State.memory (s : State ι) : Pointer → Bytes
  | .literal text => text.bytes ++ [0]
  | .respBuf => s.respBuf.bytes

/-- What `send(client_fd, response + total_sent, ..)` puts on the stream. -/
def State.sent (s : State ι) (response : Pointer) (totalSent accepted : ℕ) : Bytes :=
  ((s.memory response).drop totalSent).take accepted

variable [DecidableEq ι]

def State.enter (s : State ι) (i : ι) (phase : Phase) : State ι :=
  { s with phase := Function.update s.phase i phase }

/-- The handlers and the connection whose own handler is `self`. -/
def stream (self : ι) : Labelled (State ι) (Event ι) where
  step s event :=
    match event with
    | .build i text =>
      if s.phase i = .idle then some { s with respBuf := s.respBuf.snprintf text } else none
    | .lockOperators i line =>
      if s.phase i = .idle ∧ s.operatorMutex = none then
        some { s.enter i (.broadcasting line) with operatorMutex := some i }
      else none
    | .lockForAlert i =>
      match s.phase i with
      | .broadcasting line =>
        if s.writeMutex = none then
          some { s.enter i (.alerting line) with writeMutex := some i }
        else none
      | _ => none
    | .sendAlert i accepted =>
      match s.phase i with
      | .alerting line =>
        if Accepts line.length accepted then
          some { s.enter i (.alerted line) with
            delivered := s.delivered ++ line.bytes.take accepted }
        else none
      | _ => none
    | .unlockOperators i =>
      match s.phase i with
      | .broadcasting _ => some { s.enter i .idle with operatorMutex := none }
      | _ => none
    | .lockForReply response =>
      -- What is built between the lock and `strlen` could as well be built before the lock.
      if s.phase self = .idle ∧ s.writeMutex = none then
        some { s.enter self (.replying response (.read (s.memory response)) 0) with
          writeMutex := some self }
      else none
    | .sendReply accepted =>
      match s.phase self with
      | .replying response text totalSent =>
        if totalSent < text.length ∧ Accepts (text.length - totalSent) accepted then
          some { s.enter self (.replying response text (totalSent + accepted)) with
            delivered := s.delivered ++ s.sent response totalSent accepted }
        else none
      | _ => none
    | .unlock i =>
      match s.phase i with
      | .alerted line =>
        some { s.enter i (.broadcasting line) with
          writeMutex := none
          finished := s.finished ++ [line] }
      | .replying _ text totalSent =>
        if text.length ≤ totalSent then
          some { s.enter i .idle with writeMutex := none, finished := s.finished ++ [text] }
        else none
      | _ => none

/-- Nothing has been built or sent yet. -/
def init : State ι := ⟨.zero (respBufSize - 1), none, none, fun _ ↦ .idle, [], []⟩

/-! ## Whole messages -/

/-- What a handler that holds `write_mutex` has to have delivered of its message; the others hold
nothing. -/
def Phase.part : Phase → Option Bytes
  | alerting _ => some []
  | alerted line => some line.bytes
  | replying _ text totalSent => some (text.bytes.take totalSent)
  | _ => none

/-- The part of the message that is under way. -/
def State.current (s : State ι) : Bytes :=
  match s.writeMutex with
  | some i => ((s.phase i).part).getD []
  | none => []

/-- The stream consists of the finished messages, each of them complete and behind the other, and of
what has been sent of the one under way. -/
def Whole (s : State ι) : Prop :=
  s.delivered = (s.finished.map CString.bytes).flatten ++ s.current

/-- The one `send` of a broadcast accepts the whole alert, and a `send` of a reply accepts bytes
that nobody has overwritten since the reply was measured. -/
def WholeSend (self : ι) (s : State ι) : Event ι → Prop
  | .sendAlert i accepted => ∀ line, s.phase i = .alerting line → accepted = line.length
  | .sendReply accepted => ∀ response text totalSent,
    s.phase self = .replying response text totalSent →
      s.sent response totalSent accepted = (text.bytes.drop totalSent).take accepted
  | _ => True

/-- The handler that holds `write_mutex` is the one that has a message under way. -/
structure Invariant (s : State ι) : Prop where
  holder : ∀ i, (s.phase i).part.isSome ↔ s.writeMutex = some i
  whole : Whole s

@[simp]
theorem phase_enter_self (s : State ι) (i : ι) (phase : Phase) :
    (s.enter i phase).phase i = phase := by
  simp [State.enter]

theorem phase_enter_ne (s : State ι) {i j : ι} (hij : j ≠ i) (phase : Phase) :
    (s.enter i phase).phase j = s.phase j := by
  simp [State.enter, hij]

@[simp]
theorem writeMutex_enter (s : State ι) (i : ι) (phase : Phase) :
    (s.enter i phase).writeMutex = s.writeMutex := rfl

@[simp]
theorem delivered_enter (s : State ι) (i : ι) (phase : Phase) :
    (s.enter i phase).delivered = s.delivered := rfl

@[simp]
theorem finished_enter (s : State ι) (i : ι) (phase : Phase) :
    (s.enter i phase).finished = s.finished := rfl

/-- A handler that does not hold the mutex, before or after its step, leaves the stream alone. -/
theorem Invariant.outside {s : State ι} (h : Invariant s) {i : ι} {phase : Phase}
    (hbefore : (s.phase i).part = none) (hafter : phase.part = none) (operatorMutex : Option ι) :
    Invariant { s.enter i phase with operatorMutex := operatorMutex } := by
  have hpart (j : ι) : ((s.enter i phase).phase j).part = (s.phase j).part := by
    obtain rfl | hij := eq_or_ne j i
    · rw [phase_enter_self, hbefore, hafter]
    · rw [phase_enter_ne s hij]
  refine ⟨fun j ↦ (hpart j ▸ h.holder j :), ?_⟩
  have hcurrent : State.current { s.enter i phase with operatorMutex := operatorMutex } =
      s.current := by
    simp only [State.current, hpart]
    rfl
  rw [Whole, hcurrent]
  exact h.whole

/-- A handler takes the free mutex and has not sent anything. -/
theorem Invariant.lock {s : State ι} (h : Invariant s) (hfree : s.writeMutex = none) (i : ι)
    {phase : Phase} (hpart : phase.part = some []) :
    Invariant { s.enter i phase with writeMutex := some i } := by
  constructor
  · intro j
    obtain rfl | hij := eq_or_ne j i
    · simp [hpart]
    · have hother := h.holder j
      simp only [phase_enter_ne s hij, hother, hfree, Option.some.injEq, reduceCtorEq, false_iff]
      exact hij.symm
  · have hwhole := h.whole
    simp only [Whole, State.current, hfree] at hwhole
    simp only [Whole, State.current, phase_enter_self, hpart, Option.getD_some]
    exact hwhole

/-- The holder sends the next bytes of its message. -/
theorem Invariant.send {s : State ι} (h : Invariant s) {i : ι} {phase : Phase} {part sent : Bytes}
    (hbefore : (s.phase i).part = some part) (hafter : phase.part = some (part ++ sent)) :
    Invariant { s.enter i phase with delivered := s.delivered ++ sent } := by
  have hheld : s.writeMutex = some i := (h.holder i).mp (hbefore ▸ rfl)
  constructor
  · intro j
    obtain rfl | hij := eq_or_ne j i
    · simpa [hafter] using hheld
    · simpa only [phase_enter_ne s hij, writeMutex_enter] using h.holder j
  · have hwhole := h.whole
    simp only [Whole, State.current, hheld, hbefore, Option.getD_some] at hwhole
    simp only [Whole, State.current, writeMutex_enter, finished_enter, hheld, phase_enter_self,
      hafter, Option.getD_some, hwhole, List.append_assoc]

/-- The holder has sent its whole message and releases the mutex. -/
theorem Invariant.unlock {s : State ι} (h : Invariant s) {i : ι} {phase : Phase}
    {message : CString} (hbefore : (s.phase i).part = some message.bytes)
    (hafter : phase.part = none) :
    Invariant { s.enter i phase with
      writeMutex := none
      finished := s.finished ++ [message] } := by
  have hheld : s.writeMutex = some i := (h.holder i).mp (hbefore ▸ rfl)
  constructor
  · intro j
    obtain rfl | hij := eq_or_ne j i
    · simp [hafter]
    · have hother := h.holder j
      simp only [phase_enter_ne s hij, hother, hheld, Option.some.injEq, reduceCtorEq, iff_false]
      exact hij.symm
  · have hwhole := h.whole
    simp only [Whole, State.current, hheld, hbefore, Option.getD_some] at hwhole
    simp only [Whole, State.current, List.map_append, List.flatten_append, List.append_nil]
    simpa using hwhole

theorem stream_sendAlert {self : ι} {s s' : State ι} {i : ι} {accepted : ℕ}
    (hstep : (stream self).step s (.sendAlert i accepted) = some s') :
    ∃ line, s.phase i = .alerting line ∧ accepted ≤ line.length ∧
      s' = { s.enter i (.alerted line) with
        delivered := s.delivered ++ line.bytes.take accepted } := by
  simp only [stream] at hstep
  split at hstep
  · rename_i line hphase
    obtain ⟨haccepts, heq⟩ := Option.ite_none_right_eq_some.mp hstep
    exact ⟨line, hphase, haccepts.2, (Option.some.inj heq).symm⟩
  · cases hstep

theorem stream_sendReply {self : ι} {s s' : State ι} {accepted : ℕ}
    (hstep : (stream self).step s (.sendReply accepted) = some s') :
    ∃ response text totalSent, s.phase self = .replying response text totalSent ∧
      s' = { s.enter self (.replying response text (totalSent + accepted)) with
        delivered := s.delivered ++ s.sent response totalSent accepted } := by
  simp only [stream] at hstep
  split at hstep
  · rename_i response text totalSent hphase
    obtain ⟨-, rfl⟩ := Option.ite_some_none_eq_some.mp hstep
    exact ⟨response, text, totalSent, hphase, rfl⟩
  · cases hstep

theorem invariant_step (self : ι) (s : State ι) (event : Event ι) (s' : State ι) (h : Invariant s)
    (hwhole : WholeSend self s event) (hstep : (stream self).step s event = some s') :
    Invariant s' := by
  cases event with
  | build i text =>
    obtain ⟨-, rfl⟩ := Option.ite_some_none_eq_some.mp hstep
    exact ⟨h.holder, h.whole⟩
  | lockOperators i line =>
    obtain ⟨⟨hidle, -⟩, rfl⟩ := Option.ite_some_none_eq_some.mp hstep
    exact h.outside (by rw [hidle]; rfl) rfl (some i)
  | lockForAlert i =>
    simp only [stream] at hstep
    split at hstep
    · obtain ⟨hfree, rfl⟩ := Option.ite_some_none_eq_some.mp hstep
      exact h.lock hfree i rfl
    · cases hstep
  | sendAlert i accepted =>
    obtain ⟨line, hphase, -, rfl⟩ := stream_sendAlert hstep
    have hall : line.bytes.take accepted = line.bytes :=
      List.take_of_length_le (hwhole line hphase).ge
    rw [hall]
    exact h.send (by rw [hphase]; rfl) rfl
  | unlockOperators i =>
    simp only [stream] at hstep
    split at hstep
    · rename_i line hphase
      obtain rfl := Option.some.inj hstep
      exact h.outside (by rw [hphase]; rfl) rfl none
    · cases hstep
  | lockForReply response =>
    obtain ⟨⟨-, hfree⟩, rfl⟩ := Option.ite_some_none_eq_some.mp hstep
    exact h.lock hfree self rfl
  | sendReply accepted =>
    obtain ⟨response, text, totalSent, hphase, rfl⟩ := stream_sendReply hstep
    rw [hwhole response text totalSent hphase]
    -- The loop sends from where it stands, so the parts add up.
    refine h.send (by rw [hphase]; rfl) ?_
    rw [Phase.part, List.take_add]
  | unlock i =>
    simp only [stream] at hstep
    split at hstep
    · rename_i line hphase
      obtain rfl := Option.some.inj hstep
      exact h.unlock (by rw [hphase]; rfl) rfl
    · rename_i response text totalSent hphase
      obtain ⟨hall, rfl⟩ := Option.ite_some_none_eq_some.mp hstep
      refine h.unlock ?_ rfl
      rw [hphase, Phase.part, List.take_of_length_le hall]
    · cases hstep

omit [DecidableEq ι] in
theorem invariant_init : Invariant (init : State ι) := ⟨fun i ↦ by simp [init, Phase.part], rfl⟩

end IotMonitoring.Server.OperatorStream
