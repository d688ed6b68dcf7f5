import IotMonitoring.Server.HandleClient
import Mathlib.Data.Fintype.Defs

/-!
# Handlers that reply at the same time

All `protocol_build_*` functions format into one static buffer and return a pointer to it, and the
bytes behind that pointer are read only when the reply is sent. A handler iteration is three steps:
the default error reply and the parse, the selected branch, and the send. Every handler sends what
its own branch built exactly along the schedules in which each send finds that text in the buffer,
and so along those in which no other handler builds a different text between the branch and the
send.
-/

namespace IotMonitoring.Server.SharedReply

open Text Machine Protocol HandleClient

variable {ι D κ : Type}

/-- Where a handler stands in its receive loop; after the branch it holds its `response`. -/
inductive Phase where
  | receiving
  | parsed (chunk : Chunk)
  | replying (response : Response)

/-- What one send has put on a connection, and what the branch of that iteration selected. -/
structure Delivery (ι : Type) where
  handler : ι
  bytes : CString
  selected : CString
deriving DecidableEq

structure State (ι D κ : Type) where
  server : ServerState D κ
  respBuf : CString
  phase : ι → Phase
  deliveries : List (Delivery ι)

/-- The steps of one iteration. -/
inductive Step (ι : Type) where
  | receive (i : ι) (chunk : Chunk)
  | branch (i : ι) (env : Env)
  | send (i : ι)

/-- What `resp_buf` holds after a branch. -/
def afterBranch (respBuf : CString) : Response → CString
  | .pong => respBuf
  | .built text => text

/-- The bytes `send_complete_response` reads through the pointer `response`. -/
def readResponse (respBuf : CString) : Response → CString
  | .pong => Response.pong.text
  | .built _ => respBuf

variable [DecidableEq ι] [CDouble D]

/-- The handlers of the given connections as one machine. -/
def handlers (client : ι → Client κ) : Labelled (State ι D κ) (Step ι) where
  step s step :=
    match step with
    | .receive i chunk =>
      match s.phase i with
      | .receiving =>
        some { s with
          respBuf := commandNotFound.text
          phase := Function.update s.phase i (.parsed chunk) }
      | _ => none
    | .branch i env =>
      match s.phase i with
      | .parsed chunk =>
        let outcome := respond env (client i) chunk s.server
        some { s with
          server := outcome.state
          respBuf := afterBranch s.respBuf outcome.response
          phase := Function.update s.phase i (.replying outcome.response) }
      | _ => none
    | .send i =>
      match s.phase i with
      | .replying response =>
        some { s with
          phase := Function.update s.phase i .receiving
          deliveries := s.deliveries ++
            [⟨i, readResponse s.respBuf response, response.text⟩] }
      | _ => none

/-- Every send so far has put on its connection what the branch of its iteration selected. -/
def Faithful (s : State ι D κ) : Prop := ∀ d ∈ s.deliveries, d.bytes = d.selected

/-- The text a handler has built and not sent yet. -/
def Phase.pending : Phase → Option CString
  | .replying (.built text) => some text
  | _ => none

/-- The text a step builds, if it builds one. -/
def builds (client : ι → Client κ) (s : State ι D κ) : Step ι → Option CString
  | .receive _ _ => some commandNotFound.text
  | .branch i env =>
    match s.phase i with
    | .parsed chunk =>
      match (respond env (client i) chunk s.server).response with
      | .built text => some text
      | .pong => none
    | _ => none
  | .send _ => none

/-- No text is built that differs from one that some handler has still to send. -/
def KeepsPending (client : ι → Client κ) (s : State ι D κ) (step : Step ι) : Prop :=
  ∀ text ∈ builds client s step, ∀ j, ∀ own ∈ (s.phase j).pending, own = text

instance [Fintype ι] (client : ι → Client κ) (s : State ι D κ) (step : Step ι) :
    Decidable (KeepsPending client s step) :=
  inferInstanceAs (Decidable (∀ text ∈ builds client s step, ∀ j, ∀ own ∈ (s.phase j).pending,
    own = text))

/-- The buffer holds every text that is still to be sent. -/
structure Invariant (s : State ι D κ) : Prop where
  faithful : Faithful s
  pending : ∀ j, ∀ own ∈ (s.phase j).pending, s.respBuf = own

theorem handlers_step_cases {client : ι → Client κ} {s s' : State ι D κ} {step : Step ι}
    (hstep : (handlers client).step s step = some s') :
    (∃ i chunk, step = .receive i chunk ∧ s.phase i = .receiving ∧
      s' = { s with
        respBuf := commandNotFound.text
        phase := Function.update s.phase i (.parsed chunk) }) ∨
    (∃ i env chunk, step = .branch i env ∧ s.phase i = .parsed chunk ∧
      s' = { s with
        server := (respond env (client i) chunk s.server).state
        respBuf := afterBranch s.respBuf (respond env (client i) chunk s.server).response
        phase := Function.update s.phase i
          (.replying (respond env (client i) chunk s.server).response) }) ∨
    (∃ i response, step = .send i ∧ s.phase i = .replying response ∧
      s' = { s with
        phase := Function.update s.phase i .receiving
        deliveries := s.deliveries ++
          [⟨i, readResponse s.respBuf response, response.text⟩] }) := by
  cases step with
  | receive i chunk =>
    simp only [handlers] at hstep
    split at hstep
    · rename_i hphase
      exact .inl ⟨i, chunk, rfl, hphase, (Option.some.inj hstep).symm⟩
    · cases hstep
  | branch i env =>
    simp only [handlers] at hstep
    split at hstep
    · rename_i chunk hphase
      exact .inr (.inl ⟨i, env, chunk, rfl, hphase, (Option.some.inj hstep).symm⟩)
    · cases hstep
  | send i =>
    simp only [handlers] at hstep
    split at hstep
    · rename_i response hphase
      exact .inr (.inr ⟨i, response, rfl, hphase, (Option.some.inj hstep).symm⟩)
    · cases hstep

theorem forall_pending_update {P : CString → Prop} {phase : ι → Phase} (i : ι) {next : Phase}
    (hnext : ∀ own ∈ next.pending, P own) (hothers : ∀ j, ∀ own ∈ (phase j).pending, P own)
    (j : ι) : ∀ own ∈ (Function.update phase i next j).pending, P own := by
  obtain rfl | hj := eq_or_ne j i
  · rwa [Function.update_self]
  · rw [Function.update_of_ne hj]
    exact hothers j

theorem invariant_step (client : ι → Client κ) (s : State ι D κ) (step : Step ι)
    (s' : State ι D κ) (h : Invariant s) (hkeeps : KeepsPending client s step)
    (hstep : (handlers client).step s step = some s') : Invariant s' := by
  obtain ⟨i, chunk, rfl, -, rfl⟩ | ⟨i, env, chunk, rfl, hphase, rfl⟩ |
    ⟨i, response, rfl, hphase, rfl⟩ := handlers_step_cases hstep
  · refine ⟨h.faithful, forall_pending_update i (by simp [Phase.pending]) fun j own hown ↦ ?_⟩
    exact (hkeeps _ rfl j own hown).symm
  · cases hresponse : (respond env (client i) chunk s.server).response with
    | pong =>
      exact ⟨h.faithful, forall_pending_update i (by simp [Phase.pending]) h.pending⟩
    | built text =>
      have hbuilds : text ∈ builds client s (.branch i env) := by
        simp [builds, hphase, hresponse]
      refine ⟨h.faithful, forall_pending_update i (by simp [Phase.pending, afterBranch]) ?_⟩
      exact fun j own hown ↦ (hkeeps text hbuilds j own hown).symm
  · have hread : readResponse s.respBuf response = response.text := by
      cases response with
      | pong => rfl
      | built text => exact h.pending i text (by simp [hphase, Phase.pending])
    refine ⟨fun d hd ↦ ?_, forall_pending_update i (by simp [Phase.pending]) h.pending⟩
    obtain hd | hd := List.mem_append.mp hd
    · exact h.faithful d hd
    · rw [List.mem_singleton.mp hd]
      exact hread

/-- The send finds in `resp_buf` what the branch has built, whatever has been built meanwhile. -/
def FindsOwn (s : State ι D κ) : Step ι → Prop
  | .send i => ∀ response, s.phase i = .replying response →
    readResponse s.respBuf response = response.text
  | .receive .. | .branch .. => True

/-- Every client is sent its own reply in every state of a schedule exactly when each send finds it,
also when it has been overwritten and built again. -/
theorem always_faithful_iff_findsOwn (client : ι → Client κ) {s : State ι D κ}
    (hsent : s.deliveries = []) (schedule : List (Step ι)) :
    (handlers client).Always Faithful s schedule ↔
      (handlers client).Meets FindsOwn s schedule := by
  refine Labelled.always_iff_meets (fun _ h ↦ h) (fun s step s' h hfinds hstep ↦ ?_)
    (fun s step s' _ hstep hfaithful ↦ ?_) (by simp [Faithful, hsent]) schedule
  · obtain ⟨i, chunk, rfl, -, rfl⟩ | ⟨i, env, chunk, rfl, -, rfl⟩ |
      ⟨i, response, rfl, hphase, rfl⟩ := handlers_step_cases hstep
    · exact h
    · exact h
    · refine List.forall_mem_append.mpr ⟨h, List.forall_mem_singleton.mpr ?_⟩
      exact hfinds response hphase
  · obtain ⟨i, chunk, rfl, -, rfl⟩ | ⟨i, env, chunk, rfl, -, rfl⟩ |
      ⟨i, response, rfl, hphase, rfl⟩ := handlers_step_cases hstep
    · trivial
    · trivial
    · intro response' hphase'
      obtain rfl := Phase.replying.inj (hphase.symm.trans hphase')
      exact hfaithful _ (List.mem_append_right _ (List.mem_singleton_self _))

/-- Where no text is built over one that is still to be sent, every client is sent the reply that
was selected for its own message. -/
theorem faithful_of_keepsPending (client : ι → Client κ) {s t : State ι D κ}
    {schedule : List (Step ι)} (hstart : ∀ i, s.phase i = .receiving) (hsent : s.deliveries = [])
    (hkeeps : (handlers client).Meets (KeepsPending client) s schedule)
    (hrun : (handlers client).run s schedule = some t) : Faithful t := by
  have hinit : Invariant s := by
    constructor
    · simp [Faithful, hsent]
    · intro j own hown
      simp [hstart j, Phase.pending] at hown
  exact (Labelled.inv_of_run Invariant (invariant_step client) hinit hkeeps hrun).faithful

/-! ## Two handlers -/

def statusChunk : Chunk := ⟨ascii "GET_STATUS\r\n", by decide, by decide⟩

def pingChunk : Chunk := ⟨ascii "PING\r\n", by decide, by decide⟩

def noEnv : Env := ⟨0, fun _ ↦ 0, none⟩

def twoClients : Bool → Client ℕ
  | false => ⟨5, 0⟩
  | true => ⟨6, 1⟩

/-- Both handlers wait for a command. -/
def bothReceiving : State Bool ℚ ℕ := ⟨serverInit 0, ∅, fun _ ↦ .receiving, []⟩

/-- One command after the other is a schedule without harm. -/
theorem faithful_of_keepsPending_serial :
    ∃ t, (handlers twoClients).run bothReceiving
        [.receive false statusChunk, .branch false noEnv, .send false, .receive true pingChunk,
          .branch true noEnv, .send true] = some t ∧ Faithful t := by
  obtain ⟨t, hrun⟩ : ∃ t, (handlers twoClients).run bothReceiving
      [.receive false statusChunk, .branch false noEnv, .send false, .receive true pingChunk,
        .branch true noEnv, .send true] = some t := Option.isSome_iff_exists.mp (by decide +kernel)
  exact ⟨t, hrun, faithful_of_keepsPending twoClients (fun _ ↦ rfl) rfl (by decide +kernel) hrun⟩

/-- When a PING arrives between the branch and the send of a GET_STATUS, its default error reply is
what the GET_STATUS is answered with. -/
theorem not_faithful_of_interleaved_ping :
    ∃ t, (handlers twoClients).run bothReceiving
        [.receive false statusChunk, .branch false noEnv, .receive true pingChunk,
          .send false] = some t ∧
      t.deliveries = [⟨false, .lit "ERROR 404 Command not found\r\n",
        .lit "STATUS 5 sensors active - System OK\r\n"⟩] ∧ ¬ Faithful t := by
  have hdeliveries : ((handlers twoClients).run bothReceiving
      [.receive false statusChunk, .branch false noEnv, .receive true pingChunk,
        .send false]).map State.deliveries =
      some [⟨false, .lit "ERROR 404 Command not found\r\n",
        .lit "STATUS 5 sensors active - System OK\r\n"⟩] := by decide +kernel
  obtain ⟨t, hrun, ht⟩ := Option.map_eq_some_iff.mp hdeliveries
  refine ⟨t, hrun, ht, fun hfaithful ↦ ?_⟩
  have hequal := hfaithful _ (ht ▸ List.mem_singleton_self _)
  exact absurd hequal (by decide +kernel)

end IotMonitoring.Server.SharedReply
