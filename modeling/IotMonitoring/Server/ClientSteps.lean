import IotMonitoring.Server.AlertLine
import IotMonitoring.Server.ClientRuns

/-!
# Steps of clients and handlers

A connection's requests are in the stream to the server, with the handler, or answered in the
stream back, and each step moves one of them on or drops it. The reply is settled by the first call
of the handler; the further calls of a measurement leave it as it is and make of the shared data
what the command makes of it when it runs at once.
-/

namespace IotMonitoring.Server.ClientRuns

open Text Machine Protocol SensorManager AlertEngine OperatorRegistry HandleClient

variable {D κ : Type}

/-! ## Requests on their way -/

/-- The request that is answered next and the reply to it, once its first call has been made. -/
def Phase.reply : Phase → Option (Request × CString)
  | stored request | typed request _ | checked request _ | broadcasting request _ _ =>
    some (request, measurementReceived)
  | sending request text => some (request, text)
  | _ => none

/-- The request that has been received and whose first call has not been made. -/
def Phase.unserved : Phase → Option Request
  | received request => some request
  | _ => none

/-- The request the handler is at. -/
def Phase.request (phase : Phase) : Option Request :=
  phase.unserved.or (phase.reply.map Prod.fst)

def Message.request : Message → Option Request
  | reply request _ => some request
  | alert _ => none

/-- The requests that have been sent and whose replies have not been read. -/
def Connection.outstanding (c : Connection κ) : List Request :=
  c.channel.filterMap Message.request ++ c.phase.request.toList ++ c.inbox

/-- The text is what an iteration answers to the chunk. -/
def AnswerTo (D κ : Type) [CDouble D] (chunk : Chunk) (text : CString) : Prop :=
  ∃ env client, ∃ shared : ServerState D κ, (respond env client chunk shared).response.text = text

/-- What holds of a connection of either kind: its LOGIN commands are counted, those that have
taken effect and those that have not. -/
structure Counted (c : Connection κ) : Prop where
  logins : c.sent.countP Request.isLogin ≤ c.kind.logins
  served : c.loggedIn.toNat + (c.phase.unserved.toList ++ c.inbox).countP Request.isLogin ≤
    c.sent.countP Request.isLogin

/-- Every reply is an answer to its request. -/
structure Answered (D : Type) [CDouble D] (c : Connection κ) : Prop where
  sent : ∀ request text, Message.reply request text ∈ c.channel → AnswerTo D κ request.chunk text
  pending : ∀ request text, c.phase.reply = some (request, text) →
    AnswerTo D κ request.chunk text

/-- A sensor has at most one request outstanding, its last one, and none while it does not wait. -/
structure InStep (c : Connection κ) : Prop where
  replies : ∀ message ∈ c.channel, ∃ request text, message = .reply request text
  single : c.outstanding.length ≤ 1
  latest : ∀ request ∈ c.outstanding,
    c.sent.getLast? = some request ∧ request.number + 1 = c.sent.length
  idle : c.waiting = false → c.outstanding = []

/-! ## Steps on one connection -/

/-- The effects of the steps on one connection. -/
inductive Move (c : Connection κ) : Action → Connection κ → Prop where
  | send (chunk : Chunk) (hidle : c.kind = .sensor → c.waiting = false)
      (hroom : (c.sent ++ [(⟨c.sent.length, chunk⟩ : Request)]).countP Request.isLogin ≤
        c.kind.logins) :
      Move c (.send chunk) { c with
        sent := c.sent ++ [⟨c.sent.length, chunk⟩]
        inbox := c.inbox ++ [⟨c.sent.length, chunk⟩]
        waiting := true }
  | receive (messages : ℕ) (hpos : 0 < messages) (hle : messages ≤ c.channel.length) :
      Move c (.receive messages) { c with channel := c.channel.drop messages, waiting := false }
  | hangUp : Move c .hangUp { c with clientOpen := false }
  | recv (request : Request) (rest : List Request) (hphase : c.phase = .receiving)
      (hinbox : c.inbox = request :: rest) :
      Move c .recv { c with phase := .received request, inbox := rest }
  | recvFails (hphase : c.phase = .receiving) : Move c .recvFails { c with phase := .leaving }
  | sendReply (request : Request) (text : CString) (hphase : c.phase = .sending request text) :
      Move c (.sendReply true) { c with
        channel := c.channel ++ [.reply request text]
        phase := .receiving }
  | sendFails (request : Request) (text : CString) (hphase : c.phase = .sending request text) :
      Move c (.sendReply false) { c with phase := .leaving }
  | close (hphase : c.phase = .removed) : Move c .close { c with phase := .closed }

theorem move_of_act {c c' : Connection κ} {action : Action} (hact : c.act action = some c') :
    Move c action c' := by
  cases action with
  | send chunk =>
    obtain ⟨⟨-, hidle, hroom⟩, rfl⟩ := Option.ite_some_none_eq_some.mp hact
    exact .send chunk hidle hroom
  | receive messages =>
    obtain ⟨⟨-, -, hpos, hle⟩, rfl⟩ := Option.ite_some_none_eq_some.mp hact
    exact .receive messages hpos hle
  | hangUp =>
    obtain rfl := Option.some.inj hact
    exact .hangUp
  | recv =>
    simp only [Connection.act] at hact
    split at hact
    · rename_i request rest hphase hinbox
      obtain rfl := Option.some.inj hact
      exact .recv request rest hphase hinbox
    · cases hact
  | recvFails =>
    simp only [Connection.act] at hact
    split at hact
    · rename_i hphase
      obtain rfl := Option.some.inj hact
      exact .recvFails hphase
    · cases hact
  | sendReply sent =>
    simp only [Connection.act] at hact
    split at hact
    · rename_i request text hphase
      cases sent with
      | true =>
        obtain rfl := Option.some.inj hact
        exact .sendReply request text hphase
      | false =>
        obtain rfl := Option.some.inj hact
        exact .sendFails request text hphase
    · cases hact
  | close =>
    simp only [Connection.act] at hact
    split at hact
    · rename_i hphase
      obtain rfl := Option.some.inj hact
      exact .close hphase
    · cases hact

theorem Counted.act {c c' : Connection κ} {action : Action} (h : Counted c)
    (hact : c.act action = some c') : Counted c' := by
  obtain ⟨hlogins, hserved⟩ := h
  cases move_of_act hact with
  | send chunk _ hroom =>
    refine ⟨hroom, ?_⟩
    rw [List.countP_append] at hserved
    simp only [List.countP_append] at hserved ⊢
    omega
  | receive => exact ⟨hlogins, hserved⟩
  | hangUp => exact ⟨hlogins, hserved⟩
  | recv request rest hphase hinbox =>
    rw [hphase, hinbox] at hserved
    exact ⟨hlogins, hserved⟩
  | recvFails hphase =>
    rw [hphase] at hserved
    exact ⟨hlogins, hserved⟩
  | sendReply request text hphase =>
    rw [hphase] at hserved
    exact ⟨hlogins, hserved⟩
  | sendFails request text hphase =>
    rw [hphase] at hserved
    exact ⟨hlogins, hserved⟩
  | close hphase =>
    rw [hphase] at hserved
    exact ⟨hlogins, hserved⟩

/-- Before a LOGIN is served, none has been served. -/
theorem Counted.loggedIn_of_received {c : Connection κ} (h : Counted c) {request : Request}
    (hphase : c.phase = .received request) (hlogin : request.isLogin) : c.loggedIn = false := by
  have hserved := h.served
  have hlogins := h.logins
  have hmost : c.kind.logins ≤ 1 := by cases c.kind <;> decide
  rw [hphase] at hserved
  simp only [Phase.unserved, Option.toList_some, List.singleton_append, List.countP_cons,
    if_pos hlogin] at hserved
  exact Bool.toNat_eq_zero.mp (by omega)

/-- A step on which requests only move on or are dropped. -/
theorem InStep.of_sublist {c c' : Connection κ} (h : InStep c)
    (hreplies : ∀ message ∈ c'.channel, ∃ request text, message = .reply request text)
    (hsublist : c'.outstanding.Sublist c.outstanding) (hsent : c'.sent = c.sent)
    (hwaiting : c'.waiting = c.waiting) : InStep c' where
  replies := hreplies
  single := hsublist.length_le.trans h.single
  latest request hrequest := hsent ▸ h.latest request (hsublist.subset hrequest)
  idle hidle := List.eq_nil_of_sublist_nil (h.idle (hwaiting ▸ hidle) ▸ hsublist)

theorem length_filterMap_request {channel : List Message}
    (hreplies : ∀ message ∈ channel, ∃ request text, message = .reply request text) :
    (channel.filterMap Message.request).length = channel.length := by
  induction channel with
  | nil => rfl
  | cons message channel ih =>
    rw [List.forall_mem_cons] at hreplies
    obtain ⟨⟨request, text, rfl⟩, hrest⟩ := hreplies
    exact congrArg (· + 1) (ih hrest)

/-- What a sensor reads is one message, and nothing is outstanding then. -/
theorem InStep.receive {c : Connection κ} (h : InStep c) {messages : ℕ} (hpos : 0 < messages)
    (hle : messages ≤ c.channel.length) :
    messages = 1 ∧ c.channel.length = 1 ∧ c.phase.request = none ∧ c.inbox = [] := by
  have hsingle := h.single
  rw [Connection.outstanding, List.length_append, List.length_append,
    length_filterMap_request h.replies, Option.length_toList] at hsingle
  have hphase : c.phase.request.isSome = false := by
    by_contra hsome
    rw [Bool.not_eq_false] at hsome
    simp only [hsome, if_true] at hsingle
    omega
  refine ⟨by omega, by omega, Option.isSome_eq_false_iff.mp hphase |> Option.isNone_iff_eq_none.mp,
    List.eq_nil_of_length_eq_zero (by omega)⟩

theorem InStep.act {c c' : Connection κ} {action : Action} (h : InStep c)
    (hkind : c.kind = .sensor) (hact : c.act action = some c') : InStep c' := by
  cases move_of_act hact with
  | send chunk hidle _ =>
    have hnone := h.idle (hidle hkind)
    have hone : ({ c with
        sent := c.sent ++ [⟨c.sent.length, chunk⟩]
        inbox := c.inbox ++ [⟨c.sent.length, chunk⟩]
        waiting := true } : Connection κ).outstanding = [⟨c.sent.length, chunk⟩] := by
      rw [Connection.outstanding, ← List.append_assoc]
      exact congrArg (· ++ [_]) hnone
    refine ⟨h.replies, by rw [hone]; rfl, fun request hrequest ↦ ?_, nofun⟩
    rw [hone, List.mem_singleton] at hrequest
    subst hrequest
    exact ⟨List.getLast?_concat, by simp⟩
  | receive messages hpos hle =>
    obtain ⟨rfl, hlength, hphase, hinbox⟩ := h.receive hpos hle
    have hchannel : c.channel.drop 1 = [] := List.drop_eq_nil_of_le hlength.le
    have hnone : ({ c with channel := c.channel.drop 1, waiting := false } :
        Connection κ).outstanding = [] := by
      simp [Connection.outstanding, hchannel, hphase, hinbox]
    refine ⟨by simp [hchannel], ?_, ?_, fun _ ↦ hnone⟩
    · rw [hnone]
      exact Nat.zero_le 1
    · rw [hnone]
      exact nofun
  | hangUp => exact ⟨h.replies, h.single, h.latest, h.idle⟩
  | recv request rest hphase hinbox =>
    refine h.of_sublist h.replies ?_ rfl rfl
    simp [Connection.outstanding, hphase, hinbox, Phase.request, Phase.unserved, Phase.reply]
  | recvFails =>
    refine h.of_sublist h.replies ?_ rfl rfl
    simp [Connection.outstanding, Phase.request, Phase.unserved, Phase.reply]
  | sendReply request text hphase =>
    refine h.of_sublist ?_ ?_ rfl rfl
    · rw [List.forall_mem_append]
      exact ⟨h.replies, by simp⟩
    · simp [Connection.outstanding, hphase, Phase.request, Phase.unserved, Phase.reply,
        Message.request]
  | sendFails =>
    refine h.of_sublist h.replies ?_ rfl rfl
    simp [Connection.outstanding, Phase.request, Phase.unserved, Phase.reply]
  | close hphase =>
    refine h.of_sublist h.replies ?_ rfl rfl
    simp [Connection.outstanding, hphase, Phase.request, Phase.unserved, Phase.reply]

section Answers

variable [CDouble D]

theorem Answered.act {c c' : Connection κ} {action : Action} (h : Answered D c)
    (hact : c.act action = some c') : Answered D c' := by
  cases move_of_act hact with
  | send => exact ⟨h.sent, h.pending⟩
  | receive =>
    exact ⟨fun request text hmem ↦ h.sent request text (List.mem_of_mem_drop hmem), h.pending⟩
  | hangUp => exact ⟨h.sent, h.pending⟩
  | recv => exact ⟨h.sent, nofun⟩
  | recvFails => exact ⟨h.sent, nofun⟩
  | sendReply request text hphase =>
    refine ⟨fun request' text' hmem ↦ ?_, nofun⟩
    obtain hmem | hmem := List.mem_append.mp hmem
    · exact h.sent request' text' hmem
    · obtain ⟨rfl, rfl⟩ := Message.reply.inj (List.mem_singleton.mp hmem)
      exact h.pending request' text' (by rw [hphase]; rfl)
  | sendFails => exact ⟨h.sent, nofun⟩
  | close => exact ⟨h.sent, nofun⟩

/-- What holds of every connection in every run. -/
structure Orderly (D : Type) [CDouble D] (c : Connection κ) : Prop extends Counted c, Answered D c
    where
  inStep : c.kind = .sensor → InStep c

theorem Orderly.act {c c' : Connection κ} {action : Action} (h : Orderly D c)
    (hact : c.act action = some c') : Orderly D c' := by
  have hkind : c'.kind = c.kind := by cases move_of_act hact <;> rfl
  exact ⟨h.toCounted.act hact, h.toAnswered.act hact,
    fun hsensor ↦ (h.inStep (hkind ▸ hsensor)).act (hkind ▸ hsensor) hact⟩

theorem Orderly.accepted (kind : Kind) (fd : ℤ) (context : κ) :
    Orderly D (.accepted kind fd context) := by
  have hnone : (Connection.accepted kind fd context).outstanding = [] := rfl
  refine ⟨⟨Nat.zero_le _, Nat.zero_le _⟩, ⟨nofun, nofun⟩, fun _ ↦ ⟨nofun, ?_, ?_, fun _ ↦ hnone⟩⟩
  · rw [hnone]
    exact Nat.zero_le 1
  · rw [hnone]
    exact nofun

theorem Phase.unserved_of_reply {phase : Phase} (h : phase.reply.isSome) :
    phase.unserved = none := by
  cases phase with
  | received request => cases h
  | _ => rfl

/-- The calls of a measurement after the first one leave the request where it is. -/
theorem Orderly.continue {c : Connection κ} (h : Orderly D c) {phase : Phase}
    (hpending : c.phase.reply.isSome) (hreply : phase.reply = c.phase.reply) :
    Orderly D { c with phase := phase } := by
  have hunserved := Phase.unserved_of_reply hpending
  have hunserved' : phase.unserved = none := Phase.unserved_of_reply (hreply ▸ hpending)
  have hrequest : phase.request = c.phase.request := by
    rw [Phase.request, Phase.request, hunserved, hunserved', hreply]
  refine ⟨⟨h.logins, ?_⟩, ⟨h.sent, fun request text hsome ↦ ?_⟩, fun hsensor ↦ ?_⟩
  · rw [hunserved', ← hunserved]
    exact h.served
  · exact h.pending request text (hreply ▸ hsome)
  · refine (h.inStep hsensor).of_sublist (h.inStep hsensor).replies ?_ rfl rfl
    rw [Connection.outstanding, hrequest]
    exact List.Sublist.refl _

/-- Away from the receive loop there is no request with the handler. -/
theorem Orderly.atRest {c : Connection κ} (h : Orderly D c) {phase : Phase}
    (hunserved : phase.unserved = none) (hreply : phase.reply = none) :
    Orderly D { c with phase := phase } := by
  have hserved := h.served
  rw [List.countP_append] at hserved
  refine ⟨⟨h.logins, ?_⟩, ⟨h.sent, fun request text hsome ↦ ?_⟩, fun hsensor ↦ ?_⟩
  · simp only [hunserved, Option.toList_none, List.nil_append]
    omega
  · cases hreply.symm.trans hsome
  · refine (h.inStep hsensor).of_sublist (h.inStep hsensor).replies ?_ rfl rfl
    simp [Connection.outstanding, Phase.request, hunserved, hreply]

theorem Phase.request_of_reply {phase : Phase} {request : Request} {text : CString}
    (h : phase.reply = some (request, text)) : phase.request = some request := by
  have hunserved := Phase.unserved_of_reply (h ▸ rfl : phase.reply.isSome)
  rw [Phase.request, hunserved, h]
  rfl

/-- The first call settles the reply, and a LOGIN counts from then on as one that has taken
effect. -/
theorem Orderly.first {c : Connection κ} (h : Orderly D c) {request : Request}
    (hphase : c.phase = .received request) {phase : Phase} {text : CString}
    (hreply : phase.reply = some (request, text)) (hanswer : AnswerTo D κ request.chunk text)
    {loggedIn : Bool} (hlogin : loggedIn = c.loggedIn ∨ request.isLogin) :
    Orderly D { c with phase := phase, loggedIn := loggedIn } := by
  have hunserved := Phase.unserved_of_reply (hreply ▸ rfl : phase.reply.isSome)
  have hrequest : phase.request = c.phase.request := by
    rw [Phase.request_of_reply hreply, hphase]
    rfl
  have hserved := h.served
  simp only [hphase, Phase.unserved, Option.toList_some, List.singleton_append, List.countP_cons]
    at hserved
  refine ⟨⟨h.logins, ?_⟩, ⟨h.sent, fun request' text' hsome ↦ ?_⟩, fun hsensor ↦ ?_⟩
  · simp only [hunserved, Option.toList_none, List.nil_append]
    obtain rfl | hlogin := hlogin
    · omega
    · have hle := Bool.toNat_le loggedIn
      simp only [hlogin, if_true] at hserved
      omega
  · obtain ⟨rfl, rfl⟩ := Prod.mk.inj (Option.some.inj (hreply.symm.trans hsome))
    exact hanswer
  · refine (h.inStep hsensor).of_sublist (h.inStep hsensor).replies ?_ rfl rfl
    rw [Connection.outstanding, hrequest]
    exact List.Sublist.refl _

/-! ## First calls -/

omit [CDouble D] in
theorem isLogin_of_granted {env : Env} {request : Request}
    (h : (grantedRole env request.chunk).isSome) : request.isLogin := by
  unfold grantedRole at h
  split at h
  · rename_i htype _
    rw [Request.isLogin, htype]
    rfl
  · cases h

/-- A measurement that has been stored is answered with OK. -/
theorem response_of_stores {env : Env} {chunk : Chunk} {shared : ServerState D κ}
    (h : stores env chunk shared) (client : Client κ) :
    (respond env client chunk shared).response.text = measurementReceived := by
  unfold stores at h
  split at h
  · rename_i sensorId valueText unit rest htype hargs
    rw [decide_eq_true_eq] at h
    rw [respond_eq, htype, hargs]
    simp only [dispatch, measurement, if_pos h]
    split <;> rfl
  · cases h

/-- Of the other requests none broadcasts. -/
theorem broadcast_of_not_stores {env : Env} {chunk : Chunk} {shared : ServerState D κ}
    (h : stores env chunk shared = false) (client : Client κ) :
    (respond env client chunk shared).broadcast = none := by
  by_contra hsome
  obtain ⟨line, hline⟩ := Option.ne_none_iff_exists'.mp hsome
  obtain ⟨htype, sensorId, valueText, unit, pointer, hbroadcast⟩ := broadcasts_of_respond hline
  obtain ⟨rest, hargs⟩ := hbroadcast.args_eq
  obtain ⟨i, -, haccepted⟩ | ⟨hnone, -⟩ :=
    addMeasurement_cases env.time sensorId (CDouble.atof valueText : D) unit shared.sensors
  · simp [stores, htype, hargs, haccepted] at h
  · rw [hbroadcast.found] at hnone
    cases hnone

/-- A measurement that has been stored is searched and checked as when it runs at once. -/
theorem respond_of_stores {env : Env} {request : Request} {shared : ServerState D κ}
    (h : stores env request.chunk shared) (client : Client κ) :
    ∃ pointer, typeCall request
        (storeMeasurement env request.chunk.message.argStrings shared) = .typed request pointer ∧
      (respond env client request.chunk shared).state =
        checkStored env request.chunk.message.argStrings pointer
          (storeMeasurement env request.chunk.message.argStrings shared) ∧
      checkCall env request pointer
          (storeMeasurement env request.chunk.message.argStrings shared) =
        match (respond env client request.chunk shared).broadcast with
        | some line => .checked request line
        | none => .sending request measurementReceived := by
  unfold stores at h
  split at h
  · rename_i sensorId valueText unit rest htype hargs
    rw [decide_eq_true_eq] at h
    obtain ⟨slot, hfind, -⟩ | ⟨-, heq⟩ :=
      addMeasurement_cases env.time sensorId (CDouble.atof valueText : D) unit shared.sensors
    swap
    · simp [heq] at h
    have hpointer : SensorManager.getSensorType sensorId
        (addMeasurement env.time sensorId (CDouble.atof valueText : D) unit shared.sensors).1 =
          some slot :=
      findSensor_of_grow ((directory_addMeasurement env.time sensorId _ unit shared.sensors) ▸
        List.prefix_refl _) hfind
    refine ⟨slot, ?_, ?_, ?_⟩
    · simp only [typeCall, storeMeasurement, hargs, hpointer]
    · simp only [respond_eq, htype, hargs, dispatch, measurement, if_pos h, hpointer, checkStored,
        storeMeasurement]
    · simp only [respond_eq, htype, hargs, dispatch, measurement, if_pos h, hpointer, checkCall,
        storeMeasurement]
      split <;> rfl
  · cases h

theorem operators_storeMeasurement (env : Env) (args : List CString) (shared : ServerState D κ) :
    (storeMeasurement env args shared).operators = shared.operators := by
  unfold storeMeasurement
  split <;> rfl

theorem operators_checkStored (env : Env) (args : List CString) (pointer : Fin maxSensors)
    (shared : ServerState D κ) :
    (checkStored env args pointer shared).operators = shared.operators := by
  unfold checkStored
  split <;> rfl

theorem firstCall_cases {env : Env} {c : Connection κ} {request : Request} {s : State D κ}
    {result : ServerState D κ × Connection κ} (h : firstCall env c request s = some result) :
    ∃ phase text, phase.reply = some (request, text) ∧ AnswerTo D κ request.chunk text ∧
      ((result.1.operators = s.shared.operators ∧ result.2 = { c with phase := phase }) ∨
        (request.isLogin ∧
          result.1.operators = registerOperator c.fd c.context s.shared.operators ∧
          result.2 = { c with phase := phase, loggedIn := true })) := by
  have hanswer : AnswerTo D κ request.chunk
      (respond env ⟨c.fd, c.context⟩ request.chunk s.shared).response.text := ⟨_, _, _, rfl⟩
  unfold firstCall at h
  split at h
  · rename_i hstores
    obtain rfl := Option.some.inj h
    rw [response_of_stores hstores] at hanswer
    exact ⟨_, _, rfl, hanswer, .inl ⟨operators_storeMeasurement _ _ _, rfl⟩⟩
  · dsimp only at h
    split at h
    · rename_i hgranted
      obtain ⟨role, hrole⟩ := Option.isSome_iff_exists.mp hgranted
      obtain ⟨-, rfl⟩ := Option.ite_some_none_eq_some.mp h
      refine ⟨_, _, rfl, hanswer, .inr ⟨isLogin_of_granted hgranted, ?_, rfl⟩⟩
      rw [respond_of_granted hrole]
    · rename_i hrefused
      obtain rfl := Option.some.inj h
      refine ⟨_, _, rfl, hanswer, .inl ⟨?_, rfl⟩⟩
      exact operators_respond_of_not_granted (Option.not_isSome_iff_eq_none.mp hrefused) _ _

/-! ## Steps of the machine -/

omit [CDouble D] in
theorem reply_typeCall (request : Request) (shared : ServerState D κ) :
    (typeCall request shared).reply = some (request, measurementReceived) := by
  unfold typeCall
  split
  · split <;> rfl
  · rfl

theorem reply_checkCall (env : Env) (request : Request) (pointer : Fin maxSensors)
    (shared : ServerState D κ) :
    (checkCall env request pointer shared).reply = some (request, measurementReceived) := by
  unfold checkCall
  split
  · dsimp only
    split <;> rfl
  · rfl

variable [DecidableEq κ]

/-- The effects of the steps of the machine. The calls after the first one of a request leave its
reply and, but for the end of a connection, the registry as they are. -/
inductive Change (s : State D κ) : State D κ → Prop where
  | accept (kind : Kind) (fd : ℤ) (context : κ) (hpos : 0 < fd)
      (hfree : ∀ c ∈ s.connections, c.openFd.isSome → c.fd ≠ fd ∧ c.context ≠ context) :
      Change s { s with connections := s.connections ++ [.accepted kind fd context] }
  | own {i : ℕ} {c c' : Connection κ} {action : Action} (hc : s.connections[i]? = some c)
      (hact : c.act action = some c') :
      Change s { s with connections := s.connections.set i c' }
  | first {i : ℕ} {c c' : Connection κ} {env : Env} {request : Request} {shared : ServerState D κ}
      (hc : s.connections[i]? = some c) (hphase : c.phase = .received request)
      (hcall : firstCall env c request s = some (shared, c')) :
      Change s { s with shared := shared, connections := s.connections.set i c' }
  | later {i : ℕ} {c : Connection κ} {phase : Phase} {shared : ServerState D κ}
      (mutex : Option ℕ) (hc : s.connections[i]? = some c) (hpending : c.phase.reply.isSome)
      (hreply : phase.reply = c.phase.reply) (hshared : shared.operators = s.shared.operators) :
      Change s ⟨shared, mutex, s.connections.set i { c with phase := phase }⟩
  | deliver {i : ℕ} {c : Connection κ} {phase : Phase} {operator : Operator κ} (line : CString)
      (hmem : operator ∈ s.shared.operators.live) (hpos : 0 < operator.client)
      (hc : s.connections[i]? = some c) (hpending : c.phase.reply.isSome)
      (hreply : phase.reply = c.phase.reply) :
      Change s { s with
        connections := (s.connections.set i { c with phase := phase }).map
          (·.deliver operator.client (.alert line)) }
  | remove {i : ℕ} {c : Connection κ} (hc : s.connections[i]? = some c)
      (hphase : c.phase = .leaving) :
      Change s { s with
        shared := { s.shared with
          operators := OperatorRegistry.removeOperator c.fd s.shared.operators }
        connections := s.connections.set i { c with phase := .removed } }

theorem change_of_step {s s' : State D κ} {event : Event κ}
    (hstep : (clientRuns D κ).step s event = some s') : Change s s' := by
  cases event with
  | accept kind fd context =>
    obtain ⟨⟨hpos, hfree⟩, rfl⟩ := Option.ite_some_none_eq_some.mp hstep
    exact .accept kind fd context hpos hfree
  | own i action =>
    obtain ⟨c, hc, hmap⟩ := Option.bind_eq_some_iff.mp hstep
    obtain ⟨c', hact, rfl⟩ := Option.map_eq_some_iff.mp hmap
    exact .own hc hact
  | dispatch i env =>
    obtain ⟨c, hc, hmap⟩ := Option.bind_eq_some_iff.mp hstep
    split at hmap
    · rename_i request hphase
      obtain ⟨⟨shared, c'⟩, hcall, rfl⟩ := Option.map_eq_some_iff.mp hmap
      exact .first hc hphase hcall
    · cases hmap
  | getSensorType i =>
    obtain ⟨c, hc, hcall⟩ := Option.bind_eq_some_iff.mp hstep
    split at hcall
    · rename_i request hphase
      obtain rfl := Option.some.inj hcall
      refine .later _ hc (hphase ▸ rfl) ?_ rfl
      rw [hphase, reply_typeCall]
      rfl
    · cases hcall
  | checkMeasurement i env =>
    obtain ⟨c, hc, hcall⟩ := Option.bind_eq_some_iff.mp hstep
    split at hcall
    · rename_i request pointer hphase
      obtain rfl := Option.some.inj hcall
      refine .later _ hc (hphase ▸ rfl) ?_ (operators_checkStored _ _ _ _)
      rw [hphase, reply_checkCall]
      rfl
    · cases hcall
  | lockOperators i =>
    obtain ⟨c, hc, hcall⟩ := Option.bind_eq_some_iff.mp hstep
    split at hcall
    · rename_i request line hphase
      obtain ⟨-, rfl⟩ := Option.ite_some_none_eq_some.mp hcall
      exact .later _ hc (hphase ▸ rfl) (hphase ▸ rfl) rfl
    · cases hcall
  | sendAlert i sent =>
    obtain ⟨c, hc, hcall⟩ := Option.bind_eq_some_iff.mp hstep
    split at hcall
    · rename_i request line next hphase
      split at hcall
      · rename_i operator hoperator
        have hmem := List.mem_of_getElem? hoperator
        dsimp only at hcall
        split at hcall
        · rename_i hsend
          obtain rfl := Option.some.inj hcall
          exact .deliver line hmem hsend.2.1 hc (hphase ▸ rfl) (hphase ▸ rfl)
        · obtain rfl := Option.some.inj hcall
          exact .later _ hc (hphase ▸ rfl) (hphase ▸ rfl) rfl
      · obtain rfl := Option.some.inj hcall
        exact .later _ hc (hphase ▸ rfl) (hphase ▸ rfl) rfl
    · cases hcall
  | removeOperator i =>
    obtain ⟨c, hc, hcall⟩ := Option.bind_eq_some_iff.mp hstep
    split at hcall
    · rename_i hphase
      obtain ⟨-, rfl⟩ := Option.ite_some_none_eq_some.mp hcall
      exact .remove hc hphase
    · cases hcall

end Answers

end IotMonitoring.Server.ClientRuns
