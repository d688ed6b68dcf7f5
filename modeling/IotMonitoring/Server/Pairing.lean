import IotMonitoring.Machine.Parties
import IotMonitoring.Server.ClientSteps
import IotMonitoring.Server.Connections

/-!
# Replies to sensors

A sensor's commands and the replies to them alternate: between its last command and the answer that
it reads, the request is in the stream to the server, with the handler, or answered in the stream
back, and in one of these only. An alert is sent to the descriptors of the registry, which belong
to connections that have logged in, and a sensor does not log in, whatever descriptor it has been
given. So one `recv` of a sensor returns one message, the reply to its last command.
-/

namespace IotMonitoring.Server.ClientRuns

open Text Machine Protocol SensorManager AlertEngine OperatorRegistry HandleClient

variable {D κ : Type}

/-! ## Descriptors and the registry -/

/-- What the registry may refer to: a connection that has not been removed. -/
def Connection.listed (c : Connection κ) : Option (Connections.Connection κ) :=
  match c.phase with
  | .removed | .closed => none
  | _ => some ⟨c.fd, c.context, c.loggedIn⟩

/-- The connections without their streams. -/
def State.connected (s : State D κ) : Connections.State κ :=
  ⟨s.connections.filterMap Connection.listed, s.shared.operators⟩

/-- No two connections have the same open descriptor. -/
def Different (connections : List (Connection κ)) : Prop :=
  ∀ (i j : ℕ) (c d : Connection κ) (fd : ℤ), connections[i]? = some c → connections[j]? = some d →
    c.openFd = some fd → d.openFd = some fd → i = j

theorem listed_eq_some {c : Connection κ} {view : Connections.Connection κ}
    (h : c.listed = some view) :
    view = ⟨c.fd, c.context, c.loggedIn⟩ ∧ c.openFd = some c.fd := by
  unfold Connection.listed at h
  unfold Connection.openFd
  split at h
  · cases h
  · cases h
  · rename_i hremoved hclosed
    refine ⟨(Option.some.inj h).symm, ?_⟩
    split
    · rename_i hphase
      exact absurd hphase hclosed
    · rfl

theorem openFd_eq_some {c : Connection κ} {fd : ℤ} (h : c.openFd = some fd) : c.fd = fd := by
  unfold Connection.openFd at h
  split at h
  · cases h
  · exact Option.some.inj h

/-- Until the registry has been searched for it, a connection may be listed. -/
theorem listed_of_serving {c : Connection κ} (hremoved : c.phase ≠ .removed)
    (hclosed : c.phase ≠ .closed) :
    c.listed = some ⟨c.fd, c.context, c.loggedIn⟩ ∧ c.openFd = some c.fd := by
  unfold Connection.listed Connection.openFd
  cases hphase : c.phase with
  | removed => exact absurd hphase hremoved
  | closed => exact absurd hphase hclosed
  | _ => exact ⟨rfl, rfl⟩

theorem listed_of_reply {c : Connection κ} (h : c.phase.reply.isSome) :
    c.listed = some ⟨c.fd, c.context, c.loggedIn⟩ ∧ c.openFd = some c.fd := by
  refine listed_of_serving (fun hphase ↦ ?_) (fun hphase ↦ ?_)
  · simp [hphase, Phase.reply] at h
  · simp [hphase, Phase.reply] at h

theorem listed_act {c c' : Connection κ} {action : Action} (hact : c.act action = some c') :
    c'.listed = c.listed ∧ ∀ fd, c'.openFd = some fd → c.openFd = some fd := by
  cases move_of_act hact with
  | send => exact ⟨rfl, fun _ ↦ id⟩
  | receive => exact ⟨rfl, fun _ ↦ id⟩
  | hangUp => exact ⟨rfl, fun _ ↦ id⟩
  | recv request rest hphase _ => simp [Connection.listed, Connection.openFd, hphase]
  | recvFails hphase => simp [Connection.listed, Connection.openFd, hphase]
  | sendReply request text hphase => simp [Connection.listed, Connection.openFd, hphase]
  | sendFails request text hphase => simp [Connection.listed, Connection.openFd, hphase]
  | close hphase => simp [Connection.listed, Connection.openFd, hphase]

theorem Different.of_back {connections connections' : List (Connection κ)}
    (h : Different connections)
    (hback : ∀ (i : ℕ) (c' : Connection κ) (fd : ℤ), connections'[i]? = some c' →
      c'.openFd = some fd → ∃ c, connections[i]? = some c ∧ c.openFd = some fd) :
    Different connections' := by
  intro i j c' d' fd hc' hd' hcfd hdfd
  obtain ⟨c, hc, hcfd⟩ := hback i c' fd hc' hcfd
  obtain ⟨d, hd, hdfd⟩ := hback j d' fd hd' hdfd
  exact h i j c d fd hc hd hcfd hdfd

theorem Different.set {connections : List (Connection κ)} {i : ℕ} {c c' : Connection κ}
    (h : Different connections) (hc : connections[i]? = some c)
    (hfd : ∀ fd, c'.openFd = some fd → c.openFd = some fd) :
    Different (connections.set i c') := by
  refine h.of_back fun j d' fd hd' hdfd ↦ ?_
  obtain ⟨rfl, rfl⟩ | ⟨-, hd⟩ := Parties.getElem?_set_cases hd'
  · exact ⟨c, hc, hfd fd hdfd⟩
  · exact ⟨d', hd, hdfd⟩

theorem openFd_deliver (fd : ℤ) (message : Message) (c : Connection κ) :
    (c.deliver fd message).openFd = c.openFd ∧ (c.deliver fd message).listed = c.listed := by
  rw [Connection.deliver]
  split <;> exact ⟨rfl, rfl⟩

theorem Different.deliver {connections : List (Connection κ)} (h : Different connections) (fd : ℤ)
    (message : Message) : Different (connections.map (·.deliver fd message)) := by
  refine h.of_back fun i c' fd' hc' hcfd ↦ ?_
  rw [List.getElem?_map] at hc'
  obtain ⟨c, hc, rfl⟩ := Option.map_eq_some_iff.mp hc'
  exact ⟨c, hc, (openFd_deliver fd message c).1 ▸ hcfd⟩

theorem Different.accepted {connections : List (Connection κ)} (h : Different connections)
    {fd : ℤ} (hfree : ∀ c ∈ connections, c.openFd.isSome → c.fd ≠ fd) (kind : Kind) (context : κ) :
    Different (connections ++ [.accepted kind fd context]) := by
  have hcases {i : ℕ} {c : Connection κ} {fd' : ℤ}
      (hc : (connections ++ [.accepted kind fd context])[i]? = some c)
      (hcfd : c.openFd = some fd') :
      (connections[i]? = some c ∧ fd' ≠ fd) ∨ (i = connections.length ∧ fd' = fd) := by
    rw [List.getElem?_append] at hc
    split at hc
    · have hother := hfree c (List.mem_of_getElem? hc) (hcfd ▸ rfl)
      exact .inl ⟨hc, openFd_eq_some hcfd ▸ hother⟩
    · rw [List.getElem?_singleton] at hc
      obtain ⟨hzero, rfl⟩ := Option.ite_some_none_eq_some.mp hc
      exact .inr ⟨by omega, (Option.some.inj hcfd).symm⟩
  intro i j c d fd' hc hd hcfd hdfd
  obtain ⟨hc, hother⟩ | ⟨rfl, rfl⟩ := hcases hc hcfd
  · obtain ⟨hd, -⟩ | ⟨-, rfl⟩ := hcases hd hdfd
    · exact h i j c d fd' hc hd hcfd hdfd
    · exact absurd rfl hother
  · obtain ⟨-, hother⟩ | ⟨rfl, -⟩ := hcases hd hdfd
    · exact absurd rfl hother
    · rfl

/-! ## The invariant -/

/-- What holds in every run. -/
structure Invariant [CDouble D] (s : State D κ) : Prop where
  registry : Connections.Invariant s.connected
  different : Different s.connections
  orderly : ∀ c ∈ s.connections, Orderly D c

variable [CDouble D]

/-- An open descriptor in the registry belongs to an operator. -/
theorem Invariant.operator_of_target {s : State D κ} (h : Invariant s) {operator : Operator κ}
    (hmem : operator ∈ s.shared.operators.live) (hpos : 0 < operator.client) {c : Connection κ}
    (hc : c ∈ s.connections) (hfd : c.openFd = some operator.client) : c.kind = .operator := by
  obtain ⟨view, hview, hlogged, rfl⟩ := h.registry.refers operator hmem (by omega)
  obtain ⟨d, hd, hlisted⟩ := List.mem_filterMap.mp hview
  obtain ⟨rfl, hdfd⟩ := listed_eq_some hlisted
  obtain ⟨i, hi⟩ := List.mem_iff_getElem?.mp hc
  obtain ⟨j, hj⟩ := List.mem_iff_getElem?.mp hd
  obtain rfl := h.different i j c d _ hi hj hfd hdfd
  obtain rfl := Option.some.inj (hi.symm.trans hj)
  have hcounted := h.orderly c hc
  have hlogins : 1 ≤ c.kind.logins := by
    have hserved := hcounted.served
    rw [show c.loggedIn = true from hlogged, Bool.toNat_true] at hserved
    exact (Nat.le_add_right 1 _).trans (hserved.trans hcounted.logins)
  cases hkind : c.kind with
  | operator => rfl
  | sensor =>
    rw [hkind] at hlogins
    exact absurd hlogins (by decide)

theorem Orderly.deliver {c : Connection κ} (h : Orderly D c) (fd : ℤ) (line : CString)
    (hoperator : c.openFd = some fd → c.kind = .operator) :
    Orderly D (c.deliver fd (.alert line)) := by
  rw [Connection.deliver]
  split
  · rename_i hfd
    refine ⟨⟨h.logins, h.served⟩, ⟨fun request text hmem ↦ ?_, h.pending⟩, fun hsensor ↦ ?_⟩
    · obtain hmem | hmem := List.mem_append.mp hmem
      · exact h.sent request text hmem
      · cases List.mem_singleton.mp hmem
    · have hkind : c.kind = .sensor := hsensor
      rw [hoperator hfd] at hkind
      cases hkind
  · exact h

variable [DecidableEq κ]

/-- Where the connections are seen to make no step or a step with a fresh login, the invariant
carries over. -/
theorem Invariant.of_step {s s' : State D κ} (h : Invariant s)
    (hstep : s'.connected = s.connected ∨ ∃ event,
      (Connections.connections κ).step s.connected event = some s'.connected ∧
        Connections.FreshLogin s.connected event)
    (hdifferent : Different s'.connections) (horderly : ∀ c ∈ s'.connections, Orderly D c) :
    Invariant s' := by
  refine ⟨?_, hdifferent, horderly⟩
  obtain hsame | ⟨event, hevent, hfresh⟩ := hstep
  · rw [hsame]
    exact h.registry
  · exact Connections.invariant_step s.connected event s'.connected h.registry hfresh hevent

omit [DecidableEq κ] in
/-- The other connections have other descriptors. -/
theorem Invariant.other_fd {s : State D κ} (h : Invariant s) {i j : ℕ} {c d : Connection κ}
    {view : Connections.Connection κ} (hc : s.connections[i]? = some c)
    (hcfd : c.openFd = some c.fd) (hij : j ≠ i) (hd : s.connections[j]? = some d)
    (hlisted : d.listed = some view) : view.fd ≠ c.fd := by
  obtain ⟨rfl, hdfd⟩ := listed_eq_some hlisted
  intro hsame
  have hsame : d.fd = c.fd := hsame
  exact hij (h.different j i d c c.fd hd hc (hsame ▸ hdfd) hcfd)

theorem Invariant.accept {s : State D κ} (h : Invariant s) (kind : Kind) {fd : ℤ} {context : κ}
    (hpos : 0 < fd)
    (hfree : ∀ c ∈ s.connections, c.openFd.isSome → c.fd ≠ fd ∧ c.context ≠ context) :
    Invariant { s with connections := s.connections ++ [.accepted kind fd context] } := by
  refine h.of_step (.inr ⟨.accept fd context, ?_, trivial⟩)
    (h.different.accepted (fun c hc hopen ↦ (hfree c hc hopen).1) kind context) ?_
  · have hunused : ∀ view ∈ s.connected.live, view.fd ≠ fd ∧ view.context ≠ context := by
      intro view hview
      obtain ⟨c, hc, hlisted⟩ := List.mem_filterMap.mp hview
      obtain ⟨rfl, hopen⟩ := listed_eq_some hlisted
      exact hfree c hc (hopen ▸ rfl)
    have hlive : (s.connections ++ [Connection.accepted kind fd context]).filterMap
        Connection.listed = s.connected.live ++ [⟨fd, context, false⟩] := List.filterMap_append
    exact (if_pos ⟨hpos, hunused⟩).trans
      (congrArg (fun live ↦ some (Connections.State.mk live s.shared.operators)) hlive.symm)
  · intro c hc
    obtain hc | hc := List.mem_append.mp hc
    · exact h.orderly c hc
    · exact List.mem_singleton.mp hc ▸ Orderly.accepted kind fd context

theorem Invariant.login {s : State D κ} (h : Invariant s) {i : ℕ} {c : Connection κ}
    (hc : s.connections[i]? = some c) {request : Request} (hphase : c.phase = .received request)
    (hlogin : request.isLogin) {phase : Phase} {text : CString}
    (hreply : phase.reply = some (request, text)) (hanswer : AnswerTo D κ request.chunk text)
    {shared : ServerState D κ}
    (hshared : shared.operators = registerOperator c.fd c.context s.shared.operators) :
    Invariant { s with
      shared := shared
      connections := s.connections.set i { c with phase := phase, loggedIn := true } } := by
  have hmem := List.mem_of_getElem? hc
  have hlisted := listed_of_serving (c := c) (by simp [hphase]) (by simp [hphase])
  have hlisted' : ({ c with phase := phase, loggedIn := true } : Connection κ).listed =
      some ⟨c.fd, c.context, true⟩ := (listed_of_reply (hreply ▸ rfl)).1
  have hview : (⟨c.fd, c.context, c.loggedIn⟩ : Connections.Connection κ) ∈ s.connected.live :=
    List.mem_filterMap.mpr ⟨c, hmem, hlisted.1⟩
  have hnew := (h.orderly c hmem).loggedIn_of_received hphase hlogin
  have hstep := Connections.step_login h.registry.toWellFormed hview
  have hlive : (s.connections.set i { c with phase := phase, loggedIn := true }).filterMap
      Connection.listed = s.connected.live.map (Connections.Connection.login · c.fd) := by
    rw [← List.filterMap_eq_map]
    refine Parties.filterMap_set _ hc ?_ fun j other hij hother ↦ ?_
    · rw [hlisted.1, hlisted']
      simp [Connections.Connection.login]
    · cases hview : other.listed with
      | none => rfl
      | some view =>
        have hne := h.other_fd hc hlisted.2 hij hother hview
        simp [Connections.Connection.login, hne]
  refine h.of_step
    (.inr ⟨.login c.fd, hstep.trans (congrArg some ?_), .inr fun operator hoperator hclient ↦ ?_⟩)
    (h.different.set hc fun fd hfd ↦ ?_) ?_
  · exact (congrArg₂ Connections.State.mk hlive hshared).symm
  · have hpos := h.registry.positive _ hview
    obtain ⟨other, hother, hlogged, rfl⟩ :=
      h.registry.refers operator hoperator (by simp only at hpos; omega)
    have hsame := List.inj_on_of_nodup_map h.registry.different hother hview hclient
    rw [hsame, hnew] at hlogged
    cases hlogged
  · have hopen : ({ c with phase := phase, loggedIn := true } : Connection κ).openFd =
        some c.fd := (listed_of_reply (hreply ▸ rfl)).2
    rw [hopen] at hfd
    rw [hlisted.2, ← hfd]
  · intro d hd
    obtain hd | rfl := List.mem_or_eq_of_mem_set hd
    · exact h.orderly d hd
    · exact (h.orderly c hmem).first hphase hreply hanswer (.inr hlogin)

/-- A step of one connection that leaves its descriptor and its login as they are. -/
theorem Invariant.unseen {s : State D κ} (h : Invariant s) {i : ℕ} {c c' : Connection κ}
    (hc : s.connections[i]? = some c) (hlisted : c'.listed = c.listed)
    (hfd : ∀ fd, c'.openFd = some fd → c.openFd = some fd) {shared : ServerState D κ}
    (hshared : shared.operators = s.shared.operators) (mutex : Option ℕ)
    (horderly : Orderly D c') : Invariant ⟨shared, mutex, s.connections.set i c'⟩ := by
  refine h.of_step (.inl ?_) (h.different.set hc hfd) fun d hd ↦ ?_
  · exact congrArg₂ Connections.State.mk (Parties.filterMap_set_same hc hlisted) hshared
  · obtain hd | rfl := List.mem_or_eq_of_mem_set hd
    · exact h.orderly d hd
    · exact horderly

/-- The first call of a request that registers nobody. -/
theorem Invariant.served {s : State D κ} (h : Invariant s) {i : ℕ} {c : Connection κ}
    (hc : s.connections[i]? = some c) {request : Request} (hphase : c.phase = .received request)
    {phase : Phase} {text : CString} (hreply : phase.reply = some (request, text))
    (hanswer : AnswerTo D κ request.chunk text) {shared : ServerState D κ}
    (hshared : shared.operators = s.shared.operators) :
    Invariant { s with
      shared := shared
      connections := s.connections.set i { c with phase := phase } } := by
  have hbefore := listed_of_serving (c := c) (by simp [hphase]) (by simp [hphase])
  have hafter : ({ c with phase := phase } : Connection κ).listed =
      some ⟨c.fd, c.context, c.loggedIn⟩ ∧
        ({ c with phase := phase } : Connection κ).openFd = some c.fd :=
    listed_of_reply (hreply ▸ rfl : phase.reply.isSome)
  refine h.unseen hc (hafter.1.trans hbefore.1.symm) (fun fd hfd ↦ ?_) hshared _
    ((h.orderly c (List.mem_of_getElem? hc)).first hphase hreply hanswer (.inl rfl))
  rw [hbefore.2, ← hafter.2]
  exact hfd

/-- A measurement's calls after the first one. -/
theorem Invariant.continue {s : State D κ} (h : Invariant s) {i : ℕ} {c : Connection κ}
    (hc : s.connections[i]? = some c) {phase : Phase} (hpending : c.phase.reply.isSome)
    (hreply : phase.reply = c.phase.reply) {shared : ServerState D κ}
    (hshared : shared.operators = s.shared.operators) (mutex : Option ℕ) :
    Invariant ⟨shared, mutex, s.connections.set i { c with phase := phase }⟩ := by
  have hbefore := listed_of_reply hpending
  have hafter : ({ c with phase := phase } : Connection κ).listed =
      some ⟨c.fd, c.context, c.loggedIn⟩ ∧
        ({ c with phase := phase } : Connection κ).openFd = some c.fd :=
    listed_of_reply (hreply ▸ hpending : phase.reply.isSome)
  refine h.unseen hc ?_ ?_ hshared mutex ((h.orderly c (List.mem_of_getElem? hc)).continue
    hpending hreply)
  · rw [hbefore.1, hafter.1]
  · rw [hbefore.2, hafter.2]
    exact fun _ ↦ id

theorem Invariant.deliver {s : State D κ} (h : Invariant s) {operator : Operator κ}
    (hmem : operator ∈ s.shared.operators.live) (hpos : 0 < operator.client) (line : CString) :
    Invariant { s with
      connections := s.connections.map (·.deliver operator.client (.alert line)) } := by
  refine h.of_step (.inl ?_) (h.different.deliver _ _) fun d hd ↦ ?_
  · exact congrArg (Connections.State.mk · s.shared.operators)
      (Parties.filterMap_map_same fun c ↦ (openFd_deliver _ _ c).2)
  · obtain ⟨c, hc, rfl⟩ := List.mem_map.mp hd
    exact (h.orderly c hc).deliver operator.client line fun hfd ↦
      h.operator_of_target hmem hpos hc hfd

theorem Invariant.remove {s : State D κ} (h : Invariant s) {i : ℕ} {c : Connection κ}
    (hc : s.connections[i]? = some c) (hphase : c.phase = .leaving) :
    Invariant { s with
      shared := { s.shared with
        operators := OperatorRegistry.removeOperator c.fd s.shared.operators }
      connections := s.connections.set i { c with phase := .removed } } := by
  have hmem := List.mem_of_getElem? hc
  have hlisted := listed_of_serving (c := c) (by simp [hphase]) (by simp [hphase])
  have hview : (⟨c.fd, c.context, c.loggedIn⟩ : Connections.Connection κ) ∈ s.connected.live :=
    List.mem_filterMap.mpr ⟨c, hmem, hlisted.1⟩
  have hlive : (s.connections.set i { c with phase := .removed }).filterMap Connection.listed =
      s.connected.live.filter fun view ↦ view.fd ≠ c.fd := by
    rw [← List.filterMap_eq_filter]
    refine Parties.filterMap_set _ hc ?_ fun j other hij hother ↦ ?_
    · rw [hlisted.1]
      simp [Connection.listed, Option.guard]
    · cases hview : other.listed with
      | none => rfl
      | some view =>
        have hne := h.other_fd hc hlisted.2 hij hother hview
        simp [hne]
  refine h.of_step (.inr ⟨.disconnect c.fd, ?_, trivial⟩) (h.different.set hc fun fd hfd ↦ ?_) ?_
  · have hlive' : ∃ view ∈ s.connected.live, view.fd = c.fd := ⟨_, hview, rfl⟩
    exact (if_pos hlive').trans (congrArg (fun live ↦ some (Connections.State.mk live
      (OperatorRegistry.removeOperator c.fd s.shared.operators))) hlive.symm)
  · rw [hlisted.2]
    exact hfd
  · intro d hd
    obtain hd | rfl := List.mem_or_eq_of_mem_set hd
    · exact h.orderly d hd
    · exact (h.orderly c hmem).atRest rfl rfl

theorem invariant_step (s : State D κ) (event : Event κ) (s' : State D κ) (h : Invariant s)
    (hstep : (clientRuns D κ).step s event = some s') : Invariant s' := by
  cases change_of_step hstep with
  | accept kind fd context hpos hfree => exact h.accept kind hpos hfree
  | own hc hact =>
    obtain ⟨hlisted, hfd⟩ := listed_act hact
    exact h.unseen hc hlisted hfd rfl _ ((h.orderly _ (List.mem_of_getElem? hc)).act hact)
  | first hc hphase hcall =>
    obtain ⟨phase, text, hreply, hanswer, ⟨hshared, rfl⟩ | ⟨hlogin, hshared, rfl⟩⟩ :=
      firstCall_cases hcall
    · exact h.served hc hphase hreply hanswer hshared
    · exact h.login hc hphase hlogin hreply hanswer hshared
  | later mutex hc hpending hreply hshared => exact h.continue hc hpending hreply hshared mutex
  | deliver line hmem hpos hc hpending hreply =>
    exact (h.continue hc hpending hreply rfl s.operatorMutex).deliver hmem hpos line
  | remove hc hphase => exact h.remove hc hphase

omit [DecidableEq κ] in
theorem invariant_init (now : ℤ) : Invariant (init now : State D κ) where
  registry := ⟨⟨by simp [State.connected, init], by simp [State.connected, init]⟩,
    by simp [State.connected, init, serverInit, OperatorRegistry.init],
    by simp [Distinct, State.connected, init, serverInit, OperatorRegistry.init]⟩
  different := by simp [Different, init]
  orderly := by simp [init]

/-! ## Pairing -/

/-- The stream to a sensor holds at most the reply to its last command. -/
structure Paired (D : Type) [CDouble D] (c : Connection κ) : Prop where
  single : c.channel.length ≤ 1
  last : ∀ message ∈ c.channel, ∃ request text, message = .reply request text ∧
    c.sent.getLast? = some request ∧ request.number + 1 = c.sent.length ∧
    AnswerTo D κ request.chunk text

omit [DecidableEq κ] in
theorem Orderly.paired {c : Connection κ} (h : Orderly D c) (hsensor : c.kind = .sensor) :
    Paired D c := by
  have hstep := h.inStep hsensor
  constructor
  · have hsingle := hstep.single
    rw [Connection.outstanding, List.length_append, List.length_append,
      length_filterMap_request hstep.replies] at hsingle
    omega
  · intro message hmem
    obtain ⟨request, text, rfl⟩ := hstep.replies message hmem
    have houtstanding : request ∈ c.outstanding := by
      rw [Connection.outstanding, List.append_assoc]
      exact List.mem_append_left _ (List.mem_filterMap.mpr ⟨_, hmem, rfl⟩)
    obtain ⟨hlast, hnumber⟩ := hstep.latest request houtstanding
    exact ⟨request, text, rfl, hlast, hnumber, h.sent request text hmem⟩

/-- In every run, the stream to a sensor holds at most one message, which is the reply to the
sensor's last command, and what a `recv` of the sensor returns is one such message. -/
theorem paired_of_reachable {now : ℤ} {s : State D κ}
    (hreach : (clientRuns D κ).Reachable (init now) s) {i : ℕ} {c : Connection κ}
    (hc : s.connections[i]? = some c) (hsensor : c.kind = .sensor) :
    Paired D c ∧
      ∀ messages s', (clientRuns D κ).step s (.own i (.receive messages)) = some s' →
        messages = 1 ∧ ∃ request text, c.channel = [.reply request text] ∧
          c.sent.getLast? = some request := by
  have hinvariant := Labelled.inv_of_reachable Invariant invariant_step (invariant_init now) hreach
  have horderly := hinvariant.orderly c (List.mem_of_getElem? hc)
  have hpaired := horderly.paired hsensor
  refine ⟨hpaired, fun messages s' hstep ↦ ?_⟩
  obtain ⟨c', hc', hact⟩ := Option.bind_eq_some_iff.mp hstep
  obtain rfl := Option.some.inj (hc.symm.trans hc')
  obtain ⟨d, hd, -⟩ := Option.map_eq_some_iff.mp hact
  obtain ⟨⟨-, -, hpos, hle⟩, -⟩ := Option.ite_none_right_eq_some.mp hd
  obtain ⟨hone, hlength, -⟩ := (horderly.inStep hsensor).receive hpos hle
  obtain ⟨message, hchannel⟩ := List.length_eq_one_iff.mp hlength
  obtain ⟨request, text, rfl, hlast, -⟩ := hpaired.last message (by simp [hchannel])
  exact ⟨hone, request, text, hchannel, hlast⟩

/-- A LOGIN, answered by a service that accepts everybody. -/
def loginChunk : Chunk := ⟨ascii "LOGIN o p\r\n", by decide, by decide⟩

def loginEnv : Env := ⟨0, fun _ ↦ 0, some fun _ ↦ ascii "ROLE:operator\n"⟩

/-- An operator logs in and disconnects, and a sensor is given its descriptor and registers. -/
def reusedDescriptor : List (Event ℕ) :=
  [.accept .operator 5 0, .own 0 (.send loginChunk), .own 0 .recv, .dispatch 0 loginEnv,
    .own 0 (.sendReply true), .own 0 .hangUp, .own 0 .recvFails, .removeOperator 0, .own 0 .close,
    .accept .sensor 5 1, .own 1 (.send registerChunk), .own 1 .recv, .dispatch 1 sensorEnv,
    .own 1 (.sendReply true)]

/-- The stream to the sensor then holds its reply. -/
theorem paired_of_reachable_reused_descriptor :
    ∃ s c, (clientRuns ℚ ℕ).run (init 0) reusedDescriptor = some s ∧
      s.connections[1]? = some c ∧ c.kind = .sensor ∧ c.channel.length = 1 ∧ Paired ℚ c ∧
      ∀ messages s', (clientRuns ℚ ℕ).step s (.own 1 (.receive messages)) = some s' →
        messages = 1 ∧ ∃ request text, c.channel = [.reply request text] ∧
          c.sent.getLast? = some request := by
  obtain ⟨s, hrun, hs⟩ : ∃ s, (clientRuns ℚ ℕ).run (init 0) reusedDescriptor = some s ∧
      s.connections[1]?.map (fun c ↦ (c.kind, c.channel.length)) = some (.sensor, 1) :=
    Option.map_eq_some_iff.mp (by decide +kernel)
  obtain ⟨c, hc, hview⟩ := Option.map_eq_some_iff.mp hs
  obtain ⟨hkind, hlength⟩ := Prod.mk.inj hview
  exact ⟨s, c, hrun, hc, hkind, hlength, paired_of_reachable ⟨_, hrun⟩ hc hkind⟩

end IotMonitoring.Server.ClientRuns
