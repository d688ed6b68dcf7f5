import IotMonitoring.Server.HandleClient
import Mathlib.Data.List.Nodup

/-!
# Connections and the operator registry

Connections are accepted, log in, send other commands and disconnect; the descriptor and the
context of a closed connection may be used again by a later one. A successful LOGIN appends to the
registry whatever it holds, and a disconnect blanks one entry only. The registry stays sound along
exactly those runs in which no connection that is already listed logs in again while there is
room, and a login takes effect exactly while the fill count has not reached its limit.
-/

namespace IotMonitoring.Server.Connections

open Machine OperatorRegistry

variable {κ : Type*}

/-- A live connection: its descriptor, its context and whether a LOGIN has succeeded on it. -/
structure Connection (κ : Type*) where
  fd : ℤ
  context : κ
  loggedIn : Bool
deriving DecidableEq

structure State (κ : Type*) where
  live : List (Connection κ)
  registry : Registry κ

inductive Event (κ : Type*) where
  | accept (fd : ℤ) (context : κ)
  | login (fd : ℤ)
  | other (fd : ℤ)
  | disconnect (fd : ℤ)
deriving DecidableEq

/-- No connection yet. -/
def init : State κ := ⟨[], OperatorRegistry.init⟩

def Connection.login (connection : Connection κ) (fd : ℤ) : Connection κ :=
  if connection.fd = fd then { connection with loggedIn := true } else connection

/-- The events as steps. `accept` returns a positive descriptor that no live connection has, since
the log file and the listening socket hold lower ones, and `malloc` returns a context that is not
in use. A disconnect removes the operator, closes the descriptor and frees the context. -/
def connections (κ : Type*) [DecidableEq κ] : Labelled (State κ) (Event κ) where
  step s event :=
    match event with
    | .accept fd context =>
      if 0 < fd ∧ ∀ c ∈ s.live, c.fd ≠ fd ∧ c.context ≠ context then
        some { s with live := s.live ++ [⟨fd, context, false⟩] }
      else none
    | .login fd =>
      (s.live.find? fun c ↦ c.fd = fd).map fun c ↦
        { live := s.live.map fun other ↦ other.login fd
          registry := registerOperator c.fd c.context s.registry }
    | .other fd => if ∃ c ∈ s.live, c.fd = fd then some s else none
    | .disconnect fd =>
      if ∃ c ∈ s.live, c.fd = fd then
        some
          { live := s.live.filter fun c ↦ c.fd ≠ fd
            registry := removeOperator fd s.registry }
      else none

variable [DecidableEq κ]

theorem connections_step_cases {s s' : State κ} {event : Event κ}
    (hstep : (connections κ).step s event = some s') :
    (∃ fd context, event = .accept fd context ∧ 0 < fd ∧
      (∀ c ∈ s.live, c.fd ≠ fd ∧ c.context ≠ context) ∧
        s' = { s with live := s.live ++ [⟨fd, context, false⟩] }) ∨
    (∃ c ∈ s.live, event = .login c.fd ∧
      s' = { live := s.live.map fun other ↦ other.login c.fd
             registry := registerOperator c.fd c.context s.registry }) ∨
    (∃ fd, event = .other fd ∧ s' = s) ∨
    (∃ c ∈ s.live, event = .disconnect c.fd ∧
      s' = { live := s.live.filter fun other ↦ other.fd ≠ c.fd
             registry := removeOperator c.fd s.registry }) := by
  cases event with
  | accept fd context =>
    obtain ⟨⟨hpos, hfree⟩, heq⟩ := Option.ite_none_right_eq_some.mp hstep
    exact .inl ⟨fd, context, rfl, hpos, hfree, (Option.some.inj heq).symm⟩
  | login fd =>
    obtain ⟨c, hfind, rfl⟩ := Option.map_eq_some_iff.mp hstep
    have hfd : c.fd = fd := by simpa using List.find?_some hfind
    exact .inr (.inl ⟨c, List.mem_of_find?_eq_some hfind, by rw [hfd], by rw [hfd]⟩)
  | other fd =>
    obtain ⟨-, heq⟩ := Option.ite_none_right_eq_some.mp hstep
    exact .inr (.inr (.inl ⟨fd, rfl, (Option.some.inj heq).symm⟩))
  | disconnect fd =>
    obtain ⟨⟨c, hc, rfl⟩, heq⟩ := Option.ite_none_right_eq_some.mp hstep
    exact .inr (.inr (.inr ⟨c, hc, rfl, (Option.some.inj heq).symm⟩))

omit [DecidableEq κ] in
@[simp]
theorem Connection.fd_login (c : Connection κ) (fd : ℤ) : (c.login fd).fd = c.fd := by
  rw [login]
  split <;> rfl

omit [DecidableEq κ] in
@[simp]
theorem Connection.context_login (c : Connection κ) (fd : ℤ) :
    (c.login fd).context = c.context := by
  rw [login]
  split <;> rfl

omit [DecidableEq κ] in
theorem Connection.loggedIn_login {c : Connection κ} {fd : ℤ} :
    (c.login fd).loggedIn ↔ c.loggedIn ∨ c.fd = fd := by
  rw [login]
  split <;> simp [*]

/-- Live connections have positive descriptors, all different. -/
structure WellFormed (s : State κ) : Prop where
  positive : ∀ c ∈ s.live, 0 < c.fd
  different : (s.live.map Connection.fd).Nodup

theorem wellFormed_step (s : State κ) (event : Event κ) (s' : State κ) (h : WellFormed s)
    (hstep : (connections κ).step s event = some s') : WellFormed s' := by
  obtain ⟨fd, context, -, hpos, hfree, rfl⟩ | ⟨c, -, -, rfl⟩ | ⟨fd, -, rfl⟩ | ⟨c, -, -, rfl⟩ :=
    connections_step_cases hstep
  · constructor
    · intro c hc
      obtain hc | hc := List.mem_append.mp hc
      · exact h.positive c hc
      · exact List.mem_singleton.mp hc ▸ hpos
    · rw [List.map_append, List.nodup_append]
      refine ⟨h.different, List.nodup_singleton fd, fun fd' hfd' fd'' hfd'' ↦ ?_⟩
      obtain ⟨c, hc, rfl⟩ := List.mem_map.mp hfd'
      exact List.mem_singleton.mp hfd'' ▸ (hfree c hc).1
  · constructor
    · intro c' hc'
      obtain ⟨c'', hc'', rfl⟩ := List.mem_map.mp hc'
      simpa using h.positive c'' hc''
    · simpa [Function.comp_def] using h.different
  · exact h
  · exact ⟨fun c' hc' ↦ h.positive c' (List.mem_of_mem_filter hc'),
      h.different.sublist (List.filter_sublist.map _)⟩

omit [DecidableEq κ] in
theorem wellFormed_init : WellFormed (init : State κ) := ⟨by simp [init], by simp [init]⟩

theorem wellFormed_of_reachable {s : State κ} (h : (connections κ).Reachable init s) :
    WellFormed s :=
  Labelled.inv_of_reachable WellFormed wellFormed_step wellFormed_init h

/-! ## Soundness -/

/-- The registry refers to live connections that have logged in, to each at most once, and an
alert is sent under live mutexes, at most once, to logged-in connections only. -/
structure Sound (s : State κ) : Prop where
  refers : ∀ operator ∈ s.registry.live, operator.client ≠ -1 →
    ∃ c ∈ s.live, c.loggedIn ∧ operator = ⟨c.fd, some c.context⟩
  distinct : Distinct s.registry
  sends : ∀ target ∈ broadcastTargets s.registry,
    ∃ c ∈ s.live, c.loggedIn ∧ target = (c.fd, c.context)
  once : ((broadcastTargets s.registry).map Prod.fst).Nodup

/-- A LOGIN comes from a connection that is not listed yet, or finds the registry full. -/
def FreshLogin (s : State κ) : Event κ → Prop
  | .login fd =>
    s.registry.count = maxOperators ∨ ∀ operator ∈ s.registry.live, operator.client ≠ fd
  | _ => True

/-- What fresh logins keep. -/
structure Invariant (s : State κ) : Prop extends WellFormed s where
  refers : ∀ operator ∈ s.registry.live, operator.client ≠ -1 →
    ∃ c ∈ s.live, c.loggedIn ∧ operator = ⟨c.fd, some c.context⟩
  distinct : Distinct s.registry

omit [DecidableEq κ] in
theorem Invariant.sound (s : State κ) (h : Invariant s) : Sound s where
  refers := h.refers
  distinct := h.distinct
  sends target htarget := by
    obtain ⟨hpos, hmem⟩ := mem_broadcastTargets.mp htarget
    obtain ⟨c, hc, hlogged, heq⟩ := h.refers _ hmem (by simp only; omega)
    simp only [Operator.mk.injEq, Option.some.injEq] at heq
    exact ⟨c, hc, hlogged, Prod.ext heq.1 heq.2⟩
  once := nodup_broadcastTargets h.distinct

omit [DecidableEq κ] in
/-- A fresh login adds one entry for its connection, or none. -/
theorem Invariant.login {s : State κ} {c : Connection κ} (h : Invariant s) (hc : c ∈ s.live)
    (hfresh : FreshLogin s (.login c.fd)) :
    (∀ operator ∈ (registerOperator c.fd c.context s.registry).live, operator.client ≠ -1 →
      ∃ c' ∈ s.live.map (Connection.login · c.fd), c'.loggedIn ∧
        operator = ⟨c'.fd, some c'.context⟩) ∧
    Distinct (registerOperator c.fd c.context s.registry) := by
  have hkept : ∀ operator ∈ s.registry.live, operator.client ≠ -1 →
      ∃ c' ∈ s.live.map (Connection.login · c.fd), c'.loggedIn ∧
        operator = ⟨c'.fd, some c'.context⟩ := by
    intro operator hmem hne
    obtain ⟨c', hc', hlogged, rfl⟩ := h.refers operator hmem hne
    exact ⟨_, List.mem_map_of_mem hc', Connection.loggedIn_login.mpr (.inl hlogged), by simp⟩
  have hlive := live_registerOperator c.fd c.context s.registry
  by_cases hroom : s.registry.count < maxOperators
  · rw [if_pos hroom] at hlive
    constructor
    · intro operator hmem hne
      simp only [hlive, List.mem_append, List.mem_singleton] at hmem
      obtain hmem | rfl := hmem
      · exact hkept operator hmem hne
      · exact ⟨_, List.mem_map_of_mem hc, Connection.loggedIn_login.mpr (.inr rfl), by simp⟩
    · have hnew : ∀ operator ∈ s.registry.live, operator.client ≠ c.fd :=
        hfresh.resolve_left hroom.ne
      simp only [Distinct, hlive, List.pairwise_append]
      refine ⟨h.distinct, List.pairwise_singleton _ _, fun operator hmem other hother hsame ↦ ?_⟩
      rw [List.mem_singleton.mp hother] at hsame
      exact absurd hsame (hnew operator hmem)
  · rw [if_neg hroom] at hlive
    constructor
    · exact fun operator hmem ↦ hkept operator (hlive ▸ hmem)
    · simpa only [Distinct, hlive] using h.distinct

omit [DecidableEq κ] in
/-- A disconnect blanks the one entry of its connection. -/
theorem Invariant.disconnect {s : State κ} {c : Connection κ} (h : Invariant s) (hc : c ∈ s.live) :
    (∀ operator ∈ (removeOperator c.fd s.registry).live, operator.client ≠ -1 →
      ∃ c' ∈ s.live.filter (fun other ↦ other.fd ≠ c.fd), c'.loggedIn ∧
        operator = ⟨c'.fd, some c'.context⟩) ∧
    Distinct (removeOperator c.fd s.registry) := by
  have hfd : c.fd ≠ -1 := by
    have hpos := h.positive c hc
    omega
  have hlive := live_removeOperator h.distinct hfd
  constructor
  · intro operator hmem hne
    simp only [hlive, List.mem_map] at hmem
    obtain ⟨before, hbefore, rfl⟩ := hmem
    split at hne
    · exact absurd rfl hne
    · rename_i hother
      obtain ⟨c', hc', hlogged, rfl⟩ := h.refers before hbefore hne
      exact ⟨c', List.mem_filter.mpr ⟨hc', by simpa using hother⟩, hlogged, by simp [hother]⟩
  · simp only [Distinct, hlive, List.pairwise_map]
    refine h.distinct.imp fun {first second} hsame ↦ ?_
    split
    · exact fun _ ↦ rfl
    · split
      · exact fun heq ↦ heq
      · exact hsame

theorem invariant_step (s : State κ) (event : Event κ) (s' : State κ) (h : Invariant s)
    (hfresh : FreshLogin s event) (hstep : (connections κ).step s event = some s') :
    Invariant s' := by
  have hwell := wellFormed_step s event s' h.toWellFormed hstep
  obtain ⟨fd, context, -, hpos, hfree, rfl⟩ | ⟨c, hc, rfl, rfl⟩ | ⟨fd, -, rfl⟩ |
    ⟨c, hc, -, rfl⟩ := connections_step_cases hstep
  · refine ⟨hwell, fun operator hmem hne ↦ ?_, h.distinct⟩
    obtain ⟨c, hc, hrest⟩ := h.refers operator hmem hne
    exact ⟨c, List.mem_append_left _ hc, hrest⟩
  · obtain ⟨hrefers, hdistinct⟩ := h.login hc hfresh
    exact ⟨hwell, hrefers, hdistinct⟩
  · exact h
  · obtain ⟨hrefers, hdistinct⟩ := h.disconnect hc
    exact ⟨hwell, hrefers, hdistinct⟩

/-- A login that is not fresh leaves two entries for one descriptor. -/
theorem freshLogin_of_sound (s : State κ) (event : Event κ) (s' : State κ) (h : Invariant s)
    (hstep : (connections κ).step s event = some s') (hsound : Sound s') :
    FreshLogin s event := by
  obtain ⟨fd, context, rfl, -⟩ | ⟨c, hc, rfl, rfl⟩ | ⟨fd, rfl, -⟩ | ⟨c, hc, rfl, -⟩ :=
    connections_step_cases hstep
  · trivial
  · by_contra hstale
    simp only [FreshLogin, not_or, not_forall, not_not] at hstale
    obtain ⟨hcount, operator, hmem, hclient⟩ := hstale
    have hroom : s.registry.count < maxOperators := lt_of_le_of_ne s.registry.count_le hcount
    have hdistinct := hsound.distinct
    simp only [Distinct, live_registerOperator, if_pos hroom, List.pairwise_append] at hdistinct
    have hblank := hdistinct.2.2 operator hmem _ (List.mem_singleton_self _) hclient
    have hpos := h.positive c hc
    omega
  · trivial
  · trivial

/-- A run keeps the registry sound in every state exactly when every LOGIN in it is fresh. -/
theorem always_sound_iff_freshLogin (events : List (Event κ)) :
    (connections κ).Always Sound init events ↔
      (connections κ).Meets FreshLogin init events := by
  have hinit : Invariant (init : State κ) :=
    ⟨wellFormed_init, by simp [init, OperatorRegistry.init],
      by simp [Distinct, init, OperatorRegistry.init]⟩
  exact Labelled.always_iff_meets Invariant.sound invariant_step freshLogin_of_sound hinit events

/-- After two LOGINs and a disconnect, the next client on the descriptor is sent the alerts without
having logged in, under the mutex of the freed context. -/
theorem not_sound_of_second_login :
    ∃ t, (connections ℕ).run init
        [.accept 5 0, .login 5, .login 5, .disconnect 5, .accept 5 1] = some t ∧
      t.live = [⟨5, 1, false⟩] ∧ broadcastTargets t.registry = [(5, 0)] ∧
      ¬ (connections ℕ).Always Sound init
        [.accept 5 0, .login 5, .login 5, .disconnect 5, .accept 5 1] := by
  obtain ⟨t, hrun, ht⟩ : ∃ t, (connections ℕ).run init
      [.accept 5 0, .login 5, .login 5, .disconnect 5, .accept 5 1] = some t ∧
        (t.live, broadcastTargets t.registry) = ([⟨5, 1, false⟩], [(5, 0)]) :=
    Option.map_eq_some_iff.mp (by decide +kernel)
  obtain ⟨hlive, htargets⟩ := Prod.mk.inj ht
  refine ⟨t, hrun, hlive, htargets, fun halways ↦ ?_⟩
  obtain ⟨c, hc, hlogged, -⟩ := (halways.of_run hrun).sends (5, 0) (by simp [htargets])
  rw [hlive, List.mem_singleton] at hc
  exact absurd hlogged (by simp [hc])

/-! ## Delivery -/

/-- The registry holds the connection's own descriptor and mutex. -/
def Listed (s : State κ) (c : Connection κ) : Prop := ⟨c.fd, some c.context⟩ ∈ s.registry.live

/-- What the answer `OK ROLE_...` stands for: the connection is listed, and until it disconnects
every broadcast is sent to it. -/
def Served (s : State κ) (c : Connection κ) : Prop :=
  ∀ s', (connections κ).step s (.login c.fd) = some s' →
    Listed s' c ∧ ∀ later t,
      (connections κ).Meets (fun _ event ↦ event ≠ .disconnect c.fd) s' later →
      (connections κ).run s' later = some t → (c.fd, c.context) ∈ broadcastTargets t.registry

theorem step_login {s : State κ} {c : Connection κ} (h : WellFormed s) (hc : c ∈ s.live) :
    (connections κ).step s (.login c.fd) = some
      { live := s.live.map fun other ↦ other.login c.fd
        registry := registerOperator c.fd c.context s.registry } := by
  have hfind : s.live.find? (fun other ↦ decide (other.fd = c.fd)) = some c := by
    cases hfound : s.live.find? (fun other ↦ decide (other.fd = c.fd)) with
    | none => simpa using List.find?_eq_none.mp hfound c hc
    | some other =>
      have hfd : other.fd = c.fd := by simpa using List.find?_some hfound
      have hmem := List.mem_of_find?_eq_some hfound
      rw [List.inj_on_of_nodup_map h.different hmem hc hfd]
  simp only [connections, hfind, Option.map_some]

/-- A listed connection stays listed until it disconnects. -/
theorem listed_step {c : Connection κ} (s : State κ) (event : Event κ) (s' : State κ)
    (h : Listed s c) (hevent : event ≠ .disconnect c.fd)
    (hstep : (connections κ).step s event = some s') : Listed s' c := by
  obtain ⟨fd, context, -, -, -, rfl⟩ | ⟨c', -, -, rfl⟩ | ⟨fd, -, rfl⟩ | ⟨c', -, rfl, rfl⟩ :=
    connections_step_cases hstep
  · exact h
  · simp only [Listed, live_registerOperator]
    split
    · exact List.mem_append_left _ h
    · exact h
  · exact h
  · exact mem_removeOperator h fun hfd ↦ hevent (congrArg Event.disconnect hfd.symm)

/-- A LOGIN takes effect exactly when the fill count is below its limit or the connection is
listed already, however many of the live connections have logged in. -/
theorem served_iff_room {s : State κ} {c : Connection κ}
    (hreach : (connections κ).Reachable init s) (hc : c ∈ s.live) :
    Served s c ↔ s.registry.count < maxOperators ∨ Listed s c := by
  have hwell := wellFormed_of_reachable hreach
  have hstep := step_login hwell hc
  constructor
  · intro hserved
    by_contra! hout
    have hlisted := (hserved _ hstep).1
    simp only [Listed, live_registerOperator, if_neg (not_lt.mpr hout.1)] at hlisted
    exact hout.2 hlisted
  · intro hroom s' hs'
    obtain rfl := Option.some.inj (hstep.symm.trans hs')
    have hlisted : Listed { live := s.live.map fun other ↦ other.login c.fd
                            registry := registerOperator c.fd c.context s.registry } c := by
      simp only [Listed, live_registerOperator]
      split
      · exact List.mem_append_right _ (List.mem_singleton_self _)
      · exact hroom.resolve_left (by assumption)
    refine ⟨hlisted, fun later t hmeets hrun ↦ mem_broadcastTargets.mpr ⟨hwell.positive c hc, ?_⟩⟩
    exact Labelled.inv_of_run (Listed · c) listed_step hlisted hmeets hrun

/-! ## The handler's iterations -/

/-- What an iteration of a connection's handler is among the events. -/
def eventOf (fd : ℤ) (env : HandleClient.Env) (chunk : Protocol.Chunk) : Event κ :=
  match HandleClient.grantedRole env chunk with
  | some _ => .login fd
  | none => .other fd

/-- An iteration of a live connection's handler is a step, with the same registry afterwards. -/
theorem step_eventOf {D κ : Type} [CDouble D] [DecidableEq κ] {s : State κ} {c : Connection κ}
    (h : WellFormed s) (hc : c ∈ s.live) (env : HandleClient.Env) (chunk : Protocol.Chunk)
    {server : HandleClient.ServerState D κ} (hregistry : server.operators = s.registry) :
    ∃ s', (connections κ).step s (eventOf c.fd env chunk) = some s' ∧
      s'.registry = (HandleClient.respond env ⟨c.fd, c.context⟩ chunk server).state.operators := by
  unfold eventOf
  cases hrole : HandleClient.grantedRole env chunk with
  | some role =>
    refine ⟨_, step_login h hc, ?_⟩
    rw [HandleClient.respond_of_granted hrole, hregistry]
  | none =>
    have hlive : ∃ c' ∈ s.live, c'.fd = c.fd := ⟨c, hc, rfl⟩
    refine ⟨s, if_pos hlive, ?_⟩
    rw [HandleClient.operators_respond_of_not_granted hrole, hregistry]

/-- Three clients, of which one has logged in twice and another has left; a fourth has its
descriptor. -/
def fourClients : List (Event ℕ) :=
  [.accept 5 0, .login 5, .accept 6 1, .login 6, .login 5, .accept 7 2, .disconnect 6, .accept 6 3]

theorem served_iff_room_four_clients :
    ∃ s, (connections ℕ).run init fourClients = some s ∧
      s.live = [⟨5, 0, true⟩, ⟨7, 2, false⟩, ⟨6, 3, false⟩] ∧ s.registry.count = 3 ∧
      (Served s ⟨6, 3, false⟩ ↔ s.registry.count < maxOperators ∨ Listed s ⟨6, 3, false⟩) := by
  obtain ⟨s, hrun, hs⟩ : ∃ s, (connections ℕ).run init fourClients = some s ∧
      (s.live, s.registry.count) = ([⟨5, 0, true⟩, ⟨7, 2, false⟩, ⟨6, 3, false⟩], 3) :=
    Option.map_eq_some_iff.mp (by decide +kernel)
  obtain ⟨hlive, hcount⟩ := Prod.mk.inj hs
  exact ⟨s, hrun, hlive, hcount, served_iff_room ⟨_, hrun⟩ (by rw [hlive]; decide)⟩

/-- One hundred clients that log in and leave, and one more that connects. -/
def oneHundredVisits : List (Event ℕ) :=
  (List.replicate 100 [Event.accept 5 0, .login 5, .disconnect 5]).flatten ++ [.accept 5 0]

/-- After one hundred logins, all of them over, the LOGIN of the only client is without effect. -/
theorem not_served_after_one_hundred_logins :
    ∃ s, (connections ℕ).run init oneHundredVisits = some s ∧ s.live = [⟨5, 0, false⟩] ∧
      (s.live.filter Connection.loggedIn).length < 100 ∧ ¬ Served s ⟨5, 0, false⟩ := by
  obtain ⟨s, hrun, hs⟩ : ∃ s, (connections ℕ).run init oneHundredVisits = some s ∧
      (s.live, ((connections ℕ).step s (.login 5)).map fun s' ↦ s'.registry.live) =
        ([⟨5, 0, false⟩], some (List.replicate 100 Operator.removed)) :=
    Option.map_eq_some_iff.mp (by decide +kernel)
  obtain ⟨hlive, hlogin⟩ := Prod.mk.inj hs
  obtain ⟨s', hstep, hregistry⟩ := Option.map_eq_some_iff.mp hlogin
  refine ⟨s, hrun, hlive, by rw [hlive]; decide, fun hserved ↦ ?_⟩
  have hlisted := (hserved s' hstep).1
  rw [Listed, hregistry] at hlisted
  exact absurd (List.eq_of_mem_replicate hlisted) (by decide)

end IotMonitoring.Server.Connections
