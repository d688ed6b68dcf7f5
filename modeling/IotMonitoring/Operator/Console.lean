import IotMonitoring.Operator.Browser
import IotMonitoring.Operator.Link

/-!
# The operator's console

The browser subscribes to the topics when its WebSocket is connected, and the broker passes on what
is published to it, one message at a time and in no particular order. What is published while the
page is not subscribed, or is under way when the WebSocket is lost, does not come again. Apart from
that, every alert and every list of sensors that the server sends to the operator client comes to
the page exactly once.
-/

namespace IotMonitoring.Operator.Console

open Text Machine Server Server.OperatorStream RenderSensors

/-- The connection to the server, whether the page is subscribed, the messages and the answers to
`/api/sensors` that are under way to it, and the page. -/
structure State (ι : Type*) where
  link : Link.State ι
  subscribed : Bool
  inFlight : List ServerConnection.Message
  answers : List (List ParseSensors.SensorData)
  page : Browser.Page

/-- A step of the connection, the page's subscription or its loss, a message or an answer that comes
to the page, a request that is answered, or a click. -/
inductive Event (ι : Type*) where
  | link (event : Link.Event ι)
  | onConnect
  | onDisconnect
  | deliver (k : ℕ) (time : Dashboard.JsString)
  | getSensors
  | answer (k : ℕ)
  | clickTab (target : Browser.Tab)
  | clearAlerts

variable {ι : Type*} [DecidableEq ι]

/-- What a step of the connection publishes. -/
def publishes (s t : Link.State ι) : List ServerConnection.Message :=
  t.service.published.drop s.service.published.length

/-- Server, operator client and browser. -/
def console (self : ι) (charset : Charset) (lower : LowerCase) : Labelled (State ι) (Event ι) where
  step s event :=
    match event with
    | .link event =>
      ((Link.link self charset).step s.link event).map fun link ↦
        { s with
          link := link
          inFlight := s.inFlight ++ if s.subscribed then publishes s.link link else [] }
    | .onConnect => some { s with subscribed := true }
    | .onDisconnect => some { s with subscribed := false, inFlight := [] }
    | .deliver k time =>
      s.inFlight[k]?.map fun body ↦
        { s with
          inFlight := s.inFlight.eraseIdx k
          page := Browser.handle lower s.page (.message time body) }
    | .getSensors => some { s with answers := s.answers ++ [s.link.service.cachedSensors] }
    | .answer k =>
      s.answers[k]?.map fun sensors ↦
        { s with
          answers := s.answers.eraseIdx k
          page := Browser.handle lower s.page (.fetched sensors) }
    | .clickTab target => some { s with page := Browser.handle lower s.page (.clickTab target) }
    | .clearAlerts => some { s with page := Browser.handle lower s.page .clearAlerts }

omit [DecidableEq ι] in
/-- A page that has been loaded and is not subscribed yet. -/
def init (connected : Bool) : State ι :=
  ⟨Link.init, false, [], [], Browser.initialPage connected⟩

/-- What a step begins to send to the operator client. -/
def begun (s : State ι) : Event ι → List Sending
  | .link event => Link.begun s.link event
  | _ => []

/-- What the page handles in a step. -/
def handles (s : State ι) : Event ι → List Browser.Event
  | .deliver k time => (s.inFlight[k]?.map (Browser.Event.message time)).toList
  | .answer k => (s.answers[k]?.map Browser.Event.fetched).toList
  | .clickTab target => [.clickTab target]
  | .clearAlerts => [.clearAlerts]
  | _ => []

/-- What does not come to the page any more after a step. -/
def misses (self : ι) (charset : Charset) (s : State ι) : Event ι → List ServerConnection.Message
  | .link event =>
    match (Link.link self charset).step s.link event with
    | some link => if s.subscribed then [] else publishes s.link link
    | none => []
  | .onDisconnect => s.inFlight
  | _ => []

/-- The server's messages fit, its alerts are sent whole and its replies as they were measured. -/
def Regular (self : ι) (D κ : Type) [CDouble D] (now : ℤ) (s : State ι) : Event ι → Prop
  | .link event => Link.Regular self D κ now s.link event
  | _ => True

/-! ## What becomes of the messages -/

/-- The message that the page handles, if it is one. -/
def body : Browser.Event → Option ServerConnection.Message
  | .message _ message => some message
  | _ => none

/-- The messages that leave the way to the page in a step. -/
def leaves (self : ι) (charset : Charset) (s : State ι) (event : Event ι) :
    List ServerConnection.Message :=
  (handles s event).filterMap body ++ misses self charset s event

variable {self : ι} {charset : Charset} {lower : LowerCase} {s t : State ι}

/-- The step of a message or an answer, or of a click. -/
theorem page_step {event : Event ι} (hstep : (console self charset lower).step s event = some t) :
    t.page = (handles s event).foldl (Browser.handle lower) s.page := by
  cases event with
  | link event =>
    obtain ⟨link, -, rfl⟩ := Option.map_eq_some_iff.mp hstep
    rfl
  | deliver k time =>
    obtain ⟨message, hmessage, rfl⟩ := Option.map_eq_some_iff.mp hstep
    simp [handles, hmessage]
  | answer k =>
    obtain ⟨sensors, hsensors, rfl⟩ := Option.map_eq_some_iff.mp hstep
    simp [handles, hsensors]
  | _ =>
    obtain rfl := Option.some.inj hstep
    rfl

/-- The page belongs to the events that it has handled. -/
theorem page_of_run {connected : Bool} {events : List (Event ι)}
    (hrun : (console self charset lower).run (init connected) events = some t) :
    t.page = Browser.pageOf lower connected
      ((console self charset lower).outputs handles (init connected) events) := by
  refine Labelled.inv_of_outputs (fun history s ↦ s.page = Browser.pageOf lower connected history)
    ?_ (Browser.pageOf_nil lower connected).symm hrun
  intro history s event s' hpage hstep
  have hfold (history events : List Browser.Event) :
      events.foldl (Browser.handle lower) (Browser.pageOf lower connected history) =
        Browser.pageOf lower connected (history ++ events) := by
    induction events generalizing history with
    | nil => rw [List.append_nil]; rfl
    | cons event events ih =>
      rw [List.foldl_cons, Browser.handle_pageOf, ih, ← List.append_cons]
  rw [page_step hstep, hpage, hfold]

/-- What is published comes to the page, is missed by it, or is under way. -/
theorem perm_step {left : List ServerConnection.Message} {event : Event ι}
    (h : (left ++ s.inFlight).Perm s.link.service.published)
    (hstep : (console self charset lower).step s event = some t) :
    (left ++ leaves self charset s event ++ t.inFlight).Perm t.link.service.published := by
  cases event with
  | link event =>
    obtain ⟨link, hlink, rfl⟩ := Option.map_eq_some_iff.mp hstep
    have hpublished : link.service.published =
        s.link.service.published ++ publishes s.link link :=
      (List.prefix_iff_eq_append.mp (Link.published_step hlink)).symm
    simp only [hpublished, leaves, handles, misses, hlink, List.filterMap_nil, List.nil_append]
    cases s.subscribed with
    | true => simpa [← List.append_assoc] using h.append_right _
    | false =>
      have hcomm : (left ++ publishes s.link link ++ s.inFlight).Perm
          (left ++ s.inFlight ++ publishes s.link link) := by
        rw [List.append_assoc, List.append_assoc]
        exact List.perm_append_comm.append_left left
      simpa using hcomm.trans (h.append_right _)
  | onDisconnect =>
    obtain rfl := Option.some.inj hstep
    simpa [leaves, handles, misses] using h
  | deliver k time =>
    obtain ⟨message, hmessage, rfl⟩ := Option.map_eq_some_iff.mp hstep
    have hsplit : (message :: s.inFlight.eraseIdx k).Perm s.inFlight := by
      obtain ⟨hk, rfl⟩ := List.getElem?_eq_some_iff.mp hmessage
      exact List.getElem_cons_eraseIdx_perm hk
    simpa [leaves, handles, misses, hmessage, body] using (hsplit.append_left left).trans h
  | answer k =>
    obtain ⟨sensors, hsensors, rfl⟩ := Option.map_eq_some_iff.mp hstep
    have hleaves : leaves self charset s (.answer k) = [] := by
      rw [leaves, handles, hsensors]
      rfl
    rw [hleaves, List.append_nil]
    exact h
  | _ =>
    obtain rfl := Option.some.inj hstep
    rw [leaves, List.append_assoc]
    exact h

/-- All that has been published is handled by the page, missed by it, or under way. -/
theorem perm_of_run {connected : Bool} {events : List (Event ι)}
    (hrun : (console self charset lower).run (init connected) events = some t) :
    (((console self charset lower).outputs handles (init connected) events).filterMap body ++
      (console self charset lower).outputs (misses self charset) (init connected) events ++
      t.inFlight).Perm t.link.service.published := by
  have hinit : ([] ++ (init connected : State ι).inFlight).Perm
      (init connected : State ι).link.service.published := .nil
  have hleft : ((console self charset lower).outputs (leaves self charset) (init connected)
      events ++ t.inFlight).Perm t.link.service.published :=
    Labelled.inv_of_outputs (fun left s ↦ (left ++ s.inFlight).Perm s.link.service.published)
      (fun _ _ _ _ h hstep ↦ perm_step h hstep) hinit hrun
  have hsplit := (console self charset lower).outputs_append_perm
    (fun s event ↦ (handles s event).filterMap body) (misses self charset) (init connected) events
  rw [← Labelled.outputs_filterMap] at hsplit
  exact (hsplit.symm.append_right t.inFlight).trans hleft

variable {D κ : Type} [CDouble D] {now : ℤ}

theorem follows_of_run {connected : Bool} {events : List (Event ι)}
    (hmeets : (console self charset lower).Meets (Regular self D κ now) (init connected) events)
    (hrun : (console self charset lower).run (init connected) events = some t) :
    Link.Follows D κ now charset
      ((console self charset lower).outputs begun (init connected) events) t.link := by
  refine Labelled.inv_of_meets_outputs
    (fun messages s ↦ Link.Follows D κ now charset messages s.link) ?_ Link.follows_init hmeets hrun
  intro messages s event s' h hregular hstep
  cases event with
  | link event =>
    obtain ⟨link, hlink, rfl⟩ := Option.map_eq_some_iff.mp hstep
    exact h.step hregular hlink
  | deliver k time =>
    obtain ⟨message, -, rfl⟩ := Option.map_eq_some_iff.mp hstep
    simpa only [begun, List.append_nil] using h
  | answer k =>
    obtain ⟨sensors, -, rfl⟩ := Option.map_eq_some_iff.mp hstep
    simpa only [begun, List.append_nil] using h
  | _ =>
    obtain rfl := Option.some.inj hstep
    simpa only [begun, List.append_nil] using h

/-- In every run in which the server's messages fit, its alerts are sent whole and its replies are
not overwritten while they are sent, every alert and every list of sensors that it has begun to send
behind the handshake is, exactly once, handled by the page, missed by it because it was not
connected, under way to it, or still to be read; and the page is the one that belongs to what it has
handled. -/
theorem conserved_of_run {connected : Bool} {events : List (Event ι)}
    (hmeets : (console self charset lower).Meets (Regular self D κ now) (init connected) events)
    (hrun : (console self charset lower).run (init connected) events = some t)
    (hstarted : t.link.service.reader ≠ .notStarted) :
    let handled := (console self charset lower).outputs handles (init connected) events
    let missed := (console self charset lower).outputs (misses self charset) (init connected) events
    t.page = Browser.pageOf lower connected handled ∧
    ∃ first second rest pending,
      (console self charset lower).outputs begun (init connected) events =
        .reply first :: .reply second :: rest ∧ pending <:+ rest ∧
      ((handled.filterMap body ++ missed ++ t.inFlight).filter (· ≠ .lost) ++
        pending.flatMap (Link.topic charset)).Perm (rest.flatMap (Link.topic charset)) := by
  intro handled missed
  obtain ⟨first, second, read, pending, hbegun, htopics, -⟩ :=
    (follows_of_run hmeets hrun).exists_read hstarted
  have hperm := (perm_of_run hrun).filter (· ≠ .lost)
  refine ⟨page_of_run hrun, first, second, read ++ pending, pending, hbegun,
    List.suffix_append read pending, ?_⟩
  rw [List.flatMap_append, ← htopics]
  exact hperm.append_right _

/-- A page that is subscribed before the alert, gets it, and is then disconnected. -/
def shownAlert : List (Event ℕ) :=
  .onConnect :: Link.oneAlert.map .link ++ [.deliver 0 "10:00:00".toList, .onDisconnect]

def isKnown (s : State ℕ) : Event ℕ → Bool
  | .link event => Link.isKnown s.link event
  | _ => true

theorem conserved_of_run_shown_alert :
    let machine := console 0 Charset.usAscii asciiLowerCase
    ∃ t, machine.run (init true) shownAlert = some t ∧ t.page.alertBadge = 1 ∧
      let handled := machine.outputs handles (init true) shownAlert
      let missed := machine.outputs (misses 0 Charset.usAscii) (init true) shownAlert
      t.page = Browser.pageOf asciiLowerCase true handled ∧
      ∃ first second rest pending,
        machine.outputs begun (init true) shownAlert = .reply first :: .reply second :: rest ∧
          pending <:+ rest ∧
        ((handled.filterMap body ++ missed ++ t.inFlight).filter (· ≠ .lost) ++
          pending.flatMap (Link.topic Charset.usAscii)).Perm
            (rest.flatMap (Link.topic Charset.usAscii)) := by
  intro machine
  obtain ⟨t, hrun, ht⟩ : ∃ t, machine.run (init true) shownAlert = some t ∧
      (t.link.service.reader, t.page.alertBadge) = (.checking, 1) :=
    Option.map_eq_some_iff.mp (by decide +kernel)
  obtain ⟨hreader, hbadge⟩ := Prod.mk.inj ht
  have hknown : machine.Meets (fun s event ↦ isKnown s event = true) (init true) shownAlert := by
    decide +kernel
  have hmeets : machine.Meets (Regular 0 ℚ ℕ 0) (init true) shownAlert := by
    refine hknown.imp fun s event h ↦ ?_
    cases event with
    | link event => exact Link.regular_of_isKnown s.link event h
    | _ => exact trivial
  exact ⟨t, hrun, hbadge, conserved_of_run hmeets hrun (by rw [hreader]; nofun)⟩

end IotMonitoring.Operator.Console
