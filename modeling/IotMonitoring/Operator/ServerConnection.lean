import IotMonitoring.Operator.ParseSensors

/-!
# The connection of the operator client

`ServerConnectionService` starts a reader thread once the handshake has succeeded. The thread ends
when `running` is false, when the stream ends, or when a read fails; only the last of these is
announced on `/topic/connection`, and none of them writes `running` or closes the socket. So as
long as nobody has called `disconnect`, the service goes on to report that it is connected.
-/

namespace IotMonitoring.Operator.ServerConnection

open Machine ParseSensors

/-- Where the reader thread stands: before the test of `running`, inside `readLine`, or in the
`catch` block. -/
inductive Reader where
  | notStarted
  | checking
  | reading
  | catching
  | ended
deriving DecidableEq

/-- What is published, by topic: `/topic/sensors`, `/topic/alerts`, and `LOST` on
`/topic/connection`. -/
inductive Message where
  | sensors (cachedSensors : List SensorData)
  | alert (line : JavaString)
  | lost
deriving DecidableEq

/-- A socket that has been connected; `isConnected` stays true for it. -/
structure Socket where
  isClosed : Bool
deriving DecidableEq

/-- The fields of the service. A null `socket` or `out` is `none`; for `out` the lines printed by
`pollSensors` are kept. -/
structure State where
  running : Bool
  reader : Reader
  socket : Option Socket
  out : Option (List JavaString)
  cachedSensors : List SensorData
  published : List Message
  disconnectCalled : Bool

/-- How `connect` ends: no socket, a handshake that fails, or a reader thread. -/
inductive Connect where
  | refused
  | rejected
  | accepted

/-- The steps of the reader thread and of the callers of the service. `disconnect` first writes
`running` and then closes the socket. -/
inductive Event where
  | connect (outcome : Connect)
  | checkRunning
  | line (text : JavaString)
  | endOfStream
  | readFails
  | handleFailure
  | pollSensors
  | disconnect
  | closeSocket

/-- The body of the reader's loop. -/
def handleLine (line : JavaString) (s : State) : State :=
  if "SENSORS".toList.isPrefixOf line then
    { s with
      cachedSensors := parseSensors line
      published := s.published ++ [.sensors (parseSensors line)] }
  else if "ALERTA".toList.isPrefixOf line then
    { s with published := s.published ++ [.alert line] }
  else s

/-- `isConnected`. -/
def isConnected (s : State) : Bool :=
  s.running &&
    match s.socket with
    | some socket => !socket.isClosed
    | none => false

/-- The service as a machine. -/
def service : Labelled State Event where
  step s event :=
    match event with
    | .connect outcome =>
      if s.socket ≠ none then none
      else
        match outcome with
        | .refused => some s
        | .rejected => some { s with socket := some ⟨false⟩, out := some [] }
        | .accepted =>
          some { s with
            socket := some ⟨false⟩
            out := some []
            running := true
            reader := .checking }
    | .checkRunning =>
      if s.reader = .checking then
        some { s with reader := if s.running then .reading else .ended }
      else none
    | .line text =>
      if s.reader = .reading then some { handleLine text s with reader := .checking } else none
    | .endOfStream =>
      if s.reader = .reading then some { s with reader := .ended } else none
    | .readFails =>
      if s.reader = .reading then some { s with reader := .catching } else none
    | .handleFailure =>
      if s.reader = .catching then
        some { s with
          published := if s.running then s.published ++ [.lost] else s.published
          reader := .ended }
      else none
    | .pollSensors =>
      some (if s.running then { s with out := s.out.map (· ++ ["GET_SENSORS\r\n".toList]) } else s)
    | .disconnect => some { s with running := false, disconnectCalled := true }
    | .closeSocket =>
      if s.disconnectCalled then some { s with socket := s.socket.map fun _ ↦ ⟨true⟩ } else none

/-- The service before `connect`. -/
def init : State := ⟨false, .notStarted, none, none, [], [], false⟩

/-- A reader that has ended without `disconnect` is announced and seen. -/
def LossNoticed (s : State) : Prop :=
  s.reader = .ended → s.disconnectCalled = false →
    .lost ∈ s.published ∧ isConnected s = false

/-- The reader ends only after `disconnect` has been called. -/
def EndsAfterDisconnect (s : State) : Event → Prop
  | .endOfStream | .handleFailure => s.disconnectCalled = true
  | _ => True

/-- As long as `disconnect` has not been called, the service runs on an open socket; that lasts
when the reader ends only after it. -/
structure Serving (s : State) : Prop where
  connected : s.disconnectCalled = false → s.reader ≠ .notStarted →
    s.running = true ∧ s.socket = some ⟨false⟩
  ended : s.reader = .ended → s.disconnectCalled = true

theorem handleLine_frame (line : JavaString) (s : State) :
    handleLine line s =
      { s with
        cachedSensors := (handleLine line s).cachedSensors
        published := (handleLine line s).published } := by
  unfold handleLine
  split
  · rfl
  · split <;> rfl

theorem Serving.lossNoticed {s : State} (h : Serving s) : LossNoticed s := by
  intro hended hcalled
  rw [h.ended hended] at hcalled
  cases hcalled

theorem serving_init : Serving init := ⟨fun _ h ↦ absurd rfl h, nofun⟩

/-- Until `disconnect` is called, the service reports to be connected. -/
theorem Serving.isConnected {s : State} (h : Serving s) (hcalled : s.disconnectCalled = false)
    (hstarted : s.reader ≠ .notStarted) : isConnected s = true := by
  obtain ⟨hrunning, hsocket⟩ := h.connected hcalled hstarted
  rw [ServerConnection.isConnected, hrunning, hsocket]
  rfl

/-- A step of the reader leaves `running` and the socket alone. -/
theorem Serving.readerStep {s t : State} (h : Serving s) (hstarted : s.reader ≠ .notStarted)
    (hrunning : t.running = s.running) (hsocket : t.socket = s.socket)
    (hcalled : t.disconnectCalled = s.disconnectCalled)
    (hended : t.reader = .ended → s.disconnectCalled = true) : Serving t := by
  constructor
  · intro hnot _
    rw [hrunning, hsocket]
    exact h.connected (hcalled ▸ hnot) hstarted
  · intro hend
    rw [hcalled]
    exact hended hend

theorem Serving.step {s t : State} {event : Event} (h : Serving s)
    (hguard : EndsAfterDisconnect s event) (hstep : service.step s event = some t) :
    Serving t := by
  cases event with
  | connect outcome =>
    obtain ⟨hsocket, hstep⟩ := Option.ite_none_left_eq_some.mp hstep
    rw [not_not] at hsocket
    cases outcome with
    | refused =>
      obtain rfl := Option.some.inj hstep
      exact h
    | rejected =>
      obtain rfl := Option.some.inj hstep
      refine ⟨fun hcalled hstarted ↦ ?_, h.ended⟩
      rw [(h.connected hcalled hstarted).2] at hsocket
      cases hsocket
    | accepted =>
      obtain rfl := Option.some.inj hstep
      exact ⟨fun _ _ ↦ ⟨rfl, rfl⟩, nofun⟩
  | checkRunning =>
    obtain ⟨hchecking, rfl⟩ := Option.ite_some_none_eq_some.mp hstep
    have hstarted : s.reader ≠ .notStarted := by rw [hchecking]; nofun
    refine h.readerStep hstarted rfl rfl rfl fun hended ↦ ?_
    by_contra hcalled
    rw [Bool.not_eq_true] at hcalled
    simp [(h.connected hcalled hstarted).1] at hended
  | line text =>
    obtain ⟨hreading, rfl⟩ := Option.ite_some_none_eq_some.mp hstep
    rw [handleLine_frame]
    exact h.readerStep (by rw [hreading]; nofun) rfl rfl rfl nofun
  | endOfStream =>
    obtain ⟨hreading, rfl⟩ := Option.ite_some_none_eq_some.mp hstep
    exact h.readerStep (by rw [hreading]; nofun) rfl rfl rfl fun _ ↦ hguard
  | readFails =>
    obtain ⟨hreading, rfl⟩ := Option.ite_some_none_eq_some.mp hstep
    exact h.readerStep (by rw [hreading]; nofun) rfl rfl rfl nofun
  | handleFailure =>
    obtain ⟨hcatching, rfl⟩ := Option.ite_some_none_eq_some.mp hstep
    exact h.readerStep (by rw [hcatching]; nofun) rfl rfl rfl fun _ ↦ hguard
  | pollSensors =>
    obtain rfl := Option.some.inj hstep
    split
    · exact ⟨h.connected, h.ended⟩
    · exact h
  | disconnect =>
    obtain rfl := Option.some.inj hstep
    exact ⟨nofun, fun _ ↦ rfl⟩
  | closeSocket =>
    obtain ⟨hclose, rfl⟩ := Option.ite_some_none_eq_some.mp hstep
    exact ⟨fun hcalled ↦ absurd (hclose.symm.trans hcalled) nofun, h.ended⟩

/-- A reader that has ended on an open socket is noticed only after `disconnect`. -/
theorem Serving.disconnectCalled {s t : State} (h : Serving s) (hnoticed : LossNoticed t)
    (hstarted : s.reader ≠ .notStarted)
    (hsame : ServerConnection.isConnected t = ServerConnection.isConnected s)
    (hended : t.reader = .ended) (hcalled : t.disconnectCalled = s.disconnectCalled) :
    s.disconnectCalled = true := by
  by_contra hnot
  rw [Bool.not_eq_true] at hnot
  have hlost := (hnoticed hended (hcalled.trans hnot)).2
  rw [hsame, h.isConnected hnot hstarted] at hlost
  cases hlost

/-- After a step that ends the reader too early the loss is not noticed. -/
theorem Serving.endsAfterDisconnect {s t : State} {event : Event} (h : Serving s)
    (hstep : service.step s event = some t) (hnoticed : LossNoticed t) :
    EndsAfterDisconnect s event := by
  cases event with
  | endOfStream =>
    obtain ⟨hreading, rfl⟩ := Option.ite_some_none_eq_some.mp hstep
    exact h.disconnectCalled hnoticed (by rw [hreading]; nofun) rfl rfl rfl
  | handleFailure =>
    obtain ⟨hcatching, rfl⟩ := Option.ite_some_none_eq_some.mp hstep
    exact h.disconnectCalled hnoticed (by rw [hcatching]; nofun) rfl rfl rfl
  | _ => exact trivial

/-- In the runs in which the reader never ends before `disconnect` is called, and in no others, is
every loss noticed. -/
theorem always_lossNoticed_iff (events : List Event) :
    service.Always LossNoticed init events ↔ service.Meets EndsAfterDisconnect init events :=
  Labelled.always_iff_meets (fun _ ↦ Serving.lossNoticed)
    (fun _ _ _ h hguard hstep ↦ h.step hguard hstep)
    (fun _ _ _ h hstep hnoticed ↦ h.endsAfterDisconnect hstep hnoticed) serving_init events

/-- The server closes the connection: nothing is published, and the service reports to be
connected. After a failed read the loss is published, and the report is the same. -/
theorem not_lossNoticed_of_end :
    (∃ s, service.run init [.connect .accepted, .checkRunning, .endOfStream] = some s ∧
      s.published = [] ∧ isConnected s = true ∧ ¬ LossNoticed s) ∧
    ∃ s, service.run init [.connect .accepted, .checkRunning, .readFails, .handleFailure] =
        some s ∧
      s.published = [.lost] ∧ isConnected s = true ∧ ¬ LossNoticed s := by
  refine ⟨⟨_, rfl, rfl, rfl, fun h ↦ ?_⟩, _, rfl, rfl, rfl, fun h ↦ ?_⟩
  · exact absurd (h rfl rfl).2 nofun
  · exact absurd (h rfl rfl).2 nofun

end IotMonitoring.Operator.ServerConnection
