import IotMonitoring.Machine.Labelled
import IotMonitoring.Sensors.Response
import Mathlib.Algebra.Field.Rat

/-!
# The loop of a sensor

`run` connects, registers, and then sends one measurement after the other, reading a reply to each
before the next one. An `OSError`, a closed connection or a rejected registration closes the socket
and starts over after a pause; an interrupt closes it and ends the loop. Other exceptions are caught
nowhere and end the thread: the `ValueError` of the checks and of `decode`, and what `time.sleep`
raises for an interval that it cannot wait for. Every call that waits may fail or be interrupted
here as it likes; the host and the port are taken to be such that `connect` accepts them, and
`print` always succeeds. What the loop does to the outside is its list of actions.
-/

namespace IotMonitoring.Sensors.SensorBase

open Text Machine
open Auth.AuthServer (PyString decode)

/-- The attributes of a sensor that its loop depends on. -/
structure Config where
  sensorId : PyString
  sensorType : SensorType
  interval : Number
  retryInterval : Number

/-- `time.sleep` takes a number of seconds that is not negative and whose nanoseconds, rounded to a
double, are below `2 ^ 63`; for others it raises a `ValueError` or an `OverflowError`. -/
def sleepable : Number → Bool
  | .finite negative magnitude =>
    (negative = false ∨ magnitude = 0) ∧
      magnitude.num * 10 ^ 9 < (2 ^ 63 - 2 ^ 9) * magnitude.den
  | .infinite _ => false
  | .nan => false

/-- Where the loop stands: the next call that it makes. -/
inductive Phase where
  | connecting
  | opened
  | registering
  | awaitingRegistration
  | measuring
  | awaitingReply
  | sleeping
  | retrying
  | stopped
  | crashed
deriving DecidableEq

/-- The loop with its attribute `_sock`. -/
structure Loop where
  phase : Phase
  sock : Option ℤ
deriving DecidableEq

def Loop.start : Loop := ⟨.connecting, none⟩

/-- How the next call ends. `none` and `false` stand for an `OSError`. -/
inductive Event where
  | socket (fd : Option ℤ)
  | connect (succeeds : Bool)
  | register (sent : Bool)
  | recv (data : Option Bytes)
  | measure (value : Number) (timestamp : ℤ) (sent : Bool)
  | wake
  | interrupt

/-- What can be seen from outside. -/
inductive Action where
  | opened (fd : ℤ)
  | closed (fd : ℤ)
  | sent (fd : ℤ) (message : PyString)
  | received (fd : ℤ) (response : PyString)
  | garbled (fd : ℤ) (data : Bytes)
deriving DecidableEq

/-- `_disconnect`, and the phase behind it. -/
def Loop.disconnect (loop : Loop) (phase : Phase) : Loop × List Action :=
  (⟨phase, none⟩, loop.sock.toList.map .closed)

/-- The handler of `OSError` and `ConnectionError`. -/
def Loop.networkError (loop : Loop) : Loop × List Action := loop.disconnect .retrying

/-- `_recv`, and what the caller does with the response. -/
def Loop.receive (loop : Loop) (data : Option Bytes) (next : PyString → Loop × List Action) :
    Loop × List Action :=
  match data with
  | none => loop.networkError
  | some data =>
    match SensorBase.recv data with
    | .error .network => loop.networkError
    | .error .value => (⟨.crashed, loop.sock⟩, loop.sock.toList.map (.garbled · data))
    | .ok response =>
      let result := next response
      (result.1, loop.sock.toList.map (.received · response) ++ result.2)

/-- `time.sleep`, and what follows it. -/
def Loop.sleep (loop : Loop) (seconds : Number) (next : Phase) : Loop × List Action :=
  (⟨if sleepable seconds then next else .crashed, loop.sock⟩, [])

/-- One call of `run`. -/
def Loop.perform (config : Config) (loop : Loop) (event : Event) : Option (Loop × List Action) :=
  match loop.phase, event with
  | .stopped, _ => none
  | .crashed, _ => none
  | _, .interrupt => some (loop.disconnect .stopped)
  | .connecting, .socket none => some loop.networkError
  | .connecting, .socket (some fd) => some (⟨.opened, some fd⟩, [.opened fd])
  | .opened, .connect succeeds =>
    some (if succeeds then (⟨.registering, loop.sock⟩, []) else loop.networkError)
  | .registering, .register sent =>
    some (if sent then (⟨.awaitingRegistration, loop.sock⟩,
        loop.sock.toList.map (.sent · (registerMessage config.sensorId config.sensorType)))
      else loop.networkError)
  | .awaitingRegistration, .recv data =>
    some (loop.receive data fun response ↦
      if startsOk response then (⟨.measuring, loop.sock⟩, []) else loop.networkError)
  | .measuring, .measure value timestamp sent =>
    let unit := (unitMap config.sensorType).toList
    match validateMeasurement config.sensorId (.number value) unit with
    | .error _ => some (⟨.crashed, loop.sock⟩, [])
    | .ok () =>
      some (if sent then (⟨.awaitingReply, loop.sock⟩,
          loop.sock.toList.map (.sent · (measurementMessage config.sensorId value unit timestamp)))
        else loop.networkError)
  | .awaitingReply, .recv data => some (loop.receive data fun _ ↦ (⟨.sleeping, loop.sock⟩, []))
  | .sleeping, .wake => some (loop.sleep config.interval .measuring)
  | .retrying, .wake => some (loop.sleep config.retryInterval .connecting)
  | _, _ => none

/-- `run` as a machine. -/
def runLoop (config : Config) : Labelled Loop Event where
  step loop event := (loop.perform config event).map Prod.fst

/-- The actions of one call. -/
def actions (config : Config) (loop : Loop) (event : Event) : List Action :=
  ((loop.perform config event).map Prod.snd).getD []

/-! ## Conversations -/

variable (config : Config)

/-- The connection is the last one, and its registration has been answered with OK. -/
def Registered (fd : ℤ) (shown : List Action) : Prop :=
  ∃ front response rest, shown = front ++ [.opened fd,
      .sent fd (registerMessage config.sensorId config.sensorType), .received fd response] ++ rest ∧
    startsOk response ∧ ∀ action ∈ rest, ∃ text, action = .sent fd text ∨ action = .received fd text

/-- The message may be sent after these actions: it is the registration on a connection that has
just been opened, or a measurement of a valid id on a registered connection whose last request has
been answered. -/
def MaySend (fd : ℤ) (message : PyString) (shown : List Action) : Prop :=
  (message = registerMessage config.sensorId config.sensorType ∧
    shown.getLast? = some (.opened fd)) ∨
  ∃ value timestamp response,
    message = measurementMessage config.sensorId value (unitMap config.sensorType).toList
      timestamp ∧
    validateMeasurement config.sensorId (.number value) (unitMap config.sensorType).toList =
      .ok () ∧
    Registered config fd shown ∧ shown.getLast? = some (.received fd response)

/-- Every message was sent when it might be. -/
def Proper (shown : List Action) : Prop :=
  ∀ front fd message rest, shown = front ++ .sent fd message :: rest →
    MaySend config fd message front

/-- The part of an action that concerns the lifetime of a socket. -/
def lifetime : Action → Option (Bool × ℤ)
  | .opened fd => some (true, fd)
  | .closed fd => some (false, fd)
  | _ => none

/-- Sockets are opened and closed in turn, and the last one may still be open. -/
def InTurn (shown : List Action) (sock : Option ℤ) : Prop :=
  ∃ fds : List ℤ, shown.filterMap lifetime =
    (fds.flatMap fun fd ↦ [(true, fd), (false, fd)]) ++ sock.toList.map (true, ·)

/-- Where the conversation on the present connection stands. -/
def Stands (shown : List Action) (loop : Loop) : Prop :=
  match loop.phase with
  | .connecting | .retrying | .stopped => loop.sock = none
  | .opened | .registering => ∃ fd, loop.sock = some fd ∧ shown.getLast? = some (.opened fd)
  | .awaitingRegistration => ∃ fd front, loop.sock = some fd ∧
      shown = front ++ [.opened fd,
        .sent fd (registerMessage config.sensorId config.sensorType)]
  | .measuring | .sleeping => ∃ fd response, loop.sock = some fd ∧ Registered config fd shown ∧
      shown.getLast? = some (.received fd response)
  | .awaitingReply => ∃ fd, loop.sock = some fd ∧ Registered config fd shown
  | .crashed => (∃ fd, loop.sock = some fd ∧
      (¬ idPatternMatch config.sensorId ∨ sleepable config.interval = false ∨
        ∃ data, .garbled fd data ∈ shown ∧ decode data = none)) ∨
    loop.sock = none ∧ sleepable config.retryInterval = false

/-- What holds of the loop and all its actions so far. -/
structure Conversing (shown : List Action) (loop : Loop) : Prop where
  proper : Proper config shown
  inTurn : InTurn shown loop.sock
  stands : Stands config shown loop

variable {config}

/-! ## Single actions -/

theorem Proper.append_singleton {shown : List Action} (h : Proper config shown) {action : Action}
    (hsend : ∀ fd message, action = .sent fd message → MaySend config fd message shown) :
    Proper config (shown ++ [action]) := by
  intro front fd message rest heq
  obtain rfl | ⟨others, last, rfl⟩ := List.eq_nil_or_concat rest
  · obtain ⟨rfl, hlast⟩ := List.append_inj' heq rfl
    exact hsend fd message (List.cons.inj hlast).1
  · rw [List.concat_eq_append, ← List.cons_append, ← List.append_assoc] at heq
    obtain ⟨rfl, -⟩ := List.append_inj' heq rfl
    exact h front fd message others rfl

theorem InTurn.append_opened {shown : List Action} (h : InTurn shown none) (fd : ℤ) :
    InTurn (shown ++ [.opened fd]) (some fd) := by
  obtain ⟨fds, hfds⟩ := h
  exact ⟨fds, by simp [List.filterMap_append, hfds, lifetime]⟩

theorem InTurn.append_closed {shown : List Action} {fd : ℤ} (h : InTurn shown (some fd)) :
    InTurn (shown ++ [.closed fd]) none := by
  obtain ⟨fds, hfds⟩ := h
  exact ⟨fds ++ [fd], by simp [List.filterMap_append, hfds, lifetime]⟩

/-- Messages are no part of the lifetime of a socket. -/
theorem InTurn.append_message {shown : List Action} {sock : Option ℤ} (h : InTurn shown sock)
    {action : Action} (hmessage : lifetime action = none) : InTurn (shown ++ [action]) sock := by
  obtain ⟨fds, hfds⟩ := h
  exact ⟨fds, by simp [List.filterMap_append, hfds, hmessage]⟩

theorem Registered.append {fd : ℤ} {shown : List Action} (h : Registered config fd shown)
    {action : Action}
    (haction : ∃ text, action = .sent fd text ∨ action = .received fd text) :
    Registered config fd (shown ++ [action]) := by
  obtain ⟨front, response, rest, rfl, hok, hrest⟩ := h
  exact ⟨front, response, rest ++ [action], by simp, hok,
    List.forall_mem_append.mpr ⟨hrest, List.forall_mem_singleton.mpr haction⟩⟩

/-! ## Calls -/

/-- Closing the socket, if there is one. -/
theorem conversing_disconnect {shown : List Action} {loop : Loop} (hproper : Proper config shown)
    (hinTurn : InTurn shown loop.sock) {phase : Phase}
    (hphase : phase = .retrying ∨ phase = .stopped) :
    Conversing config (shown ++ (loop.disconnect phase).2) (loop.disconnect phase).1 := by
  have hstands (shown : List Action) : Stands config shown ⟨phase, none⟩ := by
    obtain rfl | rfl := hphase <;> rfl
  obtain ⟨before, sock⟩ := loop
  cases sock with
  | none =>
    simp only [Loop.disconnect, Option.toList_none, List.map_nil, List.append_nil]
    exact ⟨hproper, hinTurn, hstands _⟩
  | some fd =>
    exact ⟨hproper.append_singleton nofun, InTurn.append_closed hinTurn, hstands _⟩

/-- Only bytes that cannot be decoded raise a `ValueError`. -/
theorem decode_of_recv {data : Bytes} (h : SensorBase.recv data = .error .value) :
    decode data = none := by
  unfold SensorBase.recv at h
  split at h
  · cases h
  · split at h
    · cases h
    · assumption

/-- Receiving a response on the present connection, or failing to. -/
theorem conversing_receive {shown : List Action} {loop : Loop} {fd : ℤ}
    (hproper : Proper config shown) (hinTurn : InTurn shown loop.sock) (hsock : loop.sock = some fd)
    (data : Option Bytes) {next : PyString → Loop × List Action}
    (hnext : ∀ response, Proper config (shown ++ [.received fd response]) →
      InTurn (shown ++ [.received fd response]) loop.sock →
      Conversing config (shown ++ [.received fd response] ++ (next response).2)
        (next response).1) :
    Conversing config (shown ++ (loop.receive data next).2) (loop.receive data next).1 := by
  unfold Loop.receive
  split
  · exact conversing_disconnect hproper hinTurn (.inl rfl)
  · rename_i bytes
    split
    · exact conversing_disconnect hproper hinTurn (.inl rfl)
    · simp only [hsock, Option.toList_some, List.map_cons, List.map_nil]
      rename_i hrecv
      refine ⟨hproper.append_singleton nofun, (hsock ▸ hinTurn).append_message rfl,
        .inl ⟨fd, rfl, ?_⟩⟩
      exact .inr (.inr ⟨bytes, by simp, decode_of_recv hrecv⟩)
    · rename_i response hrecv
      have hreceived := hnext response (hproper.append_singleton nofun)
        (hinTurn.append_message rfl)
      simpa [hsock] using hreceived

/-- A valid id and a known unit pass the check, whatever the number is. -/
theorem validateMeasurement_unitMap {sensorId : PyString} (hid : idPatternMatch sensorId)
    (value : Number) (type : SensorType) :
    validateMeasurement sensorId (.number value) (unitMap type).toList = .ok () := by
  cases type <;> simp [validateMeasurement, hid, unitMap]

/-- The registration is sent on a connection that has just been opened. -/
theorem Conversing.register {shown : List Action} {loop : Loop} {sent : Bool}
    {result : Loop × List Action} (h : Conversing config shown loop)
    (hphase : loop.phase = .registering)
    (hstep : loop.perform config (.register sent) = some result) :
    Conversing config (shown ++ result.2) result.1 := by
  obtain ⟨hproper, hinTurn, hstands⟩ := h
  simp only [Stands, hphase] at hstands
  obtain ⟨fd, hsock, hlast⟩ := hstands
  simp only [Loop.perform, hphase] at hstep
  rw [← Option.some.inj hstep]
  split
  · simp only [hsock, Option.toList_some, List.map_cons, List.map_nil]
    rw [hsock] at hinTurn
    obtain ⟨front, rfl⟩ := List.getLast?_eq_some_iff.mp hlast
    refine ⟨hproper.append_singleton ?_, hinTurn.append_message rfl, fd, front, rfl, by simp⟩
    rintro fd' message ⟨⟩
    exact .inl ⟨rfl, hlast⟩
  · exact conversing_disconnect hproper hinTurn (.inl rfl)

/-- The reply to the registration decides. -/
theorem Conversing.registrationReply {shown : List Action} {loop : Loop} {data : Option Bytes}
    {result : Loop × List Action} (h : Conversing config shown loop)
    (hphase : loop.phase = .awaitingRegistration)
    (hstep : loop.perform config (.recv data) = some result) :
    Conversing config (shown ++ result.2) result.1 := by
  obtain ⟨hproper, hinTurn, hstands⟩ := h
  simp only [Stands, hphase] at hstands
  obtain ⟨fd, front, hsock, hshown⟩ := hstands
  simp only [Loop.perform, hphase] at hstep
  rw [← Option.some.inj hstep]
  apply conversing_receive hproper hinTurn hsock data
  intro response hproper' hinTurn'
  split
  · rename_i hok
    rw [List.append_nil]
    refine ⟨hproper', hinTurn', fd, response, hsock, ⟨front, response, [], ?_, hok, by simp⟩,
      by simp⟩
    simp [hshown]
  · exact conversing_disconnect hproper' hinTurn' (.inl rfl)

/-- A measurement is sent after the last reply, unless the id is invalid. -/
theorem Conversing.measure {shown : List Action} {loop : Loop} {value : Number} {timestamp : ℤ}
    {sent : Bool} {result : Loop × List Action} (h : Conversing config shown loop)
    (hphase : loop.phase = .measuring)
    (hstep : loop.perform config (.measure value timestamp sent) = some result) :
    Conversing config (shown ++ result.2) result.1 := by
  obtain ⟨hproper, hinTurn, hstands⟩ := h
  simp only [Stands, hphase] at hstands
  obtain ⟨fd, response, hsock, hregistered, hlast⟩ := hstands
  simp only [Loop.perform, hphase] at hstep
  by_cases hid : idPatternMatch config.sensorId
  · have hvalid := validateMeasurement_unitMap hid value config.sensorType
    simp only [hvalid] at hstep
    rw [← Option.some.inj hstep]
    split
    · simp only [hsock, Option.toList_some, List.map_cons, List.map_nil]
      rw [hsock] at hinTurn
      refine ⟨hproper.append_singleton ?_, hinTurn.append_message rfl, fd, rfl,
        hregistered.append ⟨_, .inl rfl⟩⟩
      rintro fd' message ⟨⟩
      exact .inr ⟨value, timestamp, response, rfl, hvalid, hregistered, hlast⟩
    · exact conversing_disconnect hproper hinTurn (.inl rfl)
  · have hinvalid : validateMeasurement config.sensorId (.number value)
        (unitMap config.sensorType).toList =
        .error ("Invalid sensor_id: '".toList ++ config.sensorId ++ "'".toList) := by
      simp only [validateMeasurement, if_pos hid]
    simp only [hinvalid] at hstep
    rw [← Option.some.inj hstep, List.append_nil]
    exact ⟨hproper, hinTurn, .inl ⟨fd, hsock, .inl hid⟩⟩

/-- The reply to a measurement is only read. -/
theorem Conversing.measurementReply {shown : List Action} {loop : Loop} {data : Option Bytes}
    {result : Loop × List Action} (h : Conversing config shown loop)
    (hphase : loop.phase = .awaitingReply)
    (hstep : loop.perform config (.recv data) = some result) :
    Conversing config (shown ++ result.2) result.1 := by
  obtain ⟨hproper, hinTurn, hstands⟩ := h
  simp only [Stands, hphase] at hstands
  obtain ⟨fd, hsock, hregistered⟩ := hstands
  simp only [Loop.perform, hphase] at hstep
  rw [← Option.some.inj hstep]
  apply conversing_receive hproper hinTurn hsock data
  intro response hproper' hinTurn'
  rw [List.append_nil]
  exact ⟨hproper', hinTurn', fd, response, hsock, hregistered.append ⟨_, .inr rfl⟩, by simp⟩

theorem Conversing.perform {shown : List Action} {loop : Loop} {event : Event}
    {result : Loop × List Action} (h : Conversing config shown loop)
    (hstep : loop.perform config event = some result) :
    Conversing config (shown ++ result.2) result.1 := by
  have ⟨hproper, hinTurn, hstands⟩ := h
  have hfailed : Conversing config (shown ++ loop.networkError.2) loop.networkError.1 :=
    conversing_disconnect hproper hinTurn (.inl rfl)
  have hresult := hstep
  unfold Loop.perform at hresult
  split at hresult
  · cases hresult
  · cases hresult
  · -- An interrupt, in any phase.
    rw [← Option.some.inj hresult]
    exact conversing_disconnect hproper hinTurn (.inr rfl)
  · rw [← Option.some.inj hresult]
    exact hfailed
  · rename_i fd hphase
    rw [← Option.some.inj hresult]
    simp only [Stands, hphase] at hstands
    refine ⟨hproper.append_singleton nofun, ?_, fd, rfl, by simp⟩
    exact (hstands ▸ hinTurn).append_opened fd
  · rename_i succeeds hphase
    simp only [Stands, hphase] at hstands
    rw [← Option.some.inj hresult]
    split
    · rw [List.append_nil]
      exact ⟨hproper, hinTurn, hstands⟩
    · exact hfailed
  · rename_i sent hphase
    exact h.register hphase hstep
  · rename_i data hphase
    exact h.registrationReply hphase hstep
  · rename_i value timestamp sent hphase
    exact h.measure hphase hstep
  · rename_i data hphase
    exact h.measurementReply hphase hstep
  · rename_i hphase
    simp only [Stands, hphase] at hstands
    rw [← Option.some.inj hresult]
    refine ⟨by simpa [Loop.sleep] using hproper, by simpa [Loop.sleep] using hinTurn, ?_⟩
    obtain ⟨fd, response, hsock, hregistered, hlast⟩ := hstands
    rw [Loop.sleep, List.append_nil]
    cases hsleep : sleepable config.interval with
    | true => exact ⟨fd, response, hsock, hregistered, hlast⟩
    | false => exact .inl ⟨fd, hsock, .inr (.inl hsleep)⟩
  · rename_i hphase
    simp only [Stands, hphase] at hstands
    rw [← Option.some.inj hresult]
    refine ⟨by simpa [Loop.sleep] using hproper, by simpa [Loop.sleep] using hinTurn, ?_⟩
    rw [Loop.sleep, List.append_nil]
    cases hsleep : sleepable config.retryInterval with
    | true => exact hstands
    | false => exact .inr ⟨hstands, hsleep⟩
  · cases hresult

/-! ## Whole runs -/

/-- In every run: a measurement is only sent on a connection whose registration has been accepted,
and only after the reply to what was sent before it; every socket is closed before the next one is
opened, and none is open while the loop connects anew, waits to retry or has stopped, nor when it
has crashed over the pause before a retry; and nothing but a bad id, bytes that are no text, or an
interval that cannot be waited for makes the loop crash. -/
theorem conversing_of_run {config : Config} {events : List Event} {loop : Loop}
    (hrun : (runLoop config).run .start events = some loop) :
    let shown := (runLoop config).outputs (actions config) .start events
    Proper config shown ∧ InTurn shown loop.sock ∧
      (loop.phase ∈ [.connecting, .retrying, .stopped] → loop.sock = none) ∧
      (loop.sock = none → loop.phase ∈ [.connecting, .retrying, .stopped] ∨
        loop.phase = .crashed ∧ sleepable config.retryInterval = false) ∧
      (loop.phase = .crashed → ¬ idPatternMatch config.sensorId ∨
        sleepable config.interval = false ∨ sleepable config.retryInterval = false ∨
        ∃ fd data, .garbled fd data ∈ shown ∧ decode data = none) := by
  intro shown
  have hstart : Conversing config [] .start :=
    ⟨by simp [Proper], ⟨[], rfl⟩, rfl⟩
  have hkeep : ∀ before loop event loop', Conversing config before loop →
      (runLoop config).step loop event = some loop' →
      Conversing config (before ++ actions config loop event) loop' := by
    intro before loop event loop' hbefore hstep
    obtain ⟨result, hresult, rfl⟩ := Option.map_eq_some_iff.mp hstep
    have hafter := hbefore.perform hresult
    simpa only [actions, hresult, Option.map_some, Option.getD_some] using hafter
  have hend : Conversing config shown loop := Labelled.inv_of_outputs _ hkeep hstart hrun
  obtain ⟨hproper, hinTurn, hstands⟩ := hend
  refine ⟨hproper, hinTurn, ?_, ?_, ?_⟩
  · cases hphase : loop.phase <;> simp only [Stands, hphase] at hstands <;> grind
  · cases hphase : loop.phase <;> simp only [Stands, hphase] at hstands <;> grind
  · intro hcrashed
    simp only [Stands, hcrashed] at hstands
    obtain ⟨fd, -, hid | hsleep | ⟨data, hdata⟩⟩ | ⟨-, hsleep⟩ := hstands
    · exact .inl hid
    · exact .inr (.inl hsleep)
    · exact .inr (.inr (.inr ⟨fd, data, hdata⟩))
    · exact .inr (.inr (.inl hsleep))

/-- A sensor that is rejected once, reconnects, and receives a byte that is no text. -/
theorem conversing_of_run_garbled :
    let config : Config := ⟨"boiler".toList, .temperature, .finite false 5, .finite false 10⟩
    let events : List Event := [.socket (some 3), .connect true, .register true,
      .recv (some "ERROR 500 MAX_SENSORS\r\n".toUTF8.toList), .wake, .socket (some 3),
      .connect true, .register true, .recv (some [79, 75, 13, 10]),
      .measure (.finite false 20) 0 true, .recv (some [255])]
    let loop : Loop := ⟨.crashed, some 3⟩
    let shown := (runLoop config).outputs (actions config) .start events
    (runLoop config).run .start events = some loop ∧
    Proper config shown ∧ InTurn shown loop.sock ∧
      (loop.phase ∈ [.connecting, .retrying, .stopped] → loop.sock = none) ∧
      (loop.sock = none → loop.phase ∈ [.connecting, .retrying, .stopped] ∨
        loop.phase = .crashed ∧ sleepable config.retryInterval = false) ∧
      (loop.phase = .crashed → ¬ idPatternMatch config.sensorId ∨
        sleepable config.interval = false ∨ sleepable config.retryInterval = false ∨
        ∃ fd data, .garbled fd data ∈ shown ∧ decode data = none) := by
  intro config events loop shown
  have hrun : (runLoop config).run .start events = some loop := by decide +kernel
  exact ⟨hrun, conversing_of_run hrun⟩

end IotMonitoring.Sensors.SensorBase
