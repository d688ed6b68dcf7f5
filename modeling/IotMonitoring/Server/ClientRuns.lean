import IotMonitoring.Machine.Labelled
import IotMonitoring.Server.HandleClient

/-!
# Sensors, operators and their handlers

The clients of the repository connect, send commands, read what the server sends and disconnect.
A sensor waits for what one `recv` returns before it sends its next command and never logs in, an
operator logs in at most once on a connection. Each connection has its handler, which takes the
shared data step by step; a broadcast visits the registry entry by entry under `operator_mutex`.
Descriptors and contexts are used again after a connection has been closed.
-/

namespace IotMonitoring.Server.ClientRuns

open Text Machine Protocol SensorManager AlertEngine OperatorRegistry HandleClient

inductive Kind where
  | sensor
  | operator
deriving DecidableEq

/-- How many LOGIN commands a client sends on one connection. -/
def Kind.logins : Kind → ℕ
  | sensor => 0
  | operator => 1

/-- A command as the server receives it, with its place among those of the connection. -/
structure Request where
  number : ℕ
  chunk : Chunk

def Request.isLogin (request : Request) : Bool := request.chunk.message.type = .login

/-- What the server sends: the reply to a request, or a line that is broadcast. -/
inductive Message where
  | reply (request : Request) (text : CString)
  | alert (line : CString)

/-- Where a handler stands in `handle_client`: in `recv`; with a request before its first call on
the shared data; for a MEASUREMENT after `sensor_manager_add_measurement` has returned 0, with the
type that has been found, with the line to be broadcast, and under `operator_mutex` before an entry
of the registry; with the reply; and at the calls that follow the receive loop. -/
inductive Phase where
  | receiving
  | received (request : Request)
  | stored (request : Request)
  | typed (request : Request) (pointer : Fin maxSensors)
  | checked (request : Request) (line : CString)
  | broadcasting (request : Request) (line : CString) (next : ℕ)
  | sending (request : Request) (text : CString)
  | leaving
  | removed
  | closed

/-- A connection, with both its ends and the two streams between them. -/
structure Connection (κ : Type) where
  kind : Kind
  fd : ℤ
  context : κ
  clientOpen : Bool
  waiting : Bool
  sent : List Request
  inbox : List Request
  channel : List Message
  phase : Phase
  loggedIn : Bool

/-- A connection that has just been accepted. -/
def Connection.accepted {κ : Type} (kind : Kind) (fd : ℤ) (context : κ) : Connection κ :=
  ⟨kind, fd, context, true, false, [], [], [], .receiving, false⟩

/-- The descriptor, until it is closed. -/
def Connection.openFd {κ : Type} (connection : Connection κ) : Option ℤ :=
  match connection.phase with
  | .closed => none
  | _ => some connection.fd

/-- A `send` to a descriptor reaches the connection that it belongs to. -/
def Connection.deliver {κ : Type} (fd : ℤ) (message : Message) (connection : Connection κ) :
    Connection κ :=
  if connection.openFd = some fd then
    { connection with channel := connection.channel ++ [message] }
  else connection

/-- The steps that concern one connection only: those of the client, and of the handler all but the
calls on the shared data. -/
inductive Action where
  | send (chunk : Chunk)
  | receive (messages : ℕ)
  | hangUp
  | recv
  | recvFails
  | sendReply (sent : Bool)
  | close

/-- What a step on one connection does, where it can be taken. -/
def Connection.act {κ : Type} (c : Connection κ) : Action → Option (Connection κ)
  | .send chunk =>
    let request : Request := ⟨c.sent.length, chunk⟩
    if c.clientOpen ∧ (c.kind = .sensor → c.waiting = false) ∧
        (c.sent ++ [request]).countP Request.isLogin ≤ c.kind.logins then
      some { c with sent := c.sent ++ [request], inbox := c.inbox ++ [request], waiting := true }
    else none
  | .receive messages =>
    if c.clientOpen ∧ (c.kind = .sensor → c.waiting) ∧ 0 < messages ∧
        messages ≤ c.channel.length then
      some { c with channel := c.channel.drop messages, waiting := false }
    else none
  | .hangUp => some { c with clientOpen := false }
  | .recv =>
    match c.phase, c.inbox with
    | .receiving, request :: rest => some { c with phase := .received request, inbox := rest }
    | _, _ => none
  | .recvFails =>
    match c.phase with
    | .receiving => some { c with phase := .leaving }
    | _ => none
  | .sendReply sent =>
    match c.phase with
    | .sending request text =>
      if sent then
        some { c with channel := c.channel ++ [.reply request text], phase := .receiving }
      else some { c with phase := .leaving }
    | _ => none
  | .close =>
    match c.phase with
    | .removed => some { c with phase := .closed }
    | _ => none

structure State (D κ : Type) where
  shared : ServerState D κ
  operatorMutex : Option ℕ
  connections : List (Connection κ)

/-- The accept loop, the steps on one connection, and the calls of a connection's handler on the
shared data. -/
inductive Event (κ : Type) where
  | accept (kind : Kind) (fd : ℤ) (context : κ)
  | own (i : ℕ) (action : Action)
  | dispatch (i : ℕ) (env : Env)
  | getSensorType (i : ℕ)
  | checkMeasurement (i : ℕ) (env : Env)
  | lockOperators (i : ℕ)
  | sendAlert (i : ℕ) (sent : Bool)
  | removeOperator (i : ℕ)

variable {D κ : Type} [CDouble D]

/-- The reply to a measurement that has been stored. -/
def measurementReceived : CString := (ok "MEASUREMENT_RECEIVED").text

/-- A MEASUREMENT whose first call returns 0. -/
def stores (env : Env) (chunk : Chunk) (shared : ServerState D κ) : Bool :=
  match chunk.message.type, chunk.message.argStrings with
  | .measurement, sensorId :: valueText :: unit :: _ =>
    (addMeasurement env.time sensorId (CDouble.atof valueText : D) unit shared.sensors).2 = 0
  | _, _ => false

/-- The state after a request's first call, which is also the last one unless a measurement has
been stored. A LOGIN that is accepted registers the connection and needs `operator_mutex`. -/
def firstCall (env : Env) (c : Connection κ) (request : Request) (s : State D κ) :
    Option (ServerState D κ × Connection κ) :=
  if stores env request.chunk s.shared then
    some (storeMeasurement env request.chunk.message.argStrings s.shared,
      { c with phase := .stored request })
  else
    let outcome := respond env ⟨c.fd, c.context⟩ request.chunk s.shared
    if (grantedRole env request.chunk).isSome then
      if s.operatorMutex = none then
        some (outcome.state,
          { c with phase := .sending request outcome.response.text, loggedIn := true })
      else none
    else some (outcome.state, { c with phase := .sending request outcome.response.text })

/-- The search for the type of the sensor. -/
def typeCall (request : Request) (shared : ServerState D κ) : Phase :=
  match request.chunk.message.argStrings with
  | sensorId :: _ =>
    match SensorManager.getSensorType sensorId shared.sensors with
    | some pointer => .typed request pointer
    | none => .sending request measurementReceived
  | [] => .sending request measurementReceived

/-- The check of a measurement against the rules, and what is broadcast after it. -/
def checkCall (env : Env) (request : Request) (pointer : Fin maxSensors)
    (shared : ServerState D κ) : Phase :=
  match request.chunk.message.argStrings with
  | sensorId :: valueText :: unit :: _ =>
    let sensorType := typeAt shared.sensors pointer
    let value : D := CDouble.atof valueText
    if (AlertEngine.checkMeasurement env.alertTime sensorId sensorType value
        shared.engine).2.length > 0 then
      .checked request (alertLine sensorId sensorType value unit)
    else .sending request measurementReceived
  | _ => .sending request measurementReceived

/-- The clients and the handlers as one machine. `accept` returns a positive descriptor and
`malloc` a context that are not in use. -/
def clientRuns (D κ : Type) [CDouble D] [DecidableEq κ] : Labelled (State D κ) (Event κ) where
  step s event :=
    match event with
    | .accept kind fd context =>
      if 0 < fd ∧ ∀ c ∈ s.connections, c.openFd.isSome → c.fd ≠ fd ∧ c.context ≠ context then
        some { s with connections := s.connections ++ [.accepted kind fd context] }
      else none
    | .own i action =>
      s.connections[i]?.bind fun c ↦ (c.act action).map fun c' ↦
        { s with connections := s.connections.set i c' }
    | .dispatch i env =>
      s.connections[i]?.bind fun c ↦
        match c.phase with
        | .received request => (firstCall env c request s).map fun result ↦
          { s with shared := result.1, connections := s.connections.set i result.2 }
        | _ => none
    | .getSensorType i =>
      s.connections[i]?.bind fun c ↦
        match c.phase with
        | .stored request => some { s with
            connections := s.connections.set i { c with phase := typeCall request s.shared } }
        | _ => none
    | .checkMeasurement i env =>
      s.connections[i]?.bind fun c ↦
        match c.phase with
        | .typed request pointer => some { s with
            shared := checkStored env request.chunk.message.argStrings pointer s.shared
            connections :=
              s.connections.set i { c with phase := checkCall env request pointer s.shared } }
        | _ => none
    | .lockOperators i =>
      s.connections[i]?.bind fun c ↦
        match c.phase with
        | .checked request line =>
          if s.operatorMutex = none then
            some { s with
              operatorMutex := some i
              connections := s.connections.set i { c with phase := .broadcasting request line 0 } }
          else none
        | _ => none
    | .sendAlert i sent =>
      s.connections[i]?.bind fun c ↦
        match c.phase with
        | .broadcasting request line next =>
          match s.shared.operators.live[next]? with
          | some operator =>
            let connections :=
              s.connections.set i { c with phase := .broadcasting request line (next + 1) }
            if sent ∧ 0 < operator.client ∧ operator.writeMutex.isSome then
              some { s with
                connections := connections.map (·.deliver operator.client (.alert line)) }
            else some { s with connections := connections }
          | none => some { s with
              operatorMutex := none
              connections :=
                s.connections.set i { c with phase := .sending request measurementReceived } }
        | _ => none
    | .removeOperator i =>
      s.connections[i]?.bind fun c ↦
        match c.phase with
        | .leaving =>
          if s.operatorMutex = none then
            some { s with
              shared := { s.shared with
                operators := OperatorRegistry.removeOperator c.fd s.shared.operators }
              connections := s.connections.set i { c with phase := .removed } }
          else none
        | _ => none

/-- The server has been started and nobody has connected yet. -/
def init (now : ℤ) : State D κ := ⟨serverInit now, none, []⟩

omit [CDouble D] in
/-- The two commands of `SensorBase` are no LOGIN, whatever follows their names. -/
theorem isLogin_of_sensorBase {request : Request} {name : String} {rest : Bytes}
    (hname : name = "REGISTER_SENSOR" ∨ name = "MEASUREMENT")
    (hbytes : request.chunk.bytes = ascii name ++ 32 :: rest) : request.isLogin = false := by
  have hfirst : commandOf (ascii name) ≠ .login ∧ ascii name ≠ [] ∧
      (ascii name).all (fun b ↦ b ≠ 0 ∧ ¬ isLineEnd b) ∧
        (ascii name).all (fun b ↦ isSpace b = false) := by
    obtain rfl | rfl := hname <;> decide
  obtain ⟨hcommand, hne, hline, hword⟩ := hfirst
  rw [List.all_eq_true] at hline hword
  have hlineOf : lineOf request.chunk.bytes = ascii name ++ 32 :: lineOf rest := by
    rw [hbytes, lineOf, List.takeWhile_append_of_pos hline]
    rfl
  have htype := request.chunk.message_fields.1
  rw [hlineOf, fields, words_run_cons hne (by simpa using hword) (by decide)] at htype
  rw [Request.isLogin, htype, decide_eq_false_iff_not]
  exact hcommand

end IotMonitoring.Server.ClientRuns
