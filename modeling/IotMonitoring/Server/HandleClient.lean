import IotMonitoring.Machine.Labelled
import IotMonitoring.Server.AlertEngine
import IotMonitoring.Server.AuthClient
import IotMonitoring.Server.OperatorRegistry
import IotMonitoring.Server.SensorManager

/-!
# The connection handler

`handle_client` reads a chunk, parses it, runs one command against the shared data and sends one
reply, until the peer closes the connection or a send fails; then it removes the operator. Here one
iteration runs at once. What an iteration reads from outside (the clock and the authentication
service) is its environment.
-/

namespace IotMonitoring.Server.HandleClient

open Text Machine Protocol SensorManager AlertEngine OperatorRegistry AuthClient

/-- The static data of the process. -/
structure ServerState (D κ : Type) where
  sensors : SensorTable D
  engine : Engine D
  operators : Registry κ

/-- A connection: its descriptor and the context that holds its write mutex. -/
structure Client (κ : Type) where
  fd : ℤ
  context : κ

/-- What one iteration reads from outside. -/
structure Env where
  time : ℤ
  alertTime : Fin maxAlerts → ℤ
  authService : Option (Bytes → Bytes)

/-- The pointer `response`: a literal, or `resp_buf` with the text last built there. -/
inductive Response where
  | pong
  | built (text : CString)
deriving DecidableEq

/-- The bytes that are sent when nothing else has written `resp_buf` meanwhile. -/
def Response.text : Response → CString
  | pong => .lit "PONG\r\n"
  | built text => text

/-- What a command leaves behind: the shared data, the response and the alert it broadcasts. -/
structure Outcome (D κ : Type) where
  state : ServerState D κ
  response : Response
  broadcast : Option CString

def ok (details : String) : Response := .built (protocolBuildOk (some (.lit details)))

def error (code desc : String) : Response :=
  .built (protocolBuildError (some (.lit code)) (some (.lit desc)))

def missingArguments : Response := error "400" "Missing arguments"

def commandNotFound : Response := error "404" "Command not found"

variable {D κ : Type} [CDouble D]

/-- `case CMD_REGISTER_SENSOR`. -/
def registerSensor (env : Env) (args : List CString) (s : ServerState D κ) : Outcome D κ :=
  match args with
  | sensorId :: sensorType :: _ =>
    let result := register env.time sensorType sensorId s.sensors
    if result.2 = 0 then ⟨{ s with sensors := result.1 }, ok "SENSOR_REGISTERED", none⟩
    else ⟨{ s with sensors := result.1 }, error "500" "Failed to register sensor", none⟩
  | _ => ⟨s, missingArguments, none⟩

/-- The line that is broadcast when a measurement has triggered alerts. -/
def alertLine (sensorId sensorType : CString) (value : D) (unit : CString) : CString :=
  CString.snprintf 256 (.lit "ALERTA " ++ sensorId ++ .lit "," ++ sensorType ++ .lit "," ++
    CDouble.fixed2 value ++ .lit "," ++ unit ++ .lit "\r\n")

/-- `case CMD_MEASUREMENT`. -/
def measurement (env : Env) (args : List CString) (s : ServerState D κ) : Outcome D κ :=
  match args with
  | sensorId :: valueText :: unit :: _ =>
    let value : D := CDouble.atof valueText
    let added := addMeasurement env.time sensorId value unit s.sensors
    if added.2 = 0 then
      match getSensorType sensorId added.1 with
      | some pointer =>
        let sensorType := typeAt added.1 pointer
        let checked := checkMeasurement env.alertTime sensorId sensorType value s.engine
        ⟨{ s with sensors := added.1, engine := checked.1 }, ok "MEASUREMENT_RECEIVED",
          if checked.2.length > 0 then some (alertLine sensorId sensorType value unit) else none⟩
      | none => ⟨{ s with sensors := added.1 }, ok "MEASUREMENT_RECEIVED", none⟩
    else ⟨{ s with sensors := added.1 }, error "404" "Sensor not registered", none⟩
  | _ => ⟨s, missingArguments, none⟩

omit [CDouble D] in
/-- `case CMD_LOGIN`. -/
def login (env : Env) (client : Client κ) (args : List CString) (s : ServerState D κ) :
    Outcome D κ :=
  match args with
  | username :: password :: _ =>
    match authClientVerify env.authService username password 64 with
    | .accepted role =>
      ⟨{ s with operators := registerOperator client.fd client.context s.operators },
        .built (protocolBuildOk (some (CString.snprintf 128 (.lit "ROLE_" ++ role)))), none⟩
    | .refused => ⟨s, error "401" "Invalid credentials", none⟩
    | .unavailable => ⟨s, error "503" "Auth service unavailable", none⟩
  | _ => ⟨s, missingArguments, none⟩

/-- `case CMD_GET_SENSORS`, with a list of 1024 bytes. -/
def getSensors (s : ServerState D κ) : Outcome D κ :=
  match getActiveSensors 1024 s.sensors with
  | some sensorsList => ⟨s, .built (protocolBuildSensorsList (some sensorsList)), none⟩
  | none => ⟨s, error "500" "Failed to get sensors", none⟩

/-- `case CMD_GET_ALERTS`, with a list of 1024 bytes. -/
def getAlerts (s : ServerState D κ) : Outcome D κ :=
  match getActiveAlerts 1024 s.engine with
  | some alertsList => ⟨s, .built (protocolBuildAlertsList (some alertsList)), none⟩
  | none => ⟨s, error "500" "Failed to get alerts", none⟩

omit [CDouble D] in
/-- `case CMD_GET_STATUS`. -/
def getStatus (s : ServerState D κ) : Outcome D κ :=
  ⟨s, .built (protocolBuildStatus
    (some (CString.snprintf 128 (.lit "5 sensors active - System OK")))), none⟩

/-- The switch over the command. -/
def dispatch (env : Env) (client : Client κ) (type : CommandType) (args : List CString)
    (s : ServerState D κ) : Outcome D κ :=
  match type with
  | .ping => ⟨s, .pong, none⟩
  | .registerSensor => registerSensor env args s
  | .measurement => measurement env args s
  | .login => login env client args s
  | .operatorIdentify => ⟨s, ok "OPERATOR_CONNECTED", none⟩
  | .getSensors => getSensors s
  | .getAlerts => getAlerts s
  | .getStatus => getStatus s
  | .unknown => ⟨s, commandNotFound, none⟩

/-- The body of the receive loop up to the send. -/
def respond (env : Env) (client : Client κ) (chunk : Chunk) (s : ServerState D κ) :
    Outcome D κ :=
  match protocolParse chunk.bytes with
  | some msg => dispatch env client msg.type msg.argStrings s
  | none => ⟨s, commandNotFound, none⟩

/-- One round of the receive loop: what `recv` delivers and whether the reply can be sent. -/
structure Round where
  env : Env
  chunk : Chunk
  sent : Bool

/-- What one iteration dispatches, replies and broadcasts. -/
structure Iteration where
  type : CommandType
  args : List CString
  reply : CString
  broadcast : Option CString

/-- `handle_client` on the chunks that arrive until the connection ends. -/
def handleClient (client : Client κ) : List Round → ServerState D κ →
    ServerState D κ × List Iteration
  | [], s => ({ s with operators := removeOperator client.fd s.operators }, [])
  | round :: rounds, s =>
    let outcome := respond round.env client round.chunk s
    let message := round.chunk.message
    let iteration : Iteration :=
      ⟨message.type, message.argStrings, outcome.response.text, outcome.broadcast⟩
    if round.sent then
      let result := handleClient client rounds outcome.state
      (result.1, iteration :: result.2)
    else
      ({ outcome.state with operators := removeOperator client.fd outcome.state.operators },
        [iteration])

/-- The calls of `main` before the server starts. -/
def serverInit (now : ℤ) : ServerState D κ where
  sensors := SensorManager.init
  engine :=
    let e0 := AlertEngine.init
    let e1 := (registerThreshold now (.lit "temperature") (CDouble.ofNat 30) .warning (.lit ">")
      (.lit "Temperature above normal") e0).1
    let e2 := (registerThreshold now (.lit "temperature") (CDouble.ofNat 50) .critical (.lit ">")
      (.lit "Temperature critically high") e1).1
    let e3 := (registerThreshold now (.lit "vibration") (CDouble.ofNat 5) .warning (.lit ">")
      (.lit "Vibration above normal") e2).1
    let e4 := (registerThreshold now (.lit "vibration") (CDouble.ofNat 10) .critical (.lit ">")
      (.lit "Vibration critically high") e3).1
    (registerThreshold now (.lit "energy") (CDouble.ofNat 500) .warning (.lit ">")
      (.lit "Energy consumption high") e4).1
  operators := OperatorRegistry.init

/-! ## All handlers together -/

/-- Each handler runs its iterations and leaves. A MEASUREMENT is the one command that makes more
than one call on the shared data, so its two updates may also happen one at a time. -/
inductive Event (κ : Type) where
  | request (env : Env) (client : Client κ) (chunk : Chunk)
  | store (env : Env) (chunk : Chunk)
  | check (env : Env) (chunk : Chunk) (pointer : Fin maxSensors)
  | disconnect (client : Client κ)

/-- The first update of a MEASUREMENT. -/
def storeMeasurement (env : Env) (args : List CString) (s : ServerState D κ) : ServerState D κ :=
  match args with
  | sensorId :: valueText :: unit :: _ =>
    { s with sensors :=
        (addMeasurement env.time sensorId (CDouble.atof valueText : D) unit s.sensors).1 }
  | _ => s

/-- The second update of a MEASUREMENT, for the type its search has pointed to. -/
def checkStored (env : Env) (args : List CString) (pointer : Fin maxSensors)
    (s : ServerState D κ) : ServerState D κ :=
  match args with
  | sensorId :: valueText :: _ :: _ =>
    { s with engine :=
        (checkMeasurement env.alertTime sensorId (typeAt s.sensors pointer)
          (CDouble.atof valueText : D) s.engine).1 }
  | _ => s

/-- The process as a machine over the shared data. -/
def server (D κ : Type) [CDouble D] : Labelled (ServerState D κ) (Event κ) where
  step s event :=
    match event with
    | .request env client chunk => some (respond env client chunk s).state
    | .store env chunk => some (storeMeasurement env chunk.message.argStrings s)
    | .check env chunk pointer =>
      if pointer < s.sensors.count then
        some (checkStored env chunk.message.argStrings pointer s)
      else none
    | .disconnect client =>
      some { s with operators := removeOperator client.fd s.operators }

/-- A received chunk is dispatched as the parser reads it. -/
theorem respond_eq (env : Env) (client : Client κ) (chunk : Chunk) (s : ServerState D κ) :
    respond env client chunk s =
      dispatch env client chunk.message.type chunk.message.argStrings s := by
  rw [respond, chunk.protocolParse_eq]

/-- The measurement of a stored id is kept in its slot and checked against its stored type. -/
theorem measurement_of_findSensor (env : Env) {sensorId : CString} (valueText unit : CString)
    (rest : List CString) {s : ServerState D κ} {i : Fin maxSensors}
    (h : findSensor s.sensors sensorId = some i) :
    let value : D := CDouble.atof valueText
    let checked := checkMeasurement env.alertTime sensorId (typeAt s.sensors i) value s.engine
    measurement env (sensorId :: valueText :: unit :: rest) s =
      ⟨{ s with
          sensors := (addMeasurement env.time sensorId value unit s.sensors).1
          engine := checked.1 },
        ok "MEASUREMENT_RECEIVED",
        if checked.2.length > 0 then
          some (alertLine sensorId (typeAt s.sensors i) value unit)
        else none⟩ := by
  intro value checked
  have hkeep := directory_addMeasurement env.time sensorId value unit s.sensors
  have hstored : (addMeasurement env.time sensorId value unit s.sensors).2 = 0 := by
    simp only [addMeasurement, h]
  have hpointer : getSensorType sensorId
      (addMeasurement env.time sensorId value unit s.sensors).1 = some i :=
    findSensor_of_grow (hkeep ▸ List.prefix_refl _) h
  have htype : typeAt (addMeasurement env.time sensorId value unit s.sensors).1 i =
      typeAt s.sensors i := typeAt_of_grow (hkeep ▸ List.prefix_refl _) (findSensor_eq_some h).1
  simp only [measurement, value, checked, hstored, hpointer, htype, if_true]

theorem measurement_of_findSensor_eq_none (env : Env) {sensorId : CString}
    (valueText unit : CString) (rest : List CString) {s : ServerState D κ}
    (h : findSensor s.sensors sensorId = none) :
    measurement env (sensorId :: valueText :: unit :: rest) s =
      ⟨s, error "404" "Sensor not registered", none⟩ := by
  simp [measurement, addMeasurement, h]

/-- A MEASUREMENT leaves the shared data alone, or makes its first update, or both. -/
theorem state_measurement (env : Env) (args : List CString) (s : ServerState D κ) :
    (measurement env args s).state = s ∨
      (measurement env args s).state = storeMeasurement env args s ∨
      ∃ pointer : Fin maxSensors, pointer < (storeMeasurement env args s).sensors.count ∧
        (measurement env args s).state =
          checkStored env args pointer (storeMeasurement env args s) := by
  unfold measurement
  split
  · rename_i sensorId valueText unit rest
    right
    dsimp only
    split
    · split
      · rename_i pointer hpointer
        exact .inr ⟨pointer, (findSensor_eq_some hpointer).1, rfl⟩
      · exact .inl rfl
    · exact .inl rfl
  · exact .inl rfl

/-! ## Logins -/

/-- The role that a chunk is granted, when it is a LOGIN the service accepts. -/
def grantedRole (env : Env) (chunk : Chunk) : Option CString :=
  match chunk.message.type, chunk.message.argStrings with
  | .login, username :: password :: _ =>
    match authClientVerify env.authService username password 64 with
    | .accepted role => some role
    | _ => none
  | _, _ => none

/-- An accepted LOGIN registers its connection and is answered with the role. -/
theorem respond_of_granted {env : Env} {chunk : Chunk} {role : CString}
    (h : grantedRole env chunk = some role) (client : Client κ) (s : ServerState D κ) :
    respond env client chunk s =
      ⟨{ s with operators := registerOperator client.fd client.context s.operators },
        .built (protocolBuildOk (some (CString.snprintf 128 (.lit "ROLE_" ++ role)))), none⟩ := by
  unfold grantedRole at h
  split at h
  · rename_i username password rest htype hargs
    split at h
    · rename_i role' hverdict
      obtain rfl := Option.some.inj h
      simp only [respond_eq, htype, hargs, dispatch, login, hverdict]
    · cases h
  · cases h

/-- Nothing else changes the registry. -/
theorem operators_respond_of_not_granted {env : Env} {chunk : Chunk}
    (h : grantedRole env chunk = none) (client : Client κ) (s : ServerState D κ) :
    (respond env client chunk s).state.operators = s.operators := by
  rw [respond_eq]
  cases htype : chunk.message.type with
  | login =>
    simp only [dispatch, login]
    split
    · rename_i username password rest hargs
      cases hverdict : authClientVerify env.authService username password 64 with
      | accepted role => simp [grantedRole, htype, hargs, hverdict] at h
      | refused => rfl
      | unavailable => rfl
    · rfl
  | registerSensor =>
    simp only [dispatch, registerSensor]
    split
    · split <;> rfl
    · rfl
  | measurement =>
    simp only [dispatch, measurement]
    split
    · split
      · split <;> rfl
      · rfl
    · rfl
  | getSensors =>
    simp only [dispatch, getSensors]
    split <;> rfl
  | getAlerts =>
    simp only [dispatch, getAlerts]
    split <;> rfl
  | ping => rfl
  | operatorIdentify => rfl
  | getStatus => rfl
  | unknown => rfl

end IotMonitoring.Server.HandleClient
