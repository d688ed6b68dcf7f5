import IotMonitoring.Server.Logger
import IotMonitoring.Server.Threads

/-!
# What the server logs

Besides the reply, an iteration of `handle_client` logs what the sensor table, the alert engine and
the operator registry do for its command. The calls are collected here as functions of what the
source functions read, in the order in which one thread makes them. The strings behind the pointers
of a handler are in buffers that it shares or uses again, so they are read twice, for the update and
for the log. A handler that finds its own words there logs one line with each of these calls, in
every state with line-safe strings.
-/

namespace IotMonitoring.Server.Logger

open Text Machine Protocol SensorManager AlertEngine OperatorRegistry AuthClient HandleClient

variable {D κ : Type} [CDouble D]

/-! ## What a handler reads -/

/-- An argument: the string at its pointer during the update, and when it is logged. -/
structure Argument where
  value : CString
  logged : CString
deriving DecidableEq

def Argument.steady (arg : CString) : Argument := ⟨arg, arg⟩

/-- What a handler reads in one iteration as its message, as the raw text of it, and as the reply
that it logs. -/
structure Heard where
  type : CommandType
  args : List Argument
  rawMessage : Option CString
  response : CString
deriving DecidableEq

def Heard.parsed (heard : Heard) : Parsed := ⟨heard.type, heard.args.map (·.value)⟩

/-- The arguments of the own chunk. -/
def ownArgs (chunk : Chunk) : List Argument := (ownParse chunk).args.map .steady

/-- What a handler reads when the tokenizer and the buffers serve it alone. -/
def ownWords (env : Env) (client : Client κ) (chunk : Chunk) (s : ServerState D κ) : Heard where
  type := (ownParse chunk).type
  args := ownArgs chunk
  rawMessage := rawMessage chunk.bytes
  response := (respond env client chunk s).response.text

/-! ## The shared data -/

/-- The message of a registration that has taken a slot into use. -/
def registeredMessage (sensorId sensorType : CString) : CString :=
  CString.snprintf 128 (.lit "Sensor registered: " ++ sensorId ++ .lit " (" ++ sensorType ++
    .lit ")")

/-- The call of `sensor_manager_register`. -/
def registerCalls (sensorType sensorId : Argument) (table : SensorTable D) : List LogCall :=
  match findSensor table sensorId.value with
  | some _ => [loggerEvent .info (some (.lit "0.0.0.0")) 0 (some (.lit "Sensor already registered"))
      (some sensorId.logged)]
  | none =>
    if table.count < maxSensors then
      [loggerInfo (registeredMessage sensorId.logged sensorType.logged)]
    else [loggerError (.lit "Maximum number of sensors reached")]

/-- The call of `sensor_manager_add_measurement`. -/
def addMeasurementCalls (sensorId : Argument) (value : D) (unit : Argument)
    (table : SensorTable D) : List LogCall :=
  match findSensor table sensorId.value with
  | some _ => [loggerInfo (CString.snprintf 128 (.lit "Measurement from " ++ sensorId.logged ++
      .lit ": " ++ CDouble.fixed2 value ++ .lit " " ++ unit.logged))]
  | none => [loggerError (.lit "Measurement received from unregistered sensor")]

/-- The message of `add_active_alert`. -/
def triggeredMessage (sensorId : CString) (call : AlertCall D) : CString :=
  CString.snprintf 256 (.lit "ALERT TRIGGERED: " ++ sensorId ++ .lit " - " ++ call.message ++
    .lit " (" ++ CDouble.fixed2 call.value ++ .lit ")")

/-- The calls of `alert_engine_check_measurement`. -/
def checkMeasurementCalls (now : Fin maxAlerts → ℤ) (sensorId : Argument) (sensorType : CString)
    (value : D) (engine : Engine D) : List LogCall :=
  (checkMeasurement now sensorId.value sensorType value engine).2.map fun call ↦
    loggerError (triggeredMessage sensorId.logged call)

/-- The call of `register_operator`. -/
def registerOperatorCalls (registry : Registry κ) : List LogCall :=
  if registry.count < maxOperators then [loggerInfo (.lit "Operator registered for alerts")] else []

/-! ## The commands -/

/-- `case CMD_REGISTER_SENSOR`. -/
def registerSensorCalls (args : List Argument) (s : ServerState D κ) : List LogCall :=
  match args with
  | sensorId :: sensorType :: _ => registerCalls sensorType sensorId s.sensors
  | _ => []

/-- The first update of a MEASUREMENT. -/
def storeCalls (args : List Argument) (s : ServerState D κ) : List LogCall :=
  match args with
  | sensorId :: valueText :: unit :: _ =>
    addMeasurementCalls sensorId (CDouble.atof valueText.value : D) unit s.sensors
  | _ => []

/-- The second update of a MEASUREMENT. -/
def checkCalls (env : Env) (args : List Argument) (pointer : Fin maxSensors)
    (s : ServerState D κ) : List LogCall :=
  match args with
  | sensorId :: valueText :: _ :: _ =>
    checkMeasurementCalls env.alertTime sensorId (typeAt s.sensors pointer)
      (CDouble.atof valueText.value : D) s.engine
  | _ => []

/-- `case CMD_MEASUREMENT`. -/
def measurementCalls (env : Env) (args : List Argument) (s : ServerState D κ) : List LogCall :=
  match args with
  | sensorId :: valueText :: unit :: _ =>
    let value : D := CDouble.atof valueText.value
    let added := addMeasurement env.time sensorId.value value unit.value s.sensors
    addMeasurementCalls sensorId value unit s.sensors ++
      if added.2 = 0 then
        match getSensorType sensorId.value added.1 with
        | some pointer =>
          checkMeasurementCalls env.alertTime sensorId (typeAt added.1 pointer) value s.engine
        | none => []
      else []
  | _ => []

omit [CDouble D] in
/-- `case CMD_LOGIN`. -/
def loginCalls (env : Env) (args : List Argument) (s : ServerState D κ) : List LogCall :=
  match verdict env (args.map (·.value)) with
  | some (.accepted _) => registerOperatorCalls s.operators ++
      [loggerInfo (.lit "Operator successfully logged in and registered for alerts")]
  | _ => []

/-- The calls of the functions that the switch calls. -/
def dispatchCalls (env : Env) (type : CommandType) (args : List Argument) (s : ServerState D κ) :
    List LogCall :=
  match type with
  | .registerSensor => registerSensorCalls args s
  | .measurement => measurementCalls env args s
  | .login => loginCalls env args s
  | _ => []

/-- The address of a peer; `printed` says whether `inet_ntop` succeeds. -/
structure Peer where
  address : UInt8 × UInt8 × UInt8 × UInt8
  port : UInt16
  printed : Bool

/-- `inet_ntop` for an IPv4 address. -/
def inetNtop (address : UInt8 × UInt8 × UInt8 × UInt8) : CString :=
  decimal address.1.toNat ++ .lit "." ++ decimal address.2.1.toNat ++ .lit "." ++
    decimal address.2.2.1.toNat ++ .lit "." ++ decimal address.2.2.2.toNat

/-- `client_ip` of the accept loop, and of the handler, which copies it twice. -/
def Peer.clientIp (peer : Peer) : CString :=
  if peer.printed then CString.snprintf 16 (inetNtop peer.address)
  else CString.snprintf 16 (.lit "unknown")

/-- An event of the accept loop or of the handler. -/
def eventCall (peer : Peer) (event : LogEvent) : LogCall :=
  loggerEvent event.level (some peer.clientIp) peer.port.toNat event.message (some event.response)

/-- The event of the switch itself. -/
def identifyEvents (type : CommandType) : List LogEvent :=
  if type = .operatorIdentify then
    [⟨.info, some (.lit "OPERATOR_IDENTIFY"), .lit "Operator supervisor connected"⟩]
  else []

/-- The events of the send and of what follows it. -/
def sendEvents (sent : Bool) (rawMessage : Option CString) (response : CString) : List LogEvent :=
  let result := sendCompleteResponse sent rawMessage
  if result.2 = 0 then result.1 ++ [⟨.info, rawMessage, response⟩] else result.1

/-- All calls of one iteration. -/
def iterationCalls (peer : Peer) (env : Env) (sent : Bool) (heard : Heard) (s : ServerState D κ) :
    List LogCall :=
  dispatchCalls env heard.type heard.args s ++
    (identifyEvents heard.type ++ sendEvents sent heard.rawMessage heard.response).map
      (eventCall peer)

/-- A handler that reads its own words logs the events of its round. -/
theorem identify_send_eq_roundEvents (client : Client κ) (round : Round) (s : ServerState D κ) :
    let heard := ownWords round.env client round.chunk s
    identifyEvents heard.type ++ sendEvents round.sent heard.rawMessage heard.response =
      roundEvents client round s := by
  have hswitch : identifyEvents round.chunk.message.type = switchEvents round.chunk.bytes := by
    simp only [switchEvents, round.chunk.protocolParse_eq, identifyEvents]
  rw [roundEvents, ← hswitch]
  rfl

/-! ## Around the receive loop -/

/-- What `handle_client` logs before its loop; `configured` says whether the receive timeout could
be set. -/
def startedCalls (peer : Peer) (configured : Bool) : List LogCall :=
  (if configured then [] else [loggerError (.lit "Failed to configure receive timeout")]) ++
    [eventCall peer ⟨.info, some (.lit "Connection started"), .lit "type=unknown"⟩]

/-- What `handle_client` logs behind its loop, once for each of the two tests of `bytes_received`;
`closed` says whether it is zero. -/
def finishedCalls (peer : Peer) (closed : Bool) : List LogCall :=
  let event := eventCall peer
    ⟨.info, some (.lit (if closed then "Client disconnected" else "Receive error or timeout")), ∅⟩
  [event, event]

/-- The reasons for which the accept loop gives up a connection. -/
inductive AcceptError where
  | network
  | memory
  | thread
deriving DecidableEq

def AcceptError.message : AcceptError → CString
  | network => .lit "Network error accepting client; server continues"
  | memory => .lit "Error allocating memory for client"
  | thread => .lit "Error creating thread"

/-- What the accept loop logs of a connection. -/
def incomingCalls (peer : Peer) : List LogCall :=
  [eventCall peer ⟨.info, some (.lit "Incoming connection"), ∅⟩]

/-! ## One line for each call -/

theorem single_lit {text : String} (h : (CString.lit text).bytes.all (! isLineEnd ·)) :
    Single (.lit text) := single_of_lineSafe (CString.lineSafe_lit h)

/-- An event is one line when its message is line-safe and its response is a single text. -/
theorem single_event {level : LogLevel} {ip message response : Option CString} (port : ℤ)
    (hip : (ip.getD (.lit "unknown")).LineSafe) (hmessage : (message.getD ∅).LineSafe)
    (hresponse : Single (response.getD ∅)) :
    Single (loggerEvent level ip port message response).text := by
  have hfront : (CString.lit "IP=").LineSafe := CString.lineSafe_lit (by decide)
  have hport : (CString.lit " Port=").LineSafe := CString.lineSafe_lit (by decide)
  have htext : (CString.lit " Message=").LineSafe := CString.lineSafe_lit (by decide)
  have hreply : (CString.lit " Response=").LineSafe := CString.lineSafe_lit (by decide)
  exact (Single.append (((((((hfront.append hip).append hport).append
    (lineSafe_decimal port)).append htext).append hmessage).append hreply)) hresponse).cut 1535

theorem lineSafe_clientIp (peer : Peer) : peer.clientIp.LineSafe := by
  have hdot : (CString.lit ".").LineSafe := CString.lineSafe_lit (by decide)
  unfold Peer.clientIp
  split
  · exact (((((((lineSafe_decimal _).append hdot).append (lineSafe_decimal _)).append hdot).append
      (lineSafe_decimal _)).append hdot).append (lineSafe_decimal _)).snprintf 16
  · exact (CString.lineSafe_lit (by decide)).snprintf 16

/-- An event of a connection is one line when its message is line-safe and its response is. -/
theorem single_eventCall (peer : Peer) {event : LogEvent}
    (hmessage : (event.message.getD ∅).LineSafe) (hresponse : Single event.response) :
    Single (eventCall peer event).text :=
  single_event _ (lineSafe_clientIp peer) hmessage hresponse

theorem lineSafe_registeredMessage {sensorId sensorType : CString} (hid : sensorId.LineSafe)
    (htype : sensorType.LineSafe) : (registeredMessage sensorId sensorType).LineSafe :=
  (((((CString.lineSafe_lit (by decide)).append hid).append
    (CString.lineSafe_lit (by decide))).append htype).append
      (CString.lineSafe_lit (by decide))).snprintf 128

theorem lineSafe_triggeredMessage {sensorId : CString} {call : AlertCall D}
    (hid : sensorId.LineSafe) (hmessage : call.message.LineSafe) :
    (triggeredMessage sensorId call).LineSafe :=
  ((((((CString.lineSafe_lit (by decide)).append hid).append
    (CString.lineSafe_lit (by decide))).append hmessage).append
      (CString.lineSafe_lit (by decide))).append (lineSafe_fixed2 _)).append
        (CString.lineSafe_lit (by decide)) |>.snprintf 256

/-- The calls of a check are one line each: the rules and the stored type are line-safe. -/
theorem single_checkMeasurementCalls (now : Fin maxAlerts → ℤ) {sensorId : Argument}
    {sensorType : CString} (hid : sensorId.logged.LineSafe) (htype : sensorType.LineSafe)
    (value : D) {engine : Engine D}
    (hrules : ∀ threshold ∈ engine.thresholds.live, threshold.condition.str.LineSafe) :
    ∀ call ∈ checkMeasurementCalls now sensorId sensorType value engine, Single call.text := by
  intro call hcall
  obtain ⟨alert, halert, rfl⟩ := List.mem_map.mp hcall
  rw [calls_checkMeasurement, List.mem_filterMap] at halert
  obtain ⟨threshold, hthreshold, htriggered⟩ := halert
  obtain ⟨-, -, hmessage⟩ :=
    lineSafe_of_triggered htriggered htype (hrules threshold hthreshold)
  exact single_of_lineSafe (lineSafe_triggeredMessage hid hmessage)

theorem single_addMeasurementCalls {sensorId unit : Argument} (hid : sensorId.logged.LineSafe)
    (hunit : unit.logged.LineSafe) (value : D) (table : SensorTable D) :
    ∀ call ∈ addMeasurementCalls sensorId value unit table, Single call.text := by
  unfold addMeasurementCalls
  split
  · refine List.forall_mem_singleton.mpr (single_of_lineSafe (CString.LineSafe.snprintf ?_ 128))
    exact (((((CString.lineSafe_lit (by decide)).append hid).append
      (CString.lineSafe_lit (by decide))).append (lineSafe_fixed2 value)).append
        (CString.lineSafe_lit (by decide))).append hunit
  · exact List.forall_mem_singleton.mpr (single_lit (by decide))

theorem single_storeCalls {args : List Argument} (hargs : ∀ arg ∈ args, arg.logged.LineSafe)
    (s : ServerState D κ) : ∀ call ∈ storeCalls args s, Single call.text := by
  unfold storeCalls
  split
  · exact single_addMeasurementCalls (hargs _ (by simp)) (hargs _ (by simp)) _ s.sensors
  · simp

omit [CDouble D] in
theorem typeAt_lineSafe {s : ServerState D κ} (h : s.LineSafe) {pointer : Fin maxSensors}
    (hpointer : pointer < s.sensors.count) : (typeAt s.sensors pointer).LineSafe :=
  (h.sensors _ (List.mem_of_getElem? (s.sensors.live_getElem? hpointer))).2.1

theorem single_checkCalls (env : Env) {args : List Argument}
    (hargs : ∀ arg ∈ args, arg.logged.LineSafe) {s : ServerState D κ} (h : s.LineSafe)
    {pointer : Fin maxSensors} (hpointer : pointer < s.sensors.count) :
    ∀ call ∈ checkCalls env args pointer s, Single call.text := by
  unfold checkCalls
  split
  · exact single_checkMeasurementCalls env.alertTime (hargs _ (by simp))
      (typeAt_lineSafe h hpointer) _ h.thresholds
  · simp

/-- The calls of a MEASUREMENT are those of its two updates. -/
theorem measurementCalls_eq (env : Env) (args : List Argument) (s : ServerState D κ) :
    let stored := storeMeasurement env (args.map (·.value)) s
    measurementCalls env args s = storeCalls args s ∨
      ∃ pointer : Fin maxSensors, pointer < stored.sensors.count ∧
        measurementCalls env args s = storeCalls args s ++ checkCalls env args pointer stored := by
  unfold measurementCalls storeCalls
  split
  · rename_i sensorId valueText unit rest
    dsimp only
    split
    · split
      · rename_i pointer hpointer
        exact .inr ⟨pointer, (findSensor_eq_some hpointer).1, rfl⟩
      · exact .inl (List.append_nil _)
    · exact .inl (List.append_nil _)
  · exact .inl rfl

omit [CDouble D] in
theorem single_registerSensorCalls {args : List Argument}
    (hargs : ∀ arg ∈ args, arg.logged.LineSafe)
    (s : ServerState D κ) : ∀ call ∈ registerSensorCalls args s, Single call.text := by
  unfold registerSensorCalls
  split
  · rename_i sensorId sensorType rest
    have hid : sensorId.logged.LineSafe := hargs _ (by simp)
    have htype : sensorType.logged.LineSafe := hargs _ (by simp)
    unfold registerCalls
    split
    · exact List.forall_mem_singleton.mpr (single_event 0 (CString.lineSafe_lit (by decide))
        (CString.lineSafe_lit (by decide)) (single_of_lineSafe hid))
    · split
      · exact List.forall_mem_singleton.mpr
          (single_of_lineSafe (lineSafe_registeredMessage hid htype))
      · exact List.forall_mem_singleton.mpr (single_lit (by decide))
  · simp

omit [CDouble D] in
theorem single_loginCalls (env : Env) (args : List Argument) (s : ServerState D κ) :
    ∀ call ∈ loginCalls env args s, Single call.text := by
  unfold loginCalls registerOperatorCalls
  split
  · refine List.forall_mem_append.mpr ⟨?_, List.forall_mem_singleton.mpr (single_lit (by decide))⟩
    split
    · exact List.forall_mem_singleton.mpr (single_lit (by decide))
    · simp
  · simp

theorem single_dispatchCalls (env : Env) (type : CommandType) {args : List Argument}
    (hargs : ∀ arg ∈ args, arg.value.LineSafe ∧ arg.logged.LineSafe) {s : ServerState D κ}
    (h : s.LineSafe) :
    ∀ call ∈ dispatchCalls env type args s, Single call.text := by
  have hlogged : ∀ arg ∈ args, arg.logged.LineSafe := fun arg harg ↦ (hargs arg harg).2
  have hvalue : ∀ arg ∈ args.map (·.value), arg.LineSafe :=
    List.forall_mem_map.mpr fun arg harg ↦ (hargs arg harg).1
  unfold dispatchCalls
  split
  · exact single_registerSensorCalls hlogged s
  · obtain heq | ⟨pointer, hpointer, heq⟩ := measurementCalls_eq env args s
    · exact heq ▸ single_storeCalls hlogged s
    · rw [heq]
      exact List.forall_mem_append.mpr ⟨single_storeCalls hlogged s,
        single_checkCalls env hlogged (h.store env hvalue) hpointer⟩
  · exact single_loginCalls env args s
  · simp

theorem lineSafe_ownArgs {chunk : Chunk} {arg : Argument} (harg : arg ∈ ownArgs chunk) :
    arg.value.LineSafe ∧ arg.logged.LineSafe := by
  obtain ⟨text, htext, rfl⟩ := List.mem_map.mp harg
  exact ⟨chunk.lineSafe_of_mem_args htext, chunk.lineSafe_of_mem_args htext⟩

/-! ## Replies -/

theorem single_of_framed {message payload : CString} (h : Framed message payload) :
    Single message := by
  obtain ⟨line, hmessage, hline, -, -⟩ := h
  refine ⟨line ++ [13], ?_, .inr (by simp [hmessage])⟩
  rw [List.mem_append, not_or]
  exact ⟨fun hmem ↦ absurd (hline 10 hmem) (by decide), by decide⟩

/-- A listing may lose its line end, but it has no other one. -/
theorem single_buildListing {keyword : CString} {records : List CString}
    (hkeyword : keyword.LineSafe) (hsafe : ∀ record ∈ records, record.LineSafe) :
    Single (buildLine (keyword ++ listing 1024 records)) := by
  refine Single.buildLine (hkeyword.append ?_) 512
  rw [listing_eq_concat]
  exact CString.lineSafe_concat fun record hrecord ↦
    hsafe record (keptRecords_subset 1024 0 records hrecord)

/-- Whatever the command, the response has no line feed before its end. -/
theorem single_response (env : Env) (client : Client κ) (chunk : Chunk) {s : ServerState D κ}
    (h : s.LineSafe) : Single (respond env client chunk s).response.text := by
  have hlit {code desc : String} (hcode : (CString.lit code).bytes.all (! isLineEnd ·))
      (hdesc : (CString.lit desc).bytes.all (! isLineEnd ·)) : Single (error code desc).text :=
    Single.buildLine ((((CString.lineSafe_lit (by decide)).append
      (CString.lineSafe_lit hcode)).append (CString.lineSafe_lit (by decide))).append
        (CString.lineSafe_lit hdesc)) 512
  rw [respond_eq]
  cases chunk.message.type with
  | getSensors =>
    refine single_buildListing (CString.lineSafe_lit (by decide)) fun record hrecord ↦ ?_
    obtain ⟨sensor, hsensor, rfl⟩ := List.mem_map.mp hrecord
    exact lineSafe_sensorRecord (h.sensors sensor (List.mem_of_mem_filter hsensor))
  | getAlerts =>
    refine single_buildListing (CString.lineSafe_lit (by decide)) fun record hrecord ↦ ?_
    obtain ⟨alert, halert, rfl⟩ := List.mem_map.mp hrecord
    exact lineSafe_alertRecord (h.alerts alert (List.mem_of_mem_filter halert))
  | ping => exact single_of_framed framed_pong
  | login => exact single_of_framed (framed_login env client _ s)
  | registerSensor => exact single_of_framed (framed_registerSensor env _ s)
  | measurement => exact single_of_framed (framed_measurement env _ s)
  | operatorIdentify =>
    exact Single.buildLine ((CString.lineSafe_lit (by decide)).append
      (CString.lineSafe_lit (by decide))) 512
  | getStatus =>
    exact Single.buildLine ((CString.lineSafe_lit (by decide)).append
      ((CString.lineSafe_lit (by decide)).snprintf 128)) 512
  | unknown => exact hlit (by decide) (by decide)

/-- The raw message has no line end. -/
theorem lineSafe_rawMessage (chunk : Chunk) : ((rawMessage chunk.bytes).getD ∅).LineSafe := by
  obtain ⟨message, hmessage, hbytes⟩ := rawMessage_chunk chunk
  intro b hb
  rw [hmessage, Option.getD_some, hbytes] at hb
  have hline := lineOf_noLineEnd chunk.bytes b ((isLeadingWord_leadingWord _).1.mem hb)
  exact Bool.not_eq_true _ ▸ hline

/-- The events of a send are one line each. -/
theorem single_sendEvents (peer : Peer) (sent : Bool) {rawMessage : Option CString}
    {response : CString} (hmessage : (rawMessage.getD ∅).LineSafe) (h : Single response) :
    ∀ call ∈ (sendEvents sent rawMessage response).map (eventCall peer), Single call.text := by
  rw [List.forall_mem_map]
  cases sent with
  | true => exact List.forall_mem_singleton.mpr (single_eventCall peer hmessage h)
  | false =>
    exact List.forall_mem_singleton.mpr (single_eventCall peer hmessage (single_lit (by decide)))

/-- All calls of an iteration with the own words are one line each. -/
theorem single_iterationCalls (peer : Peer) (client : Client κ) (round : Round)
    {s : ServerState D κ} (h : s.LineSafe) :
    ∀ call ∈ iterationCalls peer round.env round.sent (ownWords round.env client round.chunk s) s,
      Single call.text := by
  unfold iterationCalls
  rw [List.map_append]
  refine List.forall_mem_append.mpr ⟨?_, List.forall_mem_append.mpr ⟨?_, ?_⟩⟩
  · exact single_dispatchCalls round.env _ (fun arg harg ↦ lineSafe_ownArgs harg) h
  · rw [List.forall_mem_map]
    unfold identifyEvents
    split
    · exact List.forall_mem_singleton.mpr
        (single_eventCall peer (CString.lineSafe_lit (by decide)) (single_lit (by decide)))
    · simp
  · exact single_sendEvents peer round.sent (lineSafe_rawMessage round.chunk)
      (single_response round.env client round.chunk h)

end IotMonitoring.Server.Logger
