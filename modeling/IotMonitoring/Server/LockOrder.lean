import IotMonitoring.Machine.Mutexes
import IotMonitoring.Server.AlertLine

/-!
# The order of the locks

The functions of the server lock `operator_mutex`, the write mutex of a connection, `sensor_mutex`,
`alert_mutex` and the mutex of the logger, some of them while they hold another one: a registration
and the alert engine log under their mutexes, a failed send logs under the write mutex, and a
broadcast takes one write mutex after the other under `operator_mutex`. All of them lock in the
order of one rank, so no handler ever waits for itself, directly or through other handlers.
-/

namespace IotMonitoring.Server.LockOrder

open Text Machine Mutexes Protocol SensorManager AlertEngine OperatorRegistry AuthClient
  HandleClient

/-- The mutexes of the server; a write mutex is named by the context it lies in. -/
inductive Mutex (κ : Type) where
  | operator
  | write (context : κ)
  | sensor
  | alert
  | logger
deriving DecidableEq

abbrev Operations (κ : Type) := List (Operation (Mutex κ))

variable {D κ : Type}

/-! ## The functions -/

/-- `logger_write` and `logger_write_event`, and so `logger_info`, `logger_error` and
`logger_event`. -/
def loggerWrite : Operations κ := critical .logger []

/-- `logger_init` and `logger_close`. -/
def loggerInit : Operations κ := critical .logger []

/-- `sensor_manager_init`, `sensor_manager_cleanup`, and each branch of `sensor_manager_register`
and `sensor_manager_add_measurement`: the mutex is released before the call is logged. -/
def sensorManagerUpdate : Operations κ := critical .sensor [] ++ loggerWrite

/-- `sensor_manager_get_active_sensors`, `sensor_manager_is_sensor_registered` and
`sensor_manager_get_sensor_type`. -/
def sensorManagerRead : Operations κ := critical .sensor []

/-- `alert_engine_init` and `alert_engine_cleanup`. -/
def alertEngineInit : Operations κ := critical .alert [] ++ loggerWrite

/-- `alert_engine_register_threshold`, which logs under `alert_mutex` unless it fails. -/
def alertEngineRegisterThreshold (sensorType : CString) (engine : Engine D) : Operations κ :=
  if engine.thresholds.count ≥ maxAlerts then loggerWrite
  else if sensorType.length = 0 then loggerWrite
  else critical .alert loggerWrite

/-- `alert_engine_check_measurement`: every call of `add_active_alert` logs. -/
def alertEngineCheckMeasurement [CDouble D] (now : Fin maxAlerts → ℤ)
    (sensorId sensorType : CString) (value : D) (engine : Engine D) : Operations κ :=
  critical .alert
    ((checkMeasurement now sensorId sensorType value engine).2.flatMap fun _ ↦ loggerWrite)

/-- `alert_engine_get_active_alerts`. -/
def alertEngineGetActiveAlerts : Operations κ := critical .alert []

/-- `alert_engine_resolve_alert`: every alert that is resolved is logged. -/
def alertEngineResolveAlert (sensorId : CString) (engine : Engine D) : Operations κ :=
  critical .alert ((List.range (resolveAlert sensorId engine).2).flatMap fun _ ↦ loggerWrite)

/-- `register_operator`, which logs when there is room. -/
def registerOperator (registry : Registry κ) : Operations κ :=
  critical .operator (if registry.count < maxOperators then loggerWrite else [])

/-- `remove_operator`. -/
def removeOperator : Operations κ := critical .operator []

/-- `broadcast_alert`. -/
def broadcastAlert (registry : Registry κ) : Operations κ :=
  critical .operator
    ((broadcastTargets registry).flatMap fun target ↦ critical (.write target.2) [])

/-- `send_complete_response`, whose error path logs. -/
def sendCompleteResponse (sent : Bool) : Operations κ := if sent then [] else loggerWrite

/-- What a round of the receive loop finds: the chunk, the environment, whether the reply can be
sent, and the shared data as each call finds them when its turn comes. -/
structure Turn (D κ : Type) where
  env : Env
  chunk : Chunk
  sent : Bool
  stored : SensorTable D
  typed : SensorTable D
  engine : Engine D
  registry : Registry κ

variable [CDouble D]

/-- `case CMD_MEASUREMENT`. -/
def measurement (turn : Turn D κ) (args : List CString) : Operations κ :=
  match args with
  | sensorId :: valueText :: unit :: _ =>
    let value : D := CDouble.atof valueText
    sensorManagerUpdate ++
      if (addMeasurement turn.env.time sensorId value unit turn.stored).2 = 0 then
        sensorManagerRead ++
          match getSensorType sensorId turn.typed with
          | some pointer =>
            let sensorType := typeAt turn.typed pointer
            alertEngineCheckMeasurement turn.env.alertTime sensorId sensorType value turn.engine ++
              if (checkMeasurement turn.env.alertTime sensorId sensorType value
                  turn.engine).2.length > 0 then
                broadcastAlert turn.registry
              else []
          | none => []
      else []
  | _ => []

omit [CDouble D] in
/-- `case CMD_LOGIN`. -/
def login (turn : Turn D κ) (args : List CString) : Operations κ :=
  match args with
  | username :: password :: _ =>
    match authClientVerify turn.env.authService username password 64 with
    | .accepted _ => registerOperator turn.registry ++ loggerWrite
    | _ => []
  | _ => []

/-- The switch over the command. -/
def dispatch (turn : Turn D κ) (type : CommandType) (args : List CString) : Operations κ :=
  match type with
  | .registerSensor => if args.length ≥ 2 then sensorManagerUpdate else []
  | .measurement => measurement turn args
  | .login => login turn args
  | .operatorIdentify => loggerWrite
  | .getSensors => sensorManagerRead
  | .getAlerts => alertEngineGetActiveAlerts
  | .ping | .getStatus | .unknown => []

/-- The body of the receive loop. The reply is sent under the write mutex of the connection. -/
def round (context : κ) (turn : Turn D κ) : Operations κ :=
  dispatch turn turn.chunk.message.type turn.chunk.message.argStrings ++
    critical (.write context) (sendCompleteResponse turn.sent) ++
      if turn.sent then loggerWrite else []

/-- The receive loop, which ends when a reply cannot be sent or nothing more is received. -/
def receiveLoop (context : κ) : List (Turn D κ) → Operations κ
  | [] => []
  | turn :: turns =>
    round context turn ++ if turn.sent then receiveLoop context turns else []

/-- `handle_client`. Where the receive timeout cannot be configured, that is logged. -/
def handleClient (context : κ) (configured : Bool) (turns : List (Turn D κ)) : Operations κ :=
  (if configured then [] else loggerWrite) ++ loggerWrite ++ receiveLoop context turns ++
    loggerWrite ++ loggerWrite ++ removeOperator

/-- The calls of `main` and of the accept loop, and those that no command makes. -/
inductive Call (D : Type) where
  | log
  | loggerInit
  | sensorManagerUpdate
  | sensorManagerRead
  | alertEngineInit
  | registerThreshold (sensorType : CString) (engine : Engine D)
  | resolveAlert (sensorId : CString) (engine : Engine D)

omit [CDouble D] in
def Call.operations : Call D → Operations κ
  | log => loggerWrite
  | loggerInit => LockOrder.loggerInit
  | sensorManagerUpdate => LockOrder.sensorManagerUpdate
  | sensorManagerRead => LockOrder.sensorManagerRead
  | alertEngineInit => LockOrder.alertEngineInit
  | registerThreshold sensorType engine => alertEngineRegisterThreshold sensorType engine
  | resolveAlert sensorId engine => alertEngineResolveAlert sensorId engine

/-- What a thread runs: a handler, or a series of other calls. -/
inductive Program (D κ : Type) where
  | handler (context : κ) (configured : Bool) (turns : List (Turn D κ))
  | calls (series : List (Call D))

def Program.operations : Program D κ → Operations κ
  | handler context configured turns => handleClient context configured turns
  | .calls series => series.flatMap Call.operations

/-! ## The rank -/

/-- Every mutex is locked only while those of lower rank are held. -/
def Mutex.rank : Mutex κ → ℕ
  | operator => 0
  | write _ => 1
  | sensor => 1
  | alert => 1
  | logger => 2

omit [CDouble D] in
theorem fits_loggerWrite {held : List (Mutex κ)} (hbelow : ∀ other ∈ held, other.rank < 2) :
    Fits Mutex.rank held loggerWrite :=
  .critical hbelow .nil

/-- Only one mutex is held, or none, and it is not that of the logger. -/
theorem fits_loggerWrite_nil : Fits Mutex.rank [] (loggerWrite : Operations κ) :=
  fits_loggerWrite nofun

theorem fits_loggerWrite_singleton {mutex : Mutex κ} (hbelow : mutex.rank < 2) :
    Fits Mutex.rank [mutex] loggerWrite :=
  fits_loggerWrite (List.forall_mem_singleton.mpr hbelow)

theorem fits_critical {mutex : Mutex κ} {body : Operations κ}
    (hbody : Fits Mutex.rank [mutex] body) : Fits Mutex.rank [] (critical mutex body) :=
  .critical nofun hbody

/-- The alert engine logs, once for each item, under its mutex. -/
theorem fits_alertsLogged {α : Type} (items : List α) :
    Fits Mutex.rank [] (critical .alert (items.flatMap fun _ ↦ loggerWrite) : Operations κ) :=
  fits_critical (.flatMap fun _ _ ↦ fits_loggerWrite_singleton Nat.one_lt_two)

theorem fits_sensorManagerUpdate : Fits Mutex.rank [] (sensorManagerUpdate : Operations κ) :=
  (fits_critical .nil).append fits_loggerWrite_nil

theorem fits_sensorManagerRead : Fits Mutex.rank [] (sensorManagerRead : Operations κ) :=
  fits_critical .nil

theorem fits_alertEngineInit : Fits Mutex.rank [] (alertEngineInit : Operations κ) :=
  (fits_critical .nil).append fits_loggerWrite_nil

omit [CDouble D] in
theorem fits_alertEngineRegisterThreshold (sensorType : CString) (engine : Engine D) :
    Fits Mutex.rank [] (alertEngineRegisterThreshold sensorType engine : Operations κ) := by
  unfold alertEngineRegisterThreshold
  split_ifs
  · exact fits_loggerWrite_nil
  · exact fits_loggerWrite_nil
  · exact fits_critical (fits_loggerWrite_singleton Nat.one_lt_two)

theorem fits_registerOperator (registry : Registry κ) :
    Fits Mutex.rank [] (registerOperator registry) := by
  refine fits_critical ?_
  split_ifs
  · exact fits_loggerWrite_singleton Nat.zero_lt_two
  · exact .nil

theorem fits_broadcastAlert (registry : Registry κ) :
    Fits Mutex.rank [] (broadcastAlert registry) := by
  refine fits_critical (.flatMap fun target _ ↦ .critical ?_ .nil)
  exact List.forall_mem_singleton.mpr Nat.zero_lt_one

theorem fits_measurement (turn : Turn D κ) (args : List CString) :
    Fits Mutex.rank [] (measurement turn args) := by
  unfold measurement
  split
  · refine fits_sensorManagerUpdate.append ?_
    split_ifs
    · refine fits_sensorManagerRead.append ?_
      split
      · refine (fits_alertsLogged _).append ?_
        split_ifs
        · exact fits_broadcastAlert turn.registry
        · exact .nil
      · exact .nil
    · exact .nil
  · exact .nil

omit [CDouble D] in
theorem fits_login (turn : Turn D κ) (args : List CString) :
    Fits Mutex.rank [] (login turn args) := by
  unfold login
  split
  · split
    · exact (fits_registerOperator turn.registry).append fits_loggerWrite_nil
    · exact .nil
  · exact .nil

theorem fits_dispatch (turn : Turn D κ) (type : CommandType) (args : List CString) :
    Fits Mutex.rank [] (dispatch turn type args) := by
  cases type with
  | registerSensor =>
    simp only [dispatch]
    split_ifs
    · exact fits_sensorManagerUpdate
    · exact .nil
  | measurement => exact fits_measurement turn args
  | login => exact fits_login turn args
  | operatorIdentify => exact fits_loggerWrite_nil
  | getSensors => exact fits_sensorManagerRead
  | getAlerts => exact fits_critical .nil
  | ping => exact .nil
  | getStatus => exact .nil
  | unknown => exact .nil

theorem fits_round (context : κ) (turn : Turn D κ) : Fits Mutex.rank [] (round context turn) := by
  have hsend : Fits Mutex.rank [.write context] (sendCompleteResponse turn.sent) := by
    unfold sendCompleteResponse
    split_ifs
    · exact .nil
    · exact fits_loggerWrite_singleton Nat.one_lt_two
  refine ((fits_dispatch turn _ _).append (fits_critical hsend)).append ?_
  split_ifs
  · exact fits_loggerWrite_nil
  · exact .nil

theorem fits_receiveLoop (context : κ) (turns : List (Turn D κ)) :
    Fits Mutex.rank [] (receiveLoop context turns) := by
  induction turns with
  | nil => exact .nil
  | cons turn turns ih =>
    refine (fits_round context turn).append ?_
    split_ifs
    · exact ih
    · exact .nil

theorem fits_handleClient (context : κ) (configured : Bool) (turns : List (Turn D κ)) :
    Fits Mutex.rank [] (handleClient context configured turns) := by
  have hconfigure : Fits Mutex.rank [] (if configured then [] else loggerWrite : Operations κ) := by
    split_ifs
    · exact .nil
    · exact fits_loggerWrite_nil
  exact ((((hconfigure.append fits_loggerWrite_nil).append (fits_receiveLoop context turns)).append
    fits_loggerWrite_nil).append fits_loggerWrite_nil).append (fits_critical .nil)

omit [CDouble D] in
theorem fits_call (call : Call D) : Fits Mutex.rank [] (call.operations : Operations κ) := by
  cases call with
  | log => exact fits_loggerWrite_nil
  | loggerInit => exact fits_critical .nil
  | sensorManagerUpdate => exact fits_sensorManagerUpdate
  | sensorManagerRead => exact fits_sensorManagerRead
  | alertEngineInit => exact fits_alertEngineInit
  | registerThreshold sensorType engine => exact fits_alertEngineRegisterThreshold sensorType engine
  | resolveAlert sensorId engine => exact fits_alertsLogged _

/-- Every thread locks in the order of the rank. -/
theorem ordered_operations (program : Program D κ) :
    Ordered Mutex.rank [] (program.operations : Operations κ) := by
  cases program with
  | handler context configured turns => exact (fits_handleClient context configured turns).ordered
  | calls series => exact (Fits.flatMap fun call _ ↦ fits_call call).ordered

/-- However the handlers and the other threads interleave, and whatever each call finds, no thread
waits for a mutex that it holds, and there is no cycle of threads that wait for each other. -/
theorem no_deadlock {ι : Type} [DecidableEq ι] [DecidableEq κ] (program : ι → Program D κ)
    {s : State ι (Mutex κ)}
    (hreach : (threads ι (Mutex κ)).Reachable (start fun i ↦ (program i).operations) s) (i : ι) :
    ¬ WaitsFor s i i ∧ ¬ Relation.TransGen (WaitsFor s) i i := by
  have hcycle := not_waits_cycle (fun i ↦ ordered_operations (program i)) hreach i
  exact ⟨fun hself ↦ hcycle (.single hself), hcycle⟩

/-! ## An alert that comes back to its sender -/

/-- A measurement of 60 degrees, sent by the operator that is registered for the alerts. -/
def alarmingTurn : Turn ℚ ℕ where
  env := sensorEnv
  chunk := measurementChunk 1
  sent := true
  stored := (register 0 (.lit "temperature") (.lit "s1") SensorManager.init).1
  typed := (register 0 (.lit "temperature") (.lit "s1") SensorManager.init).1
  engine := (serverInit 0 : ServerState ℚ ℕ).engine
  registry := OperatorRegistry.registerOperator 5 0 OperatorRegistry.init

/-- Two connections whose handlers each receive such a measurement. -/
def twoHandlers (context : Fin 2) : Program ℚ ℕ := .handler context true [alarmingTurn]

/-- The first handler broadcasts to its own connection and the second one waits for it. -/
theorem no_deadlock_own_alert :
    ∃ s, (threads (Fin 2) (Mutex ℕ)).run (start fun i ↦ (twoHandlers i).operations)
        (List.replicate 14 1 ++ List.replicate 16 0) = some s ∧
      s.owner .operator = some 0 ∧ s.owner (.write 0) = some 0 ∧ WaitsFor s 1 0 ∧
      ∀ i, ¬ WaitsFor s i i ∧ ¬ Relation.TransGen (WaitsFor s) i i := by
  obtain ⟨s, hrun, hs⟩ : ∃ s, (threads (Fin 2) (Mutex ℕ)).run
      (start fun i ↦ (twoHandlers i).operations)
        (List.replicate 14 1 ++ List.replicate 16 0) = some s ∧
      (s.owner .operator, s.owner (.write 0), (s.rest 1).head?) =
        (some 0, some 0, some (.lock .operator)) :=
    Option.map_eq_some_iff.mp (by decide +kernel)
  obtain ⟨hoperator, hpair⟩ := Prod.mk.inj hs
  obtain ⟨hwrite, hhead⟩ := Prod.mk.inj hpair
  obtain ⟨rest, hrest⟩ := List.head?_eq_some_iff.mp hhead
  exact ⟨s, hrun, hoperator, hwrite, ⟨.operator, rest, hrest, hoperator⟩,
    no_deadlock twoHandlers ⟨_, hrun⟩⟩

end IotMonitoring.Server.LockOrder
