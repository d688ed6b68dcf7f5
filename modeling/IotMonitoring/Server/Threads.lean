import IotMonitoring.Server.RegisteredType
import IotMonitoring.Server.SharedTokenizer

/-!
# Handlers with any arguments

All handlers tokenize with one `strtok` pointer, and the arguments of a message are pointers into a
buffer that its handler uses again for the next one. Unless a parse is isolated, what a handler
reads as its message can be anything. Here the calls of the handlers take any command and any
arguments. The calls that read the message of their own chunk are the steps of the server.
-/

namespace IotMonitoring.Server.HandleClient

open Text Machine Protocol SensorManager AlertEngine OperatorRegistry

variable {D κ : Type} [CDouble D]

/-- What a handler reads as its message. -/
structure Parsed where
  type : CommandType
  args : List CString
deriving DecidableEq

/-- What it reads when no other thread has parsed or received meanwhile. -/
def ownParse (chunk : Chunk) : Parsed := ⟨chunk.message.type, chunk.message.argStrings⟩

/-- A handler that has parsed in isolation reads the message of its own chunk. -/
theorem parsed_of_isolated {ι : Type*} {s : SharedTokenizer.State ι} {i : ι} {chunk : Chunk}
    (h : SharedTokenizer.Isolated s i chunk) {parsed : Parsed}
    (houtcome : s.outcome i = some (parsed.type, parsed.args)) : parsed = ownParse chunk := by
  obtain ⟨htype, hargs, -⟩ := h parsed.type parsed.args houtcome
  rw [ownParse, ← htype, ← hargs]

/-- The calls of handlers on the shared data. -/
inductive HandlerCall (κ : Type) where
  | command (env : Env) (client : Client κ) (parsed : Parsed)
  | store (env : Env) (args : List CString)
  | check (env : Env) (args : List CString) (pointer : Fin maxSensors)
  | disconnect (client : Client κ)

/-- The call that reads the message of its own chunk. -/
def Event.call : Event κ → HandlerCall κ
  | request env client chunk => .command env client (ownParse chunk)
  | store env chunk => .store env (ownParse chunk).args
  | check env chunk pointer => .check env (ownParse chunk).args pointer
  | disconnect client => .disconnect client

/-- The handlers as a machine over the shared data, whatever they read. -/
def threads (D κ : Type) [CDouble D] : Labelled (ServerState D κ) (HandlerCall κ) where
  step s call :=
    match call with
    | .command env client parsed => some (dispatch env client parsed.type parsed.args s).state
    | .store env args => some (storeMeasurement env args s)
    | .check env args pointer =>
      if pointer < s.sensors.count then some (checkStored env args pointer s) else none
    | .disconnect client =>
      some { s with operators := removeOperator client.fd s.operators }

theorem threads_step_call (s : ServerState D κ) (event : Event κ) :
    (threads D κ).step s event.call = (server D κ).step s event := by
  cases event with
  | request env client chunk =>
    simp only [threads, server, Event.call, ownParse, respond_eq]
  | store => rfl
  | check => rfl
  | disconnect => rfl

/-- Whatever the handlers read, the directory of sensors only grows. -/
theorem directory_call {s t : ServerState D κ} {call : HandlerCall κ}
    (hstep : (threads D κ).step s call = some t) :
    directory s.sensors <+: directory t.sensors := by
  cases call with
  | command env client parsed =>
    obtain rfl := Option.some.inj hstep
    by_cases hregister : parsed.type = .registerSensor
    · simp only [hregister, dispatch]
      unfold registerSensor
      split
      · rename_i sensorId sensorType rest _
        have hgrow := directory_register env.time sensorType sensorId s.sensors
        dsimp only
        split <;> exact hgrow
      · exact List.prefix_refl _
    · exact directory_dispatch hregister env client parsed.args s ▸ List.prefix_refl _
  | store env args =>
    obtain rfl := Option.some.inj hstep
    exact directory_store env args s ▸ List.prefix_refl _
  | check env args pointer =>
    obtain ⟨-, rfl⟩ := Option.ite_some_none_eq_some.mp hstep
    exact sensors_check env args pointer s ▸ List.prefix_refl _
  | disconnect client =>
    obtain rfl := Option.some.inj hstep
    exact List.prefix_refl _

end IotMonitoring.Server.HandleClient
