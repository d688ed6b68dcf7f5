import IotMonitoring.Machine.Ownership
import IotMonitoring.Server.LogFile
import Mathlib.Data.Bool.AllAny

/-!
# Starting the server, and what its threads own

`main` checks its arguments, prepares the tables and calls `start_server`, which opens the log and
the listening socket and then accepts connections until the process ends. Every connection gets a
block of memory with its context and a thread that runs `handle_client`; a LOGIN opens up to two
sockets to the authentication service, one after the other. Here every call that may fail does so
as it likes. On every path and in every interleaving of the threads, a descriptor is closed and a
block is freed exactly once, by the thread that owns it. The mutex in a context is taken as a part
of its block.
-/

namespace IotMonitoring.Server.StartServer

open Text Machine AlertEngine HandleClient Logger AuthClient

/-! ## Arguments -/

/-- `strtol` with base 10: the value, kept in the range of `long`, and the length of what was read,
which is 0 without digits. -/
def strtol (text : CString) : ℤ × ℕ :=
  let spaces := text.bytes.takeWhile Rational.isSpace
  let behind := text.bytes.dropWhile Rational.isSpace
  let signed := Rational.splitSign behind
  let digits := signed.2.takeWhile Rational.isDigit
  if digits = [] then (0, 0)
  else
    let value : ℤ := if signed.1 then -(Rational.digitsValue digits : ℤ)
      else Rational.digitsValue digits
    (max (-9223372036854775808) (min 9223372036854775807 value),
      spaces.length + (behind.length - signed.2.length) + digits.length)

/-- The port that `main` takes from its first argument. -/
def portOf (argument : CString) : Option ℤ :=
  let parsed := strtol argument
  if parsed.2 = 0 ∨ parsed.2 ≠ argument.length ∨ parsed.1 < 1 ∨ 65535 < parsed.1 then none
  else some parsed.1

/-! ## The start -/

/-- Which of the calls of `start_server` succeed before its loop; the descriptor of the socket. -/
structure Setup where
  logOpens : Bool
  socket : Option ℤ
  reuseAddr : Bool
  binds : Bool
  listens : Bool

/-- How the start ends: with a return value, or in the accept loop. -/
inductive Launch where
  | exit (code : ℤ)
  | listening (serverFd : ℤ)
deriving DecidableEq

/-- The log calls of the start. -/
def setupCalls (port : ℤ) (setup : Setup) : List LogCall :=
  if setup.socket = none then [loggerError (.lit "Failed to create server socket")]
  else
    (if setup.reuseAddr then [] else [loggerError (.lit "Failed to configure SO_REUSEADDR")]) ++
      if ¬ setup.binds then [loggerError (.lit "Server bind failed")]
      else if ¬ setup.listens then [loggerError (.lit "Server listen failed")]
      else [loggerInfo (CString.snprintf 256 (.lit "Server listening on port " ++
        decimal port))]

/-- `start_server` up to its loop. -/
def launch (setup : Setup) : Launch :=
  if ¬ setup.logOpens then .exit 1
  else
    match setup.socket with
    | none => .exit 1
    | some serverFd =>
      if ¬ setup.binds then .exit 1 else if ¬ setup.listens then .exit 1 else .listening serverFd

/-- The stamps of the log calls of a part of the program, by their place in it. -/
structure Stamps where
  init : ℕ → Stamp
  setup : ℕ → Stamp
  cleanup : ℕ → Stamp

def stamped (stamp : ℕ → Stamp) (calls : List LogCall) : List (Stamp × LogCall) :=
  calls.mapIdx fun i call ↦ (stamp i, call)

def logAll (calls : List (Stamp × LogCall)) (log : LogState) : LogState :=
  calls.foldl (fun log call ↦ loggerWrite call.1 call.2 log) log

/-- The log behind the start: a start that fails closes it again. -/
def startLog (stamp : ℕ → Stamp) (port : ℤ) (logFile : CString) (setup : Setup) (log : LogState) :
    LogState :=
  let opened := loggerInit logFile setup.logOpens log
  if opened.2 ≠ 0 then opened.1
  else
    let logged := logAll (stamped stamp (setupCalls port setup)) opened.1
    match launch setup with
    | .exit _ => loggerClose logged
    | .listening _ => logged

/-! ## The program -/

/-- The call of `alert_engine_register_threshold`. -/
def registerThresholdCalls {D : Type} [CDouble D] (sensorType : CString) (threshold : D)
    (condition : CString) (engine : Engine D) : List LogCall :=
  if engine.thresholds.count < maxAlerts then
    if sensorType.length = 0 then
      [loggerError (.lit "Invalid sensor_type in register_threshold")]
    else
      [loggerInfo (CString.snprintf 128 (.lit "Alert threshold registered for " ++ sensorType ++
        .lit ": " ++ condition ++ .lit " " ++ CDouble.fixed2 threshold))]
  else [loggerError (.lit "Maximum number of alert thresholds reached")]

/-- The calls of `main` before the server starts. -/
def initCalls (D : Type) [CDouble D] (now : ℤ) : List LogCall :=
  let e0 : Engine D := AlertEngine.init
  let e1 := (registerThreshold now (.lit "temperature") (CDouble.ofNat 30) .warning (.lit ">")
    (.lit "Temperature above normal") e0).1
  let e2 := (registerThreshold now (.lit "temperature") (CDouble.ofNat 50) .critical (.lit ">")
    (.lit "Temperature critically high") e1).1
  let e3 := (registerThreshold now (.lit "vibration") (CDouble.ofNat 5) .warning (.lit ">")
    (.lit "Vibration above normal") e2).1
  let e4 := (registerThreshold now (.lit "vibration") (CDouble.ofNat 10) .critical (.lit ">")
    (.lit "Vibration critically high") e3).1
  [loggerInfo (.lit "Sensor manager initialized"), loggerInfo (.lit "Alert engine initialized")] ++
    registerThresholdCalls (.lit "temperature") (CDouble.ofNat 30) (.lit ">") e0 ++
    registerThresholdCalls (.lit "temperature") (CDouble.ofNat 50) (.lit ">") e1 ++
    registerThresholdCalls (.lit "vibration") (CDouble.ofNat 5) (.lit ">") e2 ++
    registerThresholdCalls (.lit "vibration") (CDouble.ofNat 10) (.lit ">") e3 ++
    registerThresholdCalls (.lit "energy") (CDouble.ofNat 500) (.lit ">") e4

/-- The calls of `sensor_manager_cleanup` and `alert_engine_cleanup`. -/
def cleanupCalls : List LogCall :=
  [loggerInfo (.lit "Sensor manager cleaned up"), loggerInfo (.lit "Alert engine cleaned up")]

/-- `main`, for its arguments behind the program name: how it ends, and the log. -/
def main (D : Type) [CDouble D] (stamps : Stamps) (now : ℤ) (arguments : List CString)
    (setup : Setup) (log : LogState) : Launch × LogState :=
  match arguments with
  | [portText, logFile] =>
    match portOf portText with
    | some port =>
      let started := startLog stamps.setup port logFile setup
        (logAll (stamped stamps.init (initCalls D now)) log)
      match launch setup with
      | .exit code => (.exit code, logAll (stamped stamps.cleanup cleanupCalls) started)
      | .listening serverFd => (.listening serverFd, started)
    | none => (.exit 1, log)
  | _ => (.exit 1, log)

/-- A text behind white space starts with a minus, or it is a text behind a plus or nothing. -/
theorem splitSign_cases (text : Bytes) :
    (Rational.splitSign text).1 = true ∨
      (Rational.splitSign text).1 = false ∧ ∃ plus : Bytes, (plus = [] ∨ plus = [43]) ∧
        text = plus ++ (Rational.splitSign text).2 := by
  cases text with
  | nil => exact .inr ⟨rfl, [], .inl rfl, rfl⟩
  | cons b rest =>
    by_cases hminus : b = 45
    · exact .inl (by simp [Rational.splitSign, hminus])
    · by_cases hplus : b = 43
      · exact .inr ⟨by simp [Rational.splitSign, hplus], [43], .inr rfl,
          by simp [Rational.splitSign, hplus]⟩
      · exact .inr ⟨by simp [Rational.splitSign, hminus, hplus], [], .inl rfl,
          by simp [Rational.splitSign, hminus, hplus]⟩

theorem isDigit_range {b : UInt8} (h : Rational.isDigit b) : 48 ≤ b.toNat ∧ b.toNat ≤ 57 := by
  simpa [Rational.isDigit, UInt8.le_iff_toNat_le] using h

theorem splitSign_append {plus digits : Bytes} (hplus : plus = [] ∨ plus = [43])
    (hdigits : ∀ b ∈ digits, Rational.isDigit b) :
    Rational.splitSign (plus ++ digits) = (false, digits) := by
  obtain rfl | rfl := hplus
  · cases digits with
    | nil => rfl
    | cons b rest =>
      have hrange := isDigit_range (hdigits b List.mem_cons_self)
      have hne {c : UInt8} (hc : c.toNat < 48) : b ≠ c := by
        rintro rfl
        omega
      simp [Rational.splitSign, hne (by decide : (45 : UInt8).toNat < 48),
        hne (by decide : (43 : UInt8).toNat < 48)]
  · simp [Rational.splitSign]

/-- Neither a plus nor a digit is white space. -/
theorem not_isSpace_get {plus digits : Bytes} (hplus : plus = [] ∨ plus = [43])
    (hdigits : ∀ b ∈ digits, Rational.isDigit b) (hpos : 0 < (plus ++ digits).length) :
    ¬ Rational.isSpace (plus ++ digits)[0] := by
  obtain rfl | rfl := hplus
  · have hrange := isDigit_range (hdigits _ (List.getElem_mem hpos))
    simp only [List.nil_append] at hrange ⊢
    simp only [Rational.isSpace, decide_eq_true_eq, UInt8.le_iff_toNat_le, not_or, not_and, not_le]
    constructor
    · intro hspace
      rw [hspace] at hrange
      exact absurd hrange.1 (by decide)
    · intro _
      exact lt_of_lt_of_le (by decide : (13 : UInt8).toNat < 48) hrange.1
  · exact (by decide : ¬ Rational.isSpace 43 = true)

/-- The argument is a decimal numeral with at most a plus sign and white space before it, and its
value is a port. -/
def IsPort (argument : CString) (port : ℤ) : Prop :=
  ∃ spaces plus digits : Bytes, argument.bytes = spaces ++ plus ++ digits ∧
    (∀ b ∈ spaces, Rational.isSpace b) ∧ (plus = [] ∨ plus = [43]) ∧ digits ≠ [] ∧
    (∀ b ∈ digits, Rational.isDigit b) ∧ (Rational.digitsValue digits : ℤ) = port ∧ 1 ≤ port ∧
    port ≤ 65535

/-- A text that `strtol` reads to its end without a minus sign is a numeral of this form. -/
theorem exists_numeral_of_strtol {argument : CString} (hread : (strtol argument).2 ≠ 0)
    (hall : (strtol argument).2 = argument.length) (hlow : 1 ≤ (strtol argument).1) :
    ∃ spaces plus digits : Bytes, argument.bytes = spaces ++ plus ++ digits ∧
      (∀ b ∈ spaces, Rational.isSpace b) ∧ (plus = [] ∨ plus = [43]) ∧ digits ≠ [] ∧
      (∀ b ∈ digits, Rational.isDigit b) ∧
      (strtol argument).1 = min 9223372036854775807 (Rational.digitsValue digits : ℤ) := by
  have hsplit : argument.bytes.takeWhile Rational.isSpace ++
      argument.bytes.dropWhile Rational.isSpace = argument.bytes :=
    List.takeWhile_append_dropWhile
  generalize hspaces : argument.bytes.takeWhile Rational.isSpace = spaces at hsplit
  generalize hbehind : argument.bytes.dropWhile Rational.isSpace = behind at hsplit
  simp only [strtol, hspaces, hbehind] at hread hall hlow ⊢
  split at hread
  · exact absurd rfl hread
  · rename_i hdigits
    rw [if_neg hdigits] at hall hlow ⊢
    obtain hminus | ⟨hsign, plus, hplus, htext⟩ := splitSign_cases behind
    · simp only [hminus, if_true] at hlow
      omega
    · -- Nothing follows the digits, since what has been read is as long as the text.
      have hfront : (Rational.splitSign behind).2.takeWhile Rational.isDigit <+:
          (Rational.splitSign behind).2 := List.takeWhile_prefix _
      have hlength : argument.length = spaces.length + behind.length := by
        rw [CString.length, ← hsplit, List.length_append]
      have hbound := congrArg List.length htext
      rw [List.length_append] at hbound
      have hwhole : (Rational.splitSign behind).2.takeWhile Rational.isDigit =
          (Rational.splitSign behind).2 := by
        apply hfront.eq_of_length
        simp only [hlength] at hall
        omega
      refine ⟨spaces, plus, (Rational.splitSign behind).2.takeWhile Rational.isDigit, ?_, ?_,
        hplus, hdigits, fun b hb ↦ List.mem_takeWhile_imp hb, ?_⟩
      · rw [hwhole, List.append_assoc, ← htext, hsplit]
      · exact fun b hb ↦ List.mem_takeWhile_imp (hspaces ▸ hb)
      · simp only [hsign, Bool.false_eq_true, if_false]
        omega

/-- A numeral of this form is read to its end. -/
theorem strtol_of_numeral {argument : CString} {spaces plus digits : Bytes}
    (hbytes : argument.bytes = spaces ++ plus ++ digits)
    (hspaces : ∀ b ∈ spaces, Rational.isSpace b) (hplus : plus = [] ∨ plus = [43])
    (hne : digits ≠ []) (hdigits : ∀ b ∈ digits, Rational.isDigit b) :
    strtol argument =
      (min 9223372036854775807 (Rational.digitsValue digits : ℤ), argument.length) := by
  have hlength : argument.length = spaces.length + (plus.length + digits.length) := by
    rw [CString.length, hbytes, List.append_assoc, List.length_append, List.length_append]
  have htake : argument.bytes.takeWhile Rational.isSpace = spaces := by
    rw [hbytes, List.append_assoc, List.takeWhile_append_of_pos hspaces,
      List.takeWhile_eq_nil_iff.mpr (not_isSpace_get hplus hdigits), List.append_nil]
  have hdrop : argument.bytes.dropWhile Rational.isSpace = plus ++ digits := by
    rw [hbytes, List.append_assoc, List.dropWhile_append_of_pos hspaces,
      List.dropWhile_eq_self_iff.mpr (not_isSpace_get hplus hdigits)]
  have hall : digits.takeWhile Rational.isDigit = digits :=
    List.takeWhile_eq_self_iff.mpr hdigits
  simp only [strtol, htake, hdrop, splitSign_append hplus hdigits, hall, hne, if_false,
    Bool.false_eq_true, List.length_append, hlength]
  ext
  · dsimp only
    omega
  · dsimp only
    omega

theorem portOf_eq_some_iff {argument : CString} {port : ℤ} :
    portOf argument = some port ↔ IsPort argument port := by
  rw [portOf, Option.ite_none_left_eq_some, not_or, not_or, not_or]
  constructor
  · rintro ⟨⟨hread, hall, hlow, hhigh⟩, hvalue⟩
    obtain rfl := Option.some.inj hvalue
    obtain ⟨spaces, plus, digits, hbytes, hspaces, hplus, hne, hdigits, hparsed⟩ :=
      exists_numeral_of_strtol hread (not_not.mp hall) (not_lt.mp hlow)
    exact ⟨spaces, plus, digits, hbytes, hspaces, hplus, hne, hdigits, by omega, by omega,
      by omega⟩
  · rintro ⟨spaces, plus, digits, hbytes, hspaces, hplus, hne, hdigits, rfl, hlow, hhigh⟩
    have hlength : argument.length ≠ 0 := by
      have hdigit := List.length_pos_iff.mpr hne
      rw [CString.length, hbytes, List.length_append]
      omega
    rw [strtol_of_numeral hbytes hspaces hplus hne hdigits]
    exact ⟨⟨hlength, by simp, by omega, by omega⟩, congrArg some (by omega)⟩

/-! ## The log of the start -/

theorem logFile_logAll (calls : List (Stamp × LogCall)) (log : LogState) :
    (logAll calls log).logFile = log.logFile := by
  induction calls generalizing log with
  | nil => rfl
  | cons call calls ih => exact ih _

/-- Calls are appended to the file that is open. -/
theorem disk_logAll (calls : List (Stamp × LogCall)) (log : LogState) (path : CString) :
    (logAll calls log).disk path = log.disk path ++
      if log.logFile = some path then
        (CString.concat (calls.map fun call ↦ record call.1 call.2)).bytes
      else [] := by
  induction calls generalizing log with
  | nil => simp [logAll]
  | cons call calls ih =>
    have hfirst : (loggerWrite call.1 call.2 log).disk path = log.disk path ++
        if log.logFile = some path then (record call.1 call.2).bytes else [] := by
      split
      · rename_i hopen
        exact disk_loggerWrite_of_open hopen call.1 call.2
      · rename_i hother
        rw [disk_loggerWrite_of_ne hother, List.append_nil]
    calc
      _ = (logAll calls (loggerWrite call.1 call.2 log)).disk path := rfl
      _ = _ := by
        rw [ih, hfirst, logFile_loggerWrite]
        split <;> simp

/-- Once its arguments are accepted, `main` ends as the start does. The log file gets the messages
of the start and no others, and it is open exactly when the server is listening. -/
theorem main_of_port {D : Type} [CDouble D] {log : LogState} (hclosed : log.logFile = none)
    {portText : CString} {port : ℤ} (hport : portOf portText = some port) (stamps : Stamps)
    (now : ℤ) (logFile : CString) (setup : Setup) :
    let result := main D stamps now [portText, logFile] setup log
    result.1 = launch setup ∧
    result.2.logFile = (match launch setup with
      | .exit _ => none
      | .listening _ => some logFile) ∧
    ∀ path, result.2.disk path = log.disk path ++
      if setup.logOpens ∧ logFile = path then
        (CString.concat ((stamped stamps.setup (setupCalls port setup)).map fun call ↦
          record call.1 call.2)).bytes
      else [] := by
  intro result
  let ready := logAll (stamped stamps.init (initCalls D now)) log
  have hmain : result = match launch setup with
      | .exit code => (.exit code, logAll (stamped stamps.cleanup cleanupCalls)
          (startLog stamps.setup port logFile setup ready))
      | .listening serverFd => (.listening serverFd,
          startLog stamps.setup port logFile setup ready) := by
    simp only [result, main, hport, ready]
  have hinit (path : CString) : ready.disk path = log.disk path := by
    rw [disk_logAll, hclosed]
    simp
  cases hopens : setup.logOpens with
  | false =>
    have hlaunch : launch setup = .exit 1 := by simp [launch, hopens]
    simp only [hlaunch] at hmain ⊢
    rw [hmain]
    have hclosed' : (startLog stamps.setup port logFile setup ready).logFile = none := by
      simp [startLog, loggerInit, hopens]
    have hdisk (path : CString) : (startLog stamps.setup port logFile setup ready).disk path =
        log.disk path := by
      rw [← hinit path]
      simp [startLog, loggerInit, hopens]
    refine ⟨rfl, ?_, fun path ↦ ?_⟩
    · rw [logFile_logAll, hclosed']
    · rw [disk_logAll, hclosed', hdisk]
      simp
  | true =>
    cases hlaunch : launch setup with
    | exit code =>
      simp only [hlaunch] at hmain
      rw [hmain]
      refine ⟨rfl, ?_, fun path ↦ ?_⟩
      · simp [logFile_logAll, startLog, loggerInit, hopens, hlaunch, loggerClose]
      · simp [disk_logAll, startLog, loggerInit, hopens, hlaunch, loggerClose, hinit]
    | listening serverFd =>
      simp only [hlaunch] at hmain
      rw [hmain]
      refine ⟨rfl, ?_, fun path ↦ ?_⟩
      · simp [logFile_logAll, startLog, loggerInit, hopens, hlaunch]
      · simp [disk_logAll, startLog, loggerInit, hopens, hlaunch, hinit]

/-- Other arguments end the program before anything is written. -/
theorem main_of_no_port {D : Type} [CDouble D] {arguments : List CString}
    (h : ∀ portText logFile, arguments = [portText, logFile] → portOf portText = none)
    (stamps : Stamps) (now : ℤ) (setup : Setup) (log : LogState) :
    main D stamps now arguments setup log = (.exit 1, log) := by
  match arguments with
  | [portText, logFile] => simp only [main, h portText logFile rfl]
  | [] | [_] | _ :: _ :: _ :: _ => rfl

/-- With two arguments of which the first is a port, `main` ends as the start does: the log file
gets the messages of the start and no others, and it is open exactly when the server is listening.
With all other arguments it ends before anything is written. -/
theorem main_log {D : Type} [CDouble D] {log : LogState} (hclosed : log.logFile = none)
    (stamps : Stamps) (now : ℤ) (arguments : List CString) (setup : Setup) :
    let result := main D stamps now arguments setup log
    (∀ portText logFile port, arguments = [portText, logFile] → IsPort portText port →
      result.1 = launch setup ∧
      result.2.logFile = (match launch setup with
        | .exit _ => none
        | .listening _ => some logFile) ∧
      ∀ path, result.2.disk path = log.disk path ++
        if setup.logOpens ∧ logFile = path then
          (CString.concat ((stamped stamps.setup (setupCalls port setup)).map fun call ↦
            record call.1 call.2)).bytes
        else []) ∧
    ((∀ portText logFile port, arguments = [portText, logFile] → ¬ IsPort portText port) →
      result = (.exit 1, log)) := by
  constructor
  · rintro portText logFile port rfl hport
    exact main_of_port hclosed (portOf_eq_some_iff.mpr hport) stamps now logFile setup
  · intro hother
    refine main_of_no_port (fun portText logFile harguments ↦ ?_) stamps now setup log
    exact Option.eq_none_iff_forall_ne_some.mpr fun port hport ↦
      hother portText logFile port harguments (portOf_eq_some_iff.mp hport)

/-- The clock is set again and again while the program starts. -/
def jumpingClock : Stamps where
  init _ := ⟨some { Tm.zero with year := 70 }, 1⟩
  setup i := ⟨some { Tm.zero with year := 124 + i }, 1⟩
  cleanup _ := ⟨none, 1⟩

/-- The arguments ` +8080 server.log`, and a start that succeeds although the address cannot be
reused. -/
theorem main_log_someSetup :
    let log : LogState := ⟨[], none, fun _ ↦ []⟩
    let setup : Setup := ⟨true, some 3, false, true, true⟩
    let result := main ℚ jumpingClock 0 [.lit " +8080", .lit "server.log"] setup log
    result.2.disk (.lit "server.log") =
      (CString.concat ((stamped jumpingClock.setup (setupCalls 8080 setup)).map fun call ↦
        record call.1 call.2)).bytes := by
  have hport : IsPort (.lit " +8080") 8080 :=
    ⟨[32], [43], ascii "8080", by decide, List.all_iff_forall_prop.mp (by decide), .inr rfl,
      by decide, List.all_iff_forall_prop.mp (by decide), by decide, by decide, by decide⟩
  exact ((main_log rfl jumpingClock 0 [.lit " +8080", .lit "server.log"]
    ⟨true, some 3, false, true, true⟩).1 _ _ 8080 rfl hport).2.2 (.lit "server.log")

/-! ## Resources -/

inductive Resource (κ : Type) where
  | logFile
  | descriptor (fd : ℤ)
  | memory (context : κ)
deriving DecidableEq

/-- The main thread, in its accept loop, and the handlers. -/
inductive Role (κ : Type) where
  | listener (serverFd : ℤ)
  | handler (client : Client κ)

abbrev Script (κ : Type) := List (Use (Resource κ) (Role κ))

variable {κ : Type}

/-- What a thread owns between two activities. -/
def base : Role κ → Multiset (Resource κ)
  | .listener serverFd => {.logFile, .descriptor serverFd}
  | .handler client => {.descriptor client.fd, .memory client.context}

/-- `start_server` up to its loop. -/
def setupScript (setup : Setup) : Script κ :=
  if ¬ setup.logOpens then []
  else
    match setup.socket with
    | none => [.acquire .logFile, .release .logFile]
    | some serverFd =>
      [.acquire .logFile, .acquire (.descriptor serverFd)] ++
        if ¬ setup.binds then [.release (.descriptor serverFd), .release .logFile]
        else if ¬ setup.listens then [.release (.descriptor serverFd), .release .logFile]
        else []

/-- One round of the accept loop: `accept`, `malloc` and `pthread_create`. -/
inductive Accepted (κ : Type) where
  | interrupted
  | failed
  | connection (clientFd : ℤ) (context : Option κ) (created : Bool)

def acceptScript : Accepted κ → Script κ
  | .interrupted => []
  | .failed => []
  | .connection clientFd none _ =>
    [.acquire (.descriptor clientFd), .release (.descriptor clientFd)]
  | .connection clientFd (some context) created =>
    [.acquire (.descriptor clientFd), .acquire (.memory context)] ++
      if created then
        [.spawn (.handler ⟨clientFd, context⟩) {.descriptor clientFd, .memory context}]
      else [.release (.descriptor clientFd), .release (.memory context)]

/-! ## The hosts of the authentication service -/

/-- What the calls for one of the host names give: the socket, whether the name has an address,
whether the connection is made, and the exchange with the service. -/
structure Attempt where
  socket : Option ℤ
  resolved : Bool
  connects : Bool
  exchange : Bytes → Bytes

/-- Where the loop over the hosts ends. -/
inductive Connection where
  | noSocket
  | exhausted (sock : Option ℤ)
  | connected (sock : ℤ) (exchange : Bytes → Bytes)

def closeSocket : Option ℤ → Script κ
  | some sock => [.release (.descriptor sock)]
  | none => []

/-- The loop over the hosts, with the socket that is still open from the one before. -/
def connectLoop : List Attempt → Option ℤ → Script κ × Connection
  | [], sock => ([], .exhausted sock)
  | attempt :: rest, sock =>
    match attempt.socket with
    | none => (closeSocket sock, .noSocket)
    | some fd =>
      if attempt.resolved ∧ attempt.connects then
        (closeSocket sock ++ [.acquire (.descriptor fd)], .connected fd attempt.exchange)
      else
        let result := connectLoop rest (some fd)
        (closeSocket sock ++ .acquire (.descriptor fd) :: result.1, result.2)

/-- `auth_client_verify` with its connection. The two attempts are for the names `auth-service` and
`127.0.0.1`. -/
def authClientConnect (authService localhost : Attempt) (username password : CString)
    (bufferSize : ℕ) : Script κ × Verdict :=
  match connectLoop [authService, localhost] none with
  | (script, .noSocket) => (script, .unavailable)
  | (script, .exhausted sock) => (script ++ closeSocket sock, .unavailable)
  | (script, .connected sock exchange) => (script ++ [.release (.descriptor sock)],
      authClientVerify (some exchange) username password bufferSize)

/-! ## The process -/

/-- What a thread does with resources. -/
inductive Activity (κ : Type) where
  | accept (accepted : Accepted κ)
  | login (authService localhost : Attempt) (username password : CString)
  | finish

def scriptOf : Role κ → Activity κ → Option (Script κ)
  | .listener _, .accept accepted => some (acceptScript accepted)
  | .handler _, .login authService localhost username password =>
    some (authClientConnect authService localhost username password 64).1
  | .handler client, .finish =>
    some [.release (.descriptor client.fd), .release (.memory client.context)]
  | _, _ => none

/-- The process at the call of `start_server`. -/
def launched (setup : Setup) : World (Resource κ) (Role κ) where
  held := 0
  faulty := false
  holders := [⟨.listener (setup.socket.getD (-1)), 0, setupScript setup⟩]

/-! ## Scripts -/

variable [DecidableEq κ]

/-- The start leaves the main thread with the log and the listening socket, or with nothing. -/
theorem settle_setupScript (setup : Setup) :
    settle base (setupScript setup : Script κ) 0 =
      match launch setup with
      | .exit _ => some 0
      | .listening serverFd => some (base (.listener serverFd)) := by
  obtain ⟨logOpens, socket, reuseAddr, binds, listens⟩ := setup
  have hswap (serverFd : ℤ) : (Resource.descriptor serverFd : Resource κ) ::ₘ {.logFile} =
      base (.listener serverFd) := Multiset.cons_swap _ _ _
  cases logOpens with
  | false => rfl
  | true =>
    cases socket with
    | none => simp [setupScript, launch, settle]
    | some serverFd =>
      cases binds with
      | false => simp [setupScript, launch, settle]
      | true =>
        cases listens with
        | false => simp [setupScript, launch, settle]
        | true => simp [setupScript, launch, settle, hswap]

theorem settles_acceptScript (serverFd : ℤ) (accepted : Accepted κ) :
    settle base (acceptScript accepted) (base (.listener serverFd)) =
      some (base (.listener serverFd)) := by
  cases accepted with
  | interrupted => rfl
  | failed => rfl
  | connection clientFd context created =>
    cases context with
    | none => simp [acceptScript, settle]
    | some context =>
      cases created with
      | false => simp [acceptScript, settle]
      | true =>
        have hgiven : ({.descriptor clientFd, .memory context} : Multiset (Resource κ)) ≤
            .memory context ::ₘ .descriptor clientFd ::ₘ base (.listener serverFd) := by
          rw [Multiset.cons_swap]
          exact Multiset.cons_le_cons _ (Multiset.cons_le_cons _ (Multiset.zero_le _))
        have hrest : (.memory context ::ₘ .descriptor clientFd ::ₘ base (.listener serverFd)) -
            ({.descriptor clientFd, .memory context} : Multiset (Resource κ)) =
              base (.listener serverFd) := by
          simp
        simp only [acceptScript, if_true, List.cons_append, List.nil_append, settle]
        rw [if_pos ⟨hgiven, rfl⟩, hrest]

theorem settles_finish (client : Client κ) :
    settle base [.release (.descriptor client.fd), .release (.memory client.context)]
      (base (.handler client)) = some 0 := by
  simp [base, settle]

/-- Sockets that are opened and closed one after the other. -/
def inTurn (sockets : List ℤ) : Script κ :=
  sockets.flatMap fun fd ↦ [.acquire (.descriptor fd), .release (.descriptor fd)]

/-- The socket that is still open where the loop over the hosts ends. -/
def Connection.sock : Connection → Option ℤ
  | noSocket => none
  | exhausted sock => sock
  | connected sock _ => some sock

omit [DecidableEq κ] in
/-- The loop closes the socket it is given and every socket but the last one it opens. -/
theorem exists_sockets_connectLoop (attempts : List Attempt) (sock : Option ℤ) :
    let result : Script κ × Connection := connectLoop attempts sock
    ∃ sockets, sockets.length ≤ attempts.length ∧
      result.1 ++ closeSocket result.2.sock = closeSocket sock ++ inTurn sockets := by
  induction attempts generalizing sock with
  | nil => exact ⟨[], le_rfl, by simp [connectLoop, Connection.sock, inTurn]⟩
  | cons attempt rest ih =>
    cases hsocket : attempt.socket with
    | none =>
      exact ⟨[], by simp, by simp [connectLoop, hsocket, Connection.sock, closeSocket, inTurn]⟩
    | some fd =>
      simp only [connectLoop, hsocket]
      split
      · exact ⟨[fd], by simp, by simp [Connection.sock, closeSocket, inTurn]⟩
      · obtain ⟨sockets, hlength, hscript⟩ := ih (some fd)
        refine ⟨fd :: sockets, Nat.succ_le_succ hlength, ?_⟩
        simp only [List.append_assoc, List.cons_append, hscript]
        rfl

omit [DecidableEq κ] in
theorem fst_authClientConnect (authService localhost : Attempt) (username password : CString)
    (bufferSize : ℕ) :
    let result : Script κ × Connection := connectLoop [authService, localhost] none
    (authClientConnect authService localhost username password bufferSize).1 =
      result.1 ++ closeSocket result.2.sock := by
  unfold authClientConnect
  split <;> rename_i hresult <;> simp [hresult, Connection.sock, closeSocket]

theorem settle_inTurn (sockets : List ℤ) (mine : Multiset (Resource κ)) :
    settle base (inTurn sockets) mine = some mine := by
  induction sockets with
  | nil => rfl
  | cons fd sockets ih =>
    have hturn : inTurn (fd :: sockets) =
        (.acquire (.descriptor fd) :: .release (.descriptor fd) :: inTurn sockets : Script κ) := rfl
    rw [hturn, settle, settle, if_pos (Multiset.mem_cons_self _ _), Multiset.erase_cons_head, ih]

omit [DecidableEq κ] in
/-- A LOGIN opens its sockets one at a time and closes each of them. -/
theorem exists_sockets_authClientConnect (authService localhost : Attempt)
    (username password : CString) (bufferSize : ℕ) :
    ∃ sockets, sockets.length ≤ 2 ∧
      (authClientConnect authService localhost username password bufferSize).1 =
        (inTurn sockets : Script κ) := by
  obtain ⟨sockets, hlength, hscript⟩ := exists_sockets_connectLoop [authService, localhost] none
  exact ⟨sockets, hlength,
    (fst_authClientConnect authService localhost username password bufferSize).trans hscript⟩

/-- All scripts leave a thread with what it has between two activities, or with nothing. -/
theorem settles_scriptOf {role : Role κ} {activity : Activity κ} {script : Script κ}
    (h : scriptOf role activity = some script) : Settles base role script (base role) := by
  cases role with
  | listener serverFd =>
    cases activity with
    | accept accepted =>
      obtain rfl := Option.some.inj h
      exact .inl (settles_acceptScript serverFd accepted)
    | login authService localhost username password => cases h
    | finish => cases h
  | handler client =>
    cases activity with
    | accept accepted => cases h
    | login authService localhost username password =>
      obtain rfl := Option.some.inj h
      obtain ⟨sockets, -, hscript⟩ :=
        exists_sockets_authClientConnect authService localhost username password 64
      exact .inl (hscript ▸ settle_inTurn sockets _)
    | finish =>
      obtain rfl := Option.some.inj h
      exact .inr (settles_finish client)

theorem sound_launched (setup : Setup) :
    (launched setup : World (Resource κ) (Role κ)).Sound base := by
  refine ⟨rfl, rfl, Multiset.nodup_zero, List.forall_mem_singleton.mpr ?_⟩
  have hscript : settle base (setupScript setup : Script κ) 0 = _ := settle_setupScript setup
  simp only [Settles]
  cases hlaunch : launch setup with
  | exit code => exact .inr (by rw [hscript, hlaunch])
  | listening serverFd =>
    have hsocket : setup.socket = some serverFd := by
      unfold launch at hlaunch
      split at hlaunch
      · cases hlaunch
      · split at hlaunch
        · cases hlaunch
        · rename_i fd hfd
          split at hlaunch
          · cases hlaunch
          · split at hlaunch
            · cases hlaunch
            · rw [hfd, Launch.listening.inj hlaunch]
    exact .inl (by rw [hscript, hlaunch, hsocket]; rfl)

/-! ## The threads -/

/-- Whatever fails, and however the threads interleave, no thread closes a descriptor or frees a
block that is not its own, all that is held has exactly one owner, and when no thread is in the
middle of an activity, what is held is the log, the listening socket, and one descriptor and one
block for each connection that is not finished. -/
theorem owned_of_launched {setup : Setup} {w : World (Resource κ) (Role κ)}
    (h : (ownership base scriptOf).Reachable (launched setup) w) :
    w.faulty = false ∧ w.held = owned w.holders ∧ w.held.Nodup ∧
      ((∀ holder ∈ w.holders, holder.script = []) →
        w.held = (((w.holders.filter fun holder ↦ holder.owned ≠ 0).map Holder.role).map
          base).sum) := by
  have hsound := sound_of_reachable (fun _ _ _ ↦ settles_scriptOf) (sound_launched setup) h
  exact ⟨hsound.faultless, hsound.held, hsound.nodup, hsound.held_of_idle⟩

/-- A start that succeeds. -/
def someSetup : Setup := ⟨true, some 3, true, true, true⟩

/-- Two connections, of which the first has no thread, and a LOGIN of the second. -/
def someMoves : List (Move (Activity ℕ)) :=
  [.run 0, .run 0, .start 0 (.accept (.connection 5 (some 0) false)), .run 0, .run 0, .run 0,
    .run 0, .start 0 (.accept (.connection 5 (some 0) true)), .run 0, .run 0, .run 0,
    .start 1 (.login ⟨some 6, false, false, fun _ ↦ []⟩ ⟨some 7, true, true, fun _ ↦ []⟩
      (.lit "ann") (.lit "secret")), .run 1, .start 0 (.accept .failed), .run 1, .run 1, .run 1]

theorem owned_of_launched_two_connections :
    ∃ w, (ownership base scriptOf).run (launched someSetup) someMoves = some w ∧
      w.held = (((w.holders.filter fun holder ↦ holder.owned ≠ 0).map Holder.role).map
        base).sum := by
  have hscripts : ((ownership base scriptOf).run (launched someSetup) someMoves).map
      (fun w ↦ w.holders.all (·.script.isEmpty)) = some true := by decide
  obtain ⟨w, hrun, hidle⟩ := Option.map_eq_some_iff.mp hscripts
  refine ⟨w, hrun, (owned_of_launched ⟨someMoves, hrun⟩).2.2.2 fun holder hholder ↦ ?_⟩
  simpa using List.all_eq_true.mp hidle holder hholder

/-! ## The verdict of a LOGIN -/

/-- The exchange with the first host that can be reached; a socket that cannot be made ends the
search. -/
def reachableService (attempts : List Attempt) : Option (Bytes → Bytes) :=
  ((attempts.takeWhile (·.socket.isSome)).find? fun attempt ↦
    attempt.resolved && attempt.connects).map Attempt.exchange

/-- The service at the other end of the connection that the loop has made. -/
def Connection.service : Connection → Option (Bytes → Bytes)
  | connected _ exchange => some exchange
  | _ => none

omit [DecidableEq κ] in
theorem service_connectLoop (attempts : List Attempt) (sock : Option ℤ) :
    let result : Script κ × Connection := connectLoop attempts sock
    result.2.service = reachableService attempts := by
  induction attempts generalizing sock with
  | nil => rfl
  | cons attempt rest ih =>
    cases hsocket : attempt.socket with
    | none => simp [connectLoop, hsocket, Connection.service, reachableService]
    | some fd =>
      have htake : (attempt :: rest).takeWhile (·.socket.isSome) =
          attempt :: rest.takeWhile (·.socket.isSome) := by
        simp [hsocket]
      simp only [connectLoop, hsocket, reachableService, htake]
      split
      · rename_i hconnects
        rw [List.find?_cons_of_pos (by simpa using hconnects)]
        rfl
      · rename_i hfails
        rw [List.find?_cons_of_neg (by simpa using hfails)]
        exact ih (some fd)

omit [DecidableEq κ] in
/-- The verdict of a LOGIN is that of the first host that can be reached, and there is none when
a socket cannot be made before; meanwhile the sockets are opened and closed in turn, at most one
for each host. -/
theorem authClientConnect_verdict (authService localhost : Attempt) (username password : CString)
    (bufferSize : ℕ) :
    let result : Script κ × Verdict :=
      authClientConnect authService localhost username password bufferSize
    result.2 = authClientVerify (reachableService [authService, localhost]) username password
        bufferSize ∧
      ∃ sockets, sockets.length ≤ 2 ∧ result.1 = inTurn sockets := by
  refine ⟨?_, exists_sockets_authClientConnect authService localhost username password bufferSize⟩
  have hservice : (connectLoop [authService, localhost] none : Script κ × Connection).2.service =
      reachableService [authService, localhost] := service_connectLoop _ none
  unfold authClientConnect
  split <;> rename_i hresult <;> rw [← hservice, hresult] <;> rfl

end IotMonitoring.Server.StartServer
