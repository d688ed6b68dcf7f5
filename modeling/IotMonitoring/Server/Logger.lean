import IotMonitoring.Server.EventLog
import IotMonitoring.Server.ReplyFraming
import IotMonitoring.Text.Pieces

/-!
# The logger

`logger.c` formats a record under a mutex and writes it to the standard output and, while a log
file is open, to the end of that file. A record starts with the local time, the level and the
number of the calling thread. The text of an event is formatted into 1536 bytes before. Every call
flushes what it has written, so what is printed is on the disk when the call returns.

A response that is logged brings the line end of the protocol with it. The text of a record is
then followed by more than one line feed, and never has one in front of the last.
-/

namespace IotMonitoring.Server.Logger

open Text HandleClient AlertEngine

/-! ## Time stamps -/

/-- The fields of `struct tm` that the format prints. -/
structure Tm where
  year : ℤ
  mon : Fin 12
  mday : Fin 32
  hour : Fin 24
  min : Fin 60
  sec : Fin 61

/-- A `struct tm` cleared by `memset`. -/
def Tm.zero : Tm := ⟨0, 0, 0, 0, 0, 0⟩

def twoDigits (n : ℕ) : CString := if n < 10 then .lit "0" ++ decimal n else decimal n

/-- `strftime` with the format `%Y-%m-%d %H:%M:%S`; `none` is the return value 0. -/
def strftime (size : ℕ) (localTime : Tm) : Option CString :=
  let text := decimal (localTime.year + 1900) ++ .lit "-" ++ twoDigits (localTime.mon + 1) ++
    .lit "-" ++ twoDigits localTime.mday ++ .lit " " ++ twoDigits localTime.hour ++ .lit ":" ++
    twoDigits localTime.min ++ .lit ":" ++ twoDigits localTime.sec
  if text.length < size then some text else none

/-- The text of the time stamp. Where `localtime_r` fails, the cleared structure is printed. -/
def timestamp (localTime : Option Tm) : CString :=
  match strftime 32 (localTime.getD .zero) with
  | some text => text
  | none => CString.snprintf 32 (.lit "0000-00-00 00:00:00")

/-! ## Records -/

/-- The argument `level` of the calls. -/
def levelText : LogLevel → CString
  | .info => .lit "INFO"
  | .error => .lit "ERROR"

/-- A call of the logger; `none` stands for a null pointer. -/
inductive LogCall where
  | write (level : LogLevel) (message : CString)
  | event (level : LogLevel) (ip : Option CString) (port : ℤ) (message response : Option CString)
deriving DecidableEq

def loggerInfo (message : CString) : LogCall := .write .info message

def loggerError (message : CString) : LogCall := .write .error message

def loggerEvent (level : LogLevel) (ip : Option CString) (port : ℤ)
    (message response : Option CString) : LogCall :=
  .event level ip port message response

def LogCall.level : LogCall → LogLevel
  | write level _ => level
  | event level _ _ _ _ => level

/-- The text behind the header: a message as it is, an event as its line of 1536 bytes. -/
def LogCall.text : LogCall → CString
  | write _ message => message
  | event _ ip port message response =>
    CString.snprintf 1536 (.lit "IP=" ++ ip.getD (.lit "unknown") ++ .lit " Port=" ++
      decimal port ++ .lit " Message=" ++ message.getD ∅ ++ .lit " Response=" ++ response.getD ∅)

/-- What a call reads of its surroundings: the local time and the number of its thread. -/
structure Stamp where
  localTime : Option Tm
  thread : ℕ

def header (stamp : Stamp) (level : LogLevel) : CString :=
  .lit "[" ++ timestamp stamp.localTime ++ .lit "] [" ++ levelText level ++ .lit "][Thread " ++
    decimal stamp.thread ++ .lit "] "

/-- The bytes that one call prints. -/
def record (stamp : Stamp) (call : LogCall) : CString :=
  header stamp call.level ++ call.text ++ .lit "\n"

/-! ## The log file -/

/-- The standard output, the open log file, and the files on the disk. -/
structure LogState where
  stdout : Bytes
  logFile : Option CString
  disk : CString → Bytes

/-- `logger_write` and `logger_write_event`. A file opened with mode `a` is written at its end. -/
def loggerWrite (stamp : Stamp) (call : LogCall) (log : LogState) : LogState :=
  let text := (record stamp call).bytes
  { log with
    stdout := log.stdout ++ text
    disk := match log.logFile with
      | some path => fun file ↦ if file = path then log.disk file ++ text else log.disk file
      | none => log.disk }

/-- `logger_init`, where `opens` says whether `fopen` succeeds. A file that is open is closed
first. -/
def loggerInit (logPath : CString) (opens : Bool) (log : LogState) : LogState × ℤ :=
  if opens then ({ log with logFile := some logPath }, 0) else ({ log with logFile := none }, -1)

/-- `logger_close`. -/
def loggerClose (log : LogState) : LogState := { log with logFile := none }

@[simp]
theorem logFile_loggerWrite (stamp : Stamp) (call : LogCall) (log : LogState) :
    (loggerWrite stamp call log).logFile = log.logFile := rfl

@[simp]
theorem stdout_loggerWrite (stamp : Stamp) (call : LogCall) (log : LogState) :
    (loggerWrite stamp call log).stdout = log.stdout ++ (record stamp call).bytes := rfl

theorem disk_loggerWrite_of_open {log : LogState} {path : CString}
    (h : log.logFile = some path) (stamp : Stamp) (call : LogCall) :
    (loggerWrite stamp call log).disk path = log.disk path ++ (record stamp call).bytes := by
  simp [loggerWrite, h]

/-- Only the open file is written. -/
theorem disk_loggerWrite_of_ne {log : LogState} {path : CString}
    (h : log.logFile ≠ some path) (stamp : Stamp) (call : LogCall) :
    (loggerWrite stamp call log).disk path = log.disk path := by
  cases hfile : log.logFile with
  | none => simp [loggerWrite, hfile]
  | some other =>
    have hne : path ≠ other := fun heq ↦ h (heq ▸ hfile)
    simp [loggerWrite, hfile, hne]

/-! ## Records are lines -/

/-- The text has no line feed, or one at its very end. -/
def Single (text : CString) : Prop :=
  ∃ body, 10 ∉ body ∧ (text.bytes = body ∨ text.bytes = body ++ [10])

theorem lineFeed_notMem {s : CString} (h : s.LineSafe) : 10 ∉ s.bytes :=
  fun hmem ↦ absurd (h 10 hmem) (by decide)

theorem single_of_lineSafe {text : CString} (h : text.LineSafe) : Single text :=
  ⟨text.bytes, lineFeed_notMem h, .inl rfl⟩

theorem Single.append {front text : CString} (hfront : front.LineSafe) (h : Single text) :
    Single (front ++ text) := by
  obtain ⟨body, hbody, htext⟩ := h
  refine ⟨front.bytes ++ body, ?_, ?_⟩
  · rw [List.mem_append, not_or]
    exact ⟨lineFeed_notMem hfront, hbody⟩
  · exact htext.imp (fun h ↦ by rw [CString.bytes_append, h])
      fun h ↦ by rw [CString.bytes_append, h, List.append_assoc]

theorem Single.cut {text : CString} (h : Single text) (n : ℕ) : Single (text.cut n) := by
  obtain ⟨body, hbody, htext | htext⟩ := h
  · exact ⟨body.take n, fun hmem ↦ hbody (List.mem_of_mem_take hmem), .inl (by simp [htext])⟩
  · by_cases hlong : n ≤ body.length
    · refine ⟨body.take n, fun hmem ↦ hbody (List.mem_of_mem_take hmem), .inl ?_⟩
      rw [CString.bytes_cut, htext, List.take_append_of_le_length hlong]
    · have hall : (body ++ [10]).length ≤ n := by
        rw [List.length_append, List.length_singleton]
        omega
      exact ⟨body, hbody, .inr (by rw [CString.bytes_cut, htext, List.take_of_length_le hall])⟩

/-- The texts that the server builds for a reply. -/
theorem Single.buildLine {text : CString} (h : text.LineSafe) (size : ℕ) :
    Single (CString.snprintf size (text ++ crlf)) := by
  refine Single.cut (Single.append h ?_) _
  exact ⟨[13], by decide, .inr (by decide)⟩

theorem lineSafe_twoDigits (n : ℕ) : (twoDigits n).LineSafe := by
  unfold twoDigits
  split
  · exact (CString.lineSafe_lit (by decide)).append (lineSafe_decimal n)
  · exact lineSafe_decimal n

theorem lineSafe_timestamp (localTime : Option Tm) : (timestamp localTime).LineSafe := by
  unfold timestamp
  split
  · rename_i text htext
    obtain ⟨-, rfl⟩ := Option.ite_some_none_eq_some.mp htext
    have hdash : (CString.lit "-").LineSafe := CString.lineSafe_lit (by decide)
    have hspace : (CString.lit " ").LineSafe := CString.lineSafe_lit (by decide)
    have hcolon : (CString.lit ":").LineSafe := CString.lineSafe_lit (by decide)
    exact ((((((((((lineSafe_decimal _).append hdash).append (lineSafe_twoDigits _)).append
      hdash).append (lineSafe_twoDigits _)).append hspace).append (lineSafe_twoDigits _)).append
        hcolon).append (lineSafe_twoDigits _)).append hcolon).append (lineSafe_twoDigits _)
  · exact (CString.lineSafe_lit (by decide)).snprintf 32

theorem lineSafe_levelText (level : LogLevel) : (levelText level).LineSafe := by
  cases level with
  | info => exact CString.lineSafe_lit (by decide)
  | error => exact CString.lineSafe_lit (by decide)

theorem lineSafe_header (stamp : Stamp) (level : LogLevel) : (header stamp level).LineSafe := by
  have hopen : (CString.lit "[").LineSafe := CString.lineSafe_lit (by decide)
  have hlevel : (CString.lit "] [").LineSafe := CString.lineSafe_lit (by decide)
  have hthread : (CString.lit "][Thread ").LineSafe := CString.lineSafe_lit (by decide)
  have hclose : (CString.lit "] ").LineSafe := CString.lineSafe_lit (by decide)
  exact (((((hopen.append (lineSafe_timestamp _)).append hlevel).append
    (lineSafe_levelText level)).append hthread).append (lineSafe_decimal _)).append hclose

/-- The line of a record. -/
def entry (stamp : Stamp) (call : LogCall) : Bytes := (record stamp call).bytes.filter (· ≠ 10)

theorem ended_record {call : LogCall} (h : Single call.text) (stamp : Stamp) :
    Ended 10 (record stamp call).bytes := by
  obtain ⟨body, hbody, htext⟩ := Single.append (lineSafe_header stamp call.level) h
  have hne : body ≠ [] := by
    rintro rfl
    have hopen : (header stamp call.level ++ call.text).bytes.head? = some 91 := rfl
    obtain htext | htext := htext <;> rw [htext] at hopen <;> simp at hopen
  have hfeed : (CString.lit "\n").bytes = [10] := by decide
  obtain htext | htext := htext
  · exact ⟨body, 0, hne, hbody, by rw [record, CString.bytes_append, htext, hfeed]; rfl⟩
  · refine ⟨body, 1, hne, hbody, ?_⟩
    rw [record, CString.bytes_append, htext, hfeed, List.append_assoc]
    rfl

end IotMonitoring.Server.Logger
