import IotMonitoring.Server.Grammar
import IotMonitoring.Server.HandleClient

/-!
# What the connection handler logs

`handle_client` passes `msg.raw_buffer` to the event log after the tokenizer has written NULs into
it, and so does the error path of `send_complete_response`. The text that is logged ends behind the
command name: it is the same for every two chunks with the same leading spaces and command name,
whatever their arguments. What is logged of a LOGIN depends on the answer of the authentication
service and on nothing else of its arguments.
-/

namespace IotMonitoring.Server.HandleClient

open Text Protocol SensorManager AlertEngine AuthClient

inductive LogLevel where
  | info
  | error
deriving DecidableEq

/-- A call of `logger_event`, without the address of the peer. No message means that the text is
read from a buffer that nothing has been written into. -/
structure LogEvent where
  level : LogLevel
  message : Option CString
  response : CString
deriving DecidableEq

/-- `msg.raw_buffer` as a string, after `protocol_parse` has run on the received bytes. -/
def rawMessage (received : Bytes) : Option CString :=
  (protocolParse received).map fun msg ↦ readAt msg.rawBuffer 0

/-- The event of the switch itself. -/
def switchEvents (received : Bytes) : List LogEvent :=
  match protocolParse received with
  | some msg =>
    if msg.type = .operatorIdentify then
      [⟨.info, some (.lit "OPERATOR_IDENTIFY"), .lit "Operator supervisor connected"⟩]
    else []
  | none => []

/-- The event of `send_complete_response`, which returns `-1` where a send fails. -/
def sendCompleteResponse (sent : Bool) (receivedMessage : Option CString) : List LogEvent × ℤ :=
  if sent then ([], 0)
  else ([⟨.error, receivedMessage, .lit "Error sending response"⟩], -1)

/-- The events of the send and of what follows it. -/
def replyEvents (received : Bytes) (sent : Bool) (response : CString) : List LogEvent :=
  let result := sendCompleteResponse sent (rawMessage received)
  if result.2 = 0 then result.1 ++ [⟨.info, rawMessage received, response⟩] else result.1

variable {D κ : Type} [CDouble D]

/-- The events of one iteration. -/
def roundEvents (client : Client κ) (round : Round) (s : ServerState D κ) : List LogEvent :=
  switchEvents round.chunk.bytes ++ replyEvents round.chunk.bytes round.sent
    (respond round.env client round.chunk s).response.text

theorem rawMessage_chunk (chunk : Chunk) :
    ∃ message, rawMessage chunk.bytes = some message ∧
      message.bytes = leadingWord isSpace (lineOf chunk.bytes) :=
  ⟨_, by rw [rawMessage, chunk.protocolParse_eq, Option.map_some], chunk.readAt_rawBuffer⟩

/-- One event follows the switch, and its message is the buffer. -/
theorem replyEvents_eq (received : Bytes) (sent : Bool) (response : CString) :
    replyEvents received sent response =
      if sent then [⟨.info, rawMessage received, response⟩]
      else [⟨.error, rawMessage received, .lit "Error sending response"⟩] := by
  cases sent <;> rfl

theorem rawMessage_congr {chunk chunk' : Chunk}
    (h : leadingWord isSpace (lineOf chunk.bytes) = leadingWord isSpace (lineOf chunk'.bytes)) :
    rawMessage chunk.bytes = rawMessage chunk'.bytes := by
  obtain ⟨message, hmessage, hbytes⟩ := rawMessage_chunk chunk
  obtain ⟨message', hmessage', hbytes'⟩ := rawMessage_chunk chunk'
  rw [hmessage, hmessage', CString.ext (hbytes.trans (h.trans hbytes'.symm))]

/-! ## Logins -/

/-- What the authentication service answers to a LOGIN, where it has enough arguments. -/
def verdict (env : Env) (args : List CString) : Option AuthClient.Verdict :=
  match args with
  | username :: password :: _ => some (authClientVerify env.authService username password 64)
  | _ => none

omit [CDouble D] in
/-- The reply to a LOGIN depends on the verdict only. -/
theorem response_login_congr {env env' : Env} {args args' : List CString}
    (h : verdict env args = verdict env' args') (client client' : Client κ)
    (s s' : ServerState D κ) :
    (login env client args s).response = (login env' client' args' s').response := by
  have hresponse (env : Env) (client : Client κ) (args : List CString) (s : ServerState D κ) :
      (login env client args s).response =
        match verdict env args with
        | some (.accepted role) =>
          .built (protocolBuildOk (some (CString.snprintf 128 (.lit "ROLE_" ++ role))))
        | some .refused => error "401" "Invalid credentials"
        | some .unavailable => error "503" "Auth service unavailable"
        | none => missingArguments := by
    match args with
    | [] | [_] => rfl
    | username :: password :: _ =>
      simp only [login, verdict]
      cases authClientVerify env.authService username password 64 <;> rfl
  rw [hresponse, hresponse, h]

/-- The message that goes into the log with a reply or a failed send is the longest front of the
line that has the form of spaces followed by other bytes. Chunks with the same front are logged
with the same message; for two LOGINs with the same verdict all that is logged is the same. -/
theorem message_replyEvents (client : Client κ) (round : Round) (s : ServerState D κ) :
    let line := lineOf round.chunk.bytes
    let events := replyEvents round.chunk.bytes round.sent
      (respond round.env client round.chunk s).response.text
    (∃ message, events.map (·.message) = [some message] ∧
      message.bytes <+: line ∧ IsLeadingWord isSpace message.bytes ∧
      ∀ front, front <+: line → IsLeadingWord isSpace front → front <+: message.bytes) ∧
    ∀ (client' : Client κ) (round' : Round) (s' : ServerState D κ),
      leadingWord isSpace (lineOf round'.chunk.bytes) = leadingWord isSpace line →
      (replyEvents round'.chunk.bytes round'.sent
        (respond round'.env client' round'.chunk s').response.text).map (·.message) =
          events.map (·.message) ∧
      (round.chunk.message.type = .login → round'.chunk.message.type = .login →
        verdict round'.env round'.chunk.message.argStrings =
          verdict round.env round.chunk.message.argStrings →
        round'.sent = round.sent →
        roundEvents client' round' s' = roundEvents client round s) := by
  intro line events
  obtain ⟨message, hmessage, hbytes⟩ := rawMessage_chunk round.chunk
  have hevents : events.map (·.message) = [rawMessage round.chunk.bytes] := by
    simp only [events, replyEvents_eq]
    split <;> rfl
  refine ⟨⟨message, by rw [hevents, hmessage], ?_⟩, fun client' round' s' hsame ↦ ⟨?_, ?_⟩⟩
  · rw [hbytes]
    exact ⟨(isLeadingWord_leadingWord line).1, (isLeadingWord_leadingWord line).2,
      fun front ↦ IsLeadingWord.le⟩
  · rw [hevents, replyEvents_eq, rawMessage_congr hsame]
    split <;> rfl
  · intro hlogin hlogin' hverdict hsent
    have hswitch (chunk : Chunk) (h : chunk.message.type = .login) :
        switchEvents chunk.bytes = [] := by
      simp [switchEvents, chunk.protocolParse_eq, h]
    have hresponse := response_login_congr hverdict client' client s' s
    rw [roundEvents, roundEvents, hswitch _ hlogin, hswitch _ hlogin', respond_eq, respond_eq,
      hlogin, hlogin', dispatch, dispatch, hresponse, hsent, replyEvents_eq, replyEvents_eq,
      rawMessage_congr hsame]

end IotMonitoring.Server.HandleClient
