import IotMonitoring.Auth.AuthServer
import IotMonitoring.Server.Protocol

/-!
# The verdict on a login

`auth_client_verify` sends user name and password as one text, joined by a colon and formatted into
a buffer of 256 bytes, and reads the verdict from the first bytes of the answer. The service takes
the text apart again. The verdict is right for every users table exactly when this round trip gives
the two arguments back, and that can be read off the arguments.
-/

namespace IotMonitoring.Server.AuthClient

open Text Protocol Auth AuthServer

/-- The three return values, with the role the call stores on success. -/
inductive Verdict where
  | unavailable
  | refused
  | accepted (role : CString)
deriving DecidableEq

/-- The return value itself. -/
def Verdict.code : Verdict → ℤ
  | unavailable => -1
  | refused => 0
  | accepted _ => 1

/-- The text sent to the service. -/
def request (username password : CString) : CString :=
  CString.snprintf 256 (username ++ .lit ":" ++ password ++ .lit "\n")

/-- `auth_client_verify`. The service is `none` when no host can be reached; otherwise it gives the
bytes that arrive for a request before the one `read` returns. -/
def authClientVerify (service : Option (Bytes → Bytes)) (username password : CString)
    (bufferSize : ℕ) : Verdict :=
  match service with
  | none => .unavailable
  | some exchange =>
    let received := (exchange (request username password).bytes).take 1023
    let buffer := CString.read received
    if received ≠ [] ∧ CString.strncmp buffer (.lit "ROLE:") 5 then
      .accepted (((CString.read (buffer.bytes.drop 5)).cut (bufferSize - 1)).before isLineEnd)
    else .refused

/-- The exchange with a reachable service that delivers its answer whole. -/
def answer (users : List User) (data : Bytes) : Bytes :=
  match serve users data with
  | .answered reply => reply
  | .skipped => []
  | .raised => []

/-- An ASCII string as the service sees it. -/
def textOf (s : CString) : PyString := s.bytes.map charOf

/-- The user name and password the service finds in a request. -/
def credentials (data : Bytes) : Option (PyString × PyString) :=
  (decode data).bind fun decoded ↦ splitColon (strip decoded)

/-- Whatever the users are, a login succeeds exactly for the credentials of one of them. -/
def VerdictRight (username password : CString) : Prop :=
  ∀ users : List User, (∀ user ∈ users, user.role ≠ []) →
    ((authClientVerify (some (answer users)) username password 64).code = 1 ↔
      ∃ user ∈ users, user.username = textOf username ∧ user.password = textOf password)

/-- Credentials that survive the way to the service. -/
structure Transmissible (username password : CString) : Prop where
  short : username.length + 1 + password.length ≤ 255
  noColon : 58 ∉ username.bytes
  noLeadingSpace : ∀ b, username.bytes.head? = some b → isSpace (charOf b) = false
  noTrailingSpace : ∀ b, password.bytes.getLast? = some b → isSpace (charOf b) = false

/-! ## The answer -/

theorem code_of_role {service : Bytes → Bytes} {username password : CString} {rest : Bytes}
    (h : service (request username password).bytes = ascii "ROLE:" ++ rest) (bufferSize : ℕ) :
    (authClientVerify (some service) username password bufferSize).code = 1 := by
  have hrole : ascii "ROLE:" = [82, 79, 76, 69, 58] := by decide
  have hstart : CString.strncmp (CString.read ((ascii "ROLE:" ++ rest).take 1023))
      (.lit "ROLE:") 5 := by
    simp [CString.strncmp, CString.ext_iff, CString.read, CString.lit, hrole]
  have hne : (ascii "ROLE:" ++ rest).take 1023 ≠ [] := by simp [hrole]
  simp [authClientVerify, h, hstart, hne, Verdict.code]

theorem code_of_other {service : Bytes → Bytes} {username password : CString}
    (h : service (request username password).bytes ∈
      [[], ascii "ERROR:INVALID\n", ascii "ERROR:MALFORMED\n"]) (bufferSize : ℕ) :
    (authClientVerify (some service) username password bufferSize).code = 0 := by
  have hother : ∀ reply ∈ [[], ascii "ERROR:INVALID\n", ascii "ERROR:MALFORMED\n"],
      ¬ (reply.take 1023 ≠ [] ∧
        CString.strncmp (CString.read (reply.take 1023)) (.lit "ROLE:") 5) := by decide
  rw [authClientVerify, if_neg (hother _ h)]
  rfl

/-- The service knows the credentials it finds in a request, or it answers with an error. -/
theorem answer_cases {users : List User} (hroles : ∀ user ∈ users, user.role ≠ []) (data : Bytes) :
    (∃ user ∈ users, credentials data = some (user.username, user.password) ∧
      ∃ rest, answer users data = ascii "ROLE:" ++ rest) ∨
    ((∀ user ∈ users, credentials data ≠ some (user.username, user.password)) ∧
      answer users data ∈ [[], ascii "ERROR:INVALID\n", ascii "ERROR:MALFORMED\n"]) := by
  by_cases hempty : data = []
  · right
    have hnone : credentials [] = none := rfl
    simp [hempty, hnone, answer, serve]
  cases hdecode : decode data with
  | none =>
    right
    simp [credentials, answer, serve, hempty, hdecode]
  | some decoded =>
    cases hsplit : splitColon (strip decoded) with
    | none =>
      right
      simp [credentials, answer, serve, hempty, hdecode, hsplit]
    | some pair =>
      obtain ⟨username, password⟩ := pair
      cases hfind : users.find? fun user ↦
          user.username = username ∧ user.password = password with
      | none =>
        right
        have hnone : verifyUser users username password = none := by
          rw [verifyUser, hfind, Option.map_none]
        have hunknown := List.find?_eq_none.mp hfind
        simp only [decide_eq_true_eq, not_and] at hunknown
        refine ⟨fun user huser hpair ↦ ?_, ?_⟩
        · simp only [credentials, hdecode, Option.bind_some, hsplit, Option.some.injEq,
            Prod.mk.injEq] at hpair
          exact hunknown user huser hpair.1.symm hpair.2.symm
        · simp [answer, serve, hempty, hdecode, hsplit, hnone]
      | some user =>
        left
        have huser := List.mem_of_find?_eq_some hfind
        have hmatch : user.username = username ∧ user.password = password := by
          simpa using List.find?_some hfind
        have hsome : verifyUser users username password = some user.role := by
          rw [verifyUser, hfind, Option.map_some]
        refine ⟨user, huser, ?_, encode (user.role ++ "\n".toList), ?_⟩
        · simp [credentials, hdecode, hsplit, hmatch]
        · have hfront : encode "ROLE:".toList = ascii "ROLE:" := by decide
          calc
            answer users data = encode ("ROLE:".toList ++ user.role ++ "\n".toList) := by
              simp only [answer, serve, if_neg hempty, hdecode, hsplit, hsome,
                if_pos (hroles user huser)]
            _ = encode "ROLE:".toList ++ encode (user.role ++ "\n".toList) := by
              rw [List.append_assoc, encode, encode, encode, List.flatMap_append]
            _ = ascii "ROLE:" ++ encode (user.role ++ "\n".toList) := by rw [hfront]

/-- A login succeeds when the credentials found in the request are those of a user. -/
theorem code_eq_one_iff {users : List User} (hroles : ∀ user ∈ users, user.role ≠ [])
    (username password : CString) :
    (authClientVerify (some (answer users)) username password 64).code = 1 ↔
      ∃ user ∈ users,
        credentials (request username password).bytes = some (user.username, user.password) := by
  obtain ⟨user, huser, hfound, rest, hreply⟩ | ⟨hunknown, hreply⟩ :=
    answer_cases hroles (request username password).bytes
  · exact iff_of_true (code_of_role hreply 64) ⟨user, huser, hfound⟩
  · rw [code_of_other hreply 64]
    refine iff_of_false (by decide) ?_
    rintro ⟨user, huser, hfound⟩
    exact hunknown user huser hfound

/-- A role is cut at its first line end. -/
theorem lineSafe_of_accepted {service : Option (Bytes → Bytes)} {username password role : CString}
    {bufferSize : ℕ}
    (h : authClientVerify service username password bufferSize = .accepted role) :
    role.LineSafe := by
  unfold authClientVerify at h
  split at h
  · cases h
  · dsimp only at h
    split at h
    · cases h
      exact CString.lineSafe_before _
    · cases h

/-! ## The round trip -/

/-- The request reaches the service as far as it fits into 255 bytes. -/
theorem decode_request {username password : CString}
    (husername : ∀ b ∈ username.bytes, b < 0x80) (hpassword : ∀ b ∈ password.bytes, b < 0x80) :
    decode (request username password).bytes =
      some ((textOf username ++ ':' :: textOf password ++ ['\n']).take 255) := by
  have hcolon : (CString.lit ":").bytes = [58] := by decide
  have hnewline : (CString.lit "\n").bytes = [10] := by decide
  have hascii : ∀ b ∈ (request username password).bytes, b < 0x80 := by
    intro b hb
    have hmem := List.mem_of_mem_take hb
    simp only [CString.bytes_append, hcolon, hnewline, List.mem_append, List.mem_singleton] at hmem
    obtain ((hb | rfl) | hb) | rfl := hmem
    · exact husername b hb
    · decide
    · exact hpassword b hb
    · decide
  rw [decode_ascii hascii]
  simp [request, CString.snprintf, hcolon, hnewline, textOf, charOf]

theorem colon_mem_textOf {s : CString} (hs : ∀ b ∈ s.bytes, b < 0x80) :
    ':' ∈ textOf s ↔ 58 ∈ s.bytes := by
  constructor
  · intro h
    obtain ⟨b, hb, hcolon⟩ := List.mem_map.mp h
    have hnat : b.toNat = (58 : UInt8).toNat := by
      rw [← toNat_charOf (hs b hb), hcolon]
      rfl
    exact UInt8.toNat_inj.mp hnat ▸ hb
  · exact fun h ↦ List.mem_map.mpr ⟨58, h, rfl⟩

/-- Credentials that are left over by cutting and stripping lost nothing on the way. -/
theorem transmissible_of_strip {username password : CString} (hcolon : 58 ∉ username.bytes)
    (hstrip : strip ((textOf username ++ ':' :: textOf password ++ ['\n']).take 255) =
      textOf username ++ ':' :: textOf password) : Transmissible username password := by
  have hedges := cleanEdges_trimWith (p := AuthServer.isSpace)
    ((textOf username ++ ':' :: textOf password ++ ['\n']).take 255)
  have hlength := length_trimWith_le (p := AuthServer.isSpace)
    ((textOf username ++ ':' :: textOf password ++ ['\n']).take 255)
  rw [← strip_eq_trimWith, hstrip] at hedges hlength
  obtain ⟨hhead, hlast⟩ := (cleanEdges_join_iff (by decide)).mp hedges
  refine ⟨?_, hcolon, fun b hb ↦ hhead _ ?_, fun b hb ↦ hlast _ ?_⟩
  · simp [textOf, CString.length] at hlength ⊢
    omega
  · simp [textOf, hb]
  · simp [textOf, hb]

/-- Cutting and stripping leave transmissible credentials alone. -/
theorem Transmissible.strip_eq {username password : CString} (h : Transmissible username password) :
    strip ((textOf username ++ ':' :: textOf password ++ ['\n']).take 255) =
      textOf username ++ ':' :: textOf password := by
  have hne : textOf username ++ ':' :: textOf password ≠ [] := by simp
  have hedges : CleanEdges AuthServer.isSpace (textOf username ++ ':' :: textOf password) := by
    refine (cleanEdges_join_iff (by decide)).mpr ⟨fun c hc ↦ ?_, fun c hc ↦ ?_⟩
    · obtain ⟨b, hb, rfl⟩ : ∃ b, username.bytes.head? = some b ∧ charOf b = c := by
        simpa [textOf] using hc
      exact h.noLeadingSpace b hb
    · obtain ⟨b, hb, rfl⟩ : ∃ b, password.bytes.getLast? = some b ∧ charOf b = c := by
        simpa [textOf] using hc
      exact h.noTrailingSpace b hb
  have hspaces : ∀ c ∈ ['\n'].take (255 - (textOf username ++ ':' :: textOf password).length),
      isSpace c := by
    intro c hc
    obtain rfl := List.mem_singleton.mp (List.mem_of_mem_take hc)
    decide
  have hlength : (textOf username ++ ':' :: textOf password).length ≤ 255 := by
    have hshort := h.short
    simp only [textOf, CString.length, List.length_append, List.length_cons,
      List.length_map] at hshort ⊢
    omega
  rw [List.take_append, List.take_of_length_le hlength, strip_eq_trimWith]
  exact trimWith_append hne hedges hspaces

theorem credentials_request_iff {username password : CString}
    (husername : ∀ b ∈ username.bytes, b < 0x80) (hpassword : ∀ b ∈ password.bytes, b < 0x80) :
    credentials (request username password).bytes = some (textOf username, textOf password) ↔
      Transmissible username password := by
  calc
    _ ↔ splitColon (strip ((textOf username ++ ':' :: textOf password ++ ['\n']).take 255)) =
        some (textOf username, textOf password) := by
      rw [credentials, decode_request husername hpassword, Option.bind_some]
    _ ↔ strip ((textOf username ++ ':' :: textOf password ++ ['\n']).take 255) =
          textOf username ++ ':' :: textOf password ∧ 58 ∉ username.bytes := by
      rw [splitColon_eq_some_iff, colon_mem_textOf husername]
    _ ↔ Transmissible username password :=
      ⟨fun h ↦ transmissible_of_strip h.2 h.1, fun h ↦ ⟨h.strip_eq, h.noColon⟩⟩

/-- The verdict on ASCII credentials is right exactly when they are transmissible. -/
theorem verdictRight_iff_transmissible {username password : CString}
    (husername : ∀ b ∈ username.bytes, b < 0x80) (hpassword : ∀ b ∈ password.bytes, b < 0x80) :
    VerdictRight username password ↔ Transmissible username password := by
  rw [← credentials_request_iff husername hpassword]
  constructor
  · intro hright
    have hroles : ∀ user ∈ [User.mk (textOf username) (textOf password) ['r']],
        user.role ≠ [] := by simp
    obtain ⟨user, huser, hcredentials⟩ := (code_eq_one_iff hroles username password).mp
      ((hright _ hroles).mpr ⟨_, List.mem_singleton_self _, rfl, rfl⟩)
    rwa [List.mem_singleton.mp huser] at hcredentials
  · intro hcredentials users hroles
    rw [code_eq_one_iff hroles, hcredentials]
    simp [eq_comm]

/-- An ordinary user name and password. -/
theorem verdictRight_iff_transmissible_ordinary :
    VerdictRight (.lit "admin") (.lit "secret:1") ↔
      Transmissible (.lit "admin") (.lit "secret:1") :=
  verdictRight_iff_transmissible (by decide +kernel) (by decide +kernel)

/-- The user name `a:b` with password `c` is let in as the user `a` with password `b:c`. -/
theorem not_verdictRight_of_colon :
    (authClientVerify (some (answer [⟨['a'], ['b', ':', 'c'], ['o']⟩])) (.lit "a:b") (.lit "c")
        64).code = 1 ∧
      ¬ VerdictRight (.lit "a:b") (.lit "c") := by
  have hcode : (authClientVerify (some (answer [⟨['a'], ['b', ':', 'c'], ['o']⟩])) (.lit "a:b")
      (.lit "c") 64).code = 1 := by decide +kernel
  refine ⟨hcode, fun hright ↦ ?_⟩
  have huser := (hright _ (by decide +kernel)).mp hcode
  exact absurd huser (by decide +kernel)

end IotMonitoring.Server.AuthClient
