import IotMonitoring.Auth.Utf8
import IotMonitoring.Server.AuthClient
import Mathlib.Data.List.Forall2

/-!
# The accept loop of the service

The service has one loop for all connections and no handler for exceptions, so a request that
cannot be decoded ends the process. Requests come from `auth_client_verify`, which passes on the
bytes of the two arguments of a LOGIN as they are. The loop answers or skips every connection
exactly when each of them sends the encoding of a text.
-/

namespace IotMonitoring.Auth.AcceptLoop

open Text AuthServer

/-- What `conn.recv(1024)` returns. -/
structure Received where
  bytes : Bytes
  le : bytes.length ≤ 1024

/-- What the server sends for two arguments of a LOGIN. -/
def Received.ofRequest (username password : CString) : Received where
  bytes := (Server.AuthClient.request username password).bytes
  le := (CString.length_cut_le 255 _).trans (by decide)

/-- The iterations of the accept loop for the connections in the order in which they are accepted;
after an exception there are no more. -/
def acceptLoop (users : List User) : List Received → List Iteration
  | [] => []
  | received :: rest =>
    match serve users received.bytes with
    | .raised => [.raised]
    | iteration => iteration :: acceptLoop users rest

/-- How an iteration may end: empty input is skipped, and other input gets one of three answers. -/
inductive Ends (users : List User) (data : Bytes) : Iteration → Prop
  | skipped (hdata : data = []) : Ends users data .skipped
  | role (user : User) (huser : user ∈ users) :
      Ends users data (.answered (encode ("ROLE:".toList ++ user.role ++ "\n".toList)))
  | invalid : Ends users data (.answered (ascii "ERROR:INVALID\n"))
  | malformed : Ends users data (.answered (ascii "ERROR:MALFORMED\n"))

/-- Every connection has its iteration. -/
def Survives (users : List User) (received : List Received) : Prop :=
  List.Forall₂ (fun data iteration ↦ Ends users data.bytes iteration) received
    (acceptLoop users received)

/-- The encoding of some text. -/
def IsText (data : Bytes) : Prop := ∃ text, encode text = data

/-- An iteration raises exactly when the input is not the encoding of a text. -/
theorem serve_cases (users : List User) (data : Bytes) :
    (IsText data ∧ serve users data ≠ .raised ∧ Ends users data (serve users data)) ∨
      (¬ IsText data ∧ serve users data = .raised) := by
  unfold serve
  split_ifs with hempty
  · exact .inl ⟨⟨[], hempty.symm⟩, nofun, .skipped hempty⟩
  · cases hdecode : decode data with
    | none =>
      refine .inr ⟨?_, rfl⟩
      rintro ⟨text, htext⟩
      rw [decode_eq_some_iff.mpr htext] at hdecode
      cases hdecode
    | some decoded =>
      refine .inl ⟨⟨decoded, decode_eq_some_iff.mp hdecode⟩, ?_⟩
      dsimp only
      cases splitColon (strip decoded) with
      | none => exact ⟨nofun, .malformed⟩
      | some parts =>
        dsimp only
        cases hrole : verifyUser users parts.1 parts.2 with
        | none => exact ⟨nofun, .invalid⟩
        | some role =>
          dsimp only
          split_ifs
          · obtain ⟨user, hfind, rfl⟩ := Option.map_eq_some_iff.mp hrole
            exact ⟨nofun, .role user (List.mem_of_find?_eq_some hfind)⟩
          · exact ⟨nofun, .invalid⟩

theorem acceptLoop_of_ne_raised {users : List User} {received : Received}
    (h : serve users received.bytes ≠ .raised) (rest : List Received) :
    acceptLoop users (received :: rest) =
      serve users received.bytes :: acceptLoop users rest := by
  rw [acceptLoop]
  split
  · rename_i hraised
    exact absurd hraised h
  · rfl

theorem acceptLoop_of_raised {users : List User} {received : Received}
    (h : serve users received.bytes = .raised) (rest : List Received) :
    acceptLoop users (received :: rest) = [.raised] := by
  rw [acceptLoop, h]

/-- The loop answers or skips every connection and goes on exactly when every connection sends the
encoding of a text. -/
theorem survives_iff_isText (users : List User) (received : List Received) :
    Survives users received ↔ ∀ data ∈ received, IsText data.bytes := by
  induction received with
  | nil => exact iff_of_true .nil nofun
  | cons data rest ih =>
    rw [List.forall_mem_cons]
    obtain ⟨htext, hgoes, hends⟩ | ⟨hbytes, hraised⟩ := serve_cases users data.bytes
    · rw [Survives, acceptLoop_of_ne_raised hgoes, List.forall₂_cons]
      exact and_congr (iff_of_true hends htext) ih
    · refine iff_of_false ?_ fun h ↦ hbytes h.1
      rw [Survives, acceptLoop_of_raised hraised, List.forall₂_cons]
      exact fun h ↦ nomatch h.1

/-! ## A login with a byte that no encoding has -/

/-- A LOGIN whose user name is the byte 255. -/
def invalidLogin : Server.Protocol.Chunk where
  bytes := ascii "LOGIN " ++ 255 :: ascii " x\r\n"
  pos := by decide
  lt := by decide

/-- The login of a user of the table. -/
def validLogin : Received := .ofRequest (.lit "admin") (.lit "123")

/-- The request made of it ends the loop, and the next login is not answered. -/
theorem not_survives_of_invalid_login :
    ∃ username password, invalidLogin.message.type = .login ∧
      invalidLogin.message.argStrings = [username, password] ∧
      acceptLoop [⟨"admin".toList, "123".toList, "operator".toList⟩]
        [.ofRequest username password, validLogin] = [.raised] ∧
      ¬ Survives [⟨"admin".toList, "123".toList, "operator".toList⟩]
        [.ofRequest username password, validLogin] := by
  have hloop : acceptLoop [⟨"admin".toList, "123".toList, "operator".toList⟩]
      [.ofRequest ⟨[255], by decide⟩ (.lit "x"), validLogin] = [.raised] := by decide +kernel
  refine ⟨⟨[255], by decide⟩, .lit "x", by decide, by decide, hloop, fun h ↦ ?_⟩
  have hlength := h.length_eq
  rw [hloop] at hlength
  exact absurd hlength (by decide)

end IotMonitoring.Auth.AcceptLoop
