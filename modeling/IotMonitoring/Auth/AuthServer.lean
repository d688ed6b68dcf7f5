import IotMonitoring.Text.CString
import IotMonitoring.Text.Fields

/-!
# The authentication service

`auth_server.py` answers each connection with one line. It decodes the received bytes as UTF-8,
strips white space from both ends, splits the rest at the first colon, and looks the two parts up
in the users table by string equality. Undecodable input raises an exception in the accept loop.
-/

namespace IotMonitoring.Auth.AuthServer

open Text

/-- A Python string. -/
abbrev PyString := List Char

/-- A row of the table `users`. -/
structure User where
  username : PyString
  password : PyString
  role : PyString
deriving DecidableEq

/-- `verify_user`: the role of the first row that matches. -/
def verifyUser (users : List User) (username password : PyString) : Option PyString :=
  (users.find? fun user ↦ user.username = username ∧ user.password = password).map User.role

def isContinuation (b : UInt8) : Bool := 0x80 ≤ b ∧ b ≤ 0xBF

/-- The second bytes that may follow the first byte of a three-byte sequence. -/
def isSecondOfThree (a b : UInt8) : Bool :=
  (a = 0xE0 ∧ 0xA0 ≤ b ∧ b ≤ 0xBF) ∨ (a = 0xED ∧ 0x80 ≤ b ∧ b ≤ 0x9F) ∨
    (0xE1 ≤ a ∧ a ≤ 0xEF ∧ a ≠ 0xED ∧ isContinuation b)

/-- The second bytes that may follow the first byte of a four-byte sequence. -/
def isSecondOfFour (a b : UInt8) : Bool :=
  (a = 0xF0 ∧ 0x90 ≤ b ∧ b ≤ 0xBF) ∨ (a = 0xF4 ∧ 0x80 ≤ b ∧ b ≤ 0x8F) ∨
    (0xF1 ≤ a ∧ a ≤ 0xF3 ∧ isContinuation b)

/-- `data.decode('utf-8')`; `none` where it raises. -/
def decode : Bytes → Option PyString
  | [] => some []
  | a :: rest =>
    if a < 0x80 then (decode rest).map (Char.ofNat a.toNat :: ·)
    else
      match rest with
      | [] => none
      | b :: rest =>
        if 0xC2 ≤ a ∧ a ≤ 0xDF ∧ isContinuation b then
          (decode rest).map (Char.ofNat ((a.toNat - 0xC0) * 64 + (b.toNat - 0x80)) :: ·)
        else
          match rest with
          | [] => none
          | c :: rest =>
            if isSecondOfThree a b ∧ isContinuation c then
              (decode rest).map (Char.ofNat ((a.toNat - 0xE0) * 4096 + (b.toNat - 0x80) * 64 +
                (c.toNat - 0x80)) :: ·)
            else
              match rest with
              | [] => none
              | d :: rest =>
                if isSecondOfFour a b ∧ isContinuation c ∧ isContinuation d then
                  (decode rest).map (Char.ofNat ((a.toNat - 0xF0) * 262144 +
                    (b.toNat - 0x80) * 4096 + (c.toNat - 0x80) * 64 + (d.toNat - 0x80)) :: ·)
                else none

/-- `encode('utf-8')`. -/
def encode (text : PyString) : Bytes := text.flatMap String.utf8EncodeChar

/-- The characters that `str.strip` removes. -/
def isSpace (c : Char) : Bool :=
  (9 ≤ c.toNat ∧ c.toNat ≤ 13) ∨ (28 ≤ c.toNat ∧ c.toNat ≤ 32) ∨ c.toNat = 0x85 ∨
    c.toNat = 0xA0 ∨ c.toNat = 0x1680 ∨ (0x2000 ≤ c.toNat ∧ c.toNat ≤ 0x200A) ∨
    c.toNat = 0x2028 ∨ c.toNat = 0x2029 ∨ c.toNat = 0x202F ∨ c.toNat = 0x205F ∨ c.toNat = 0x3000

/-- `str.strip`. -/
def strip (text : PyString) : PyString := (text.dropWhile isSpace).rdropWhile isSpace

/-- `decoded.split(":", 1)` where the text has a colon. -/
def splitColon (text : PyString) : Option (PyString × PyString) :=
  if ':' ∈ text then some (text.takeWhile (· ≠ ':'), (text.dropWhile (· ≠ ':')).drop 1) else none

/-- How one pass of the accept loop ends. -/
inductive Iteration where
  | answered (reply : Bytes)
  | skipped
  | raised
deriving DecidableEq

/-- The body of the accept loop for the bytes one `recv` returns. -/
def serve (users : List User) (data : Bytes) : Iteration :=
  if data = [] then .skipped
  else
    match decode data with
    | none => .raised
    | some decoded =>
      match splitColon (strip decoded) with
      | none => .answered (ascii "ERROR:MALFORMED\n")
      | some (username, password) =>
        match verifyUser users username password with
        | some role =>
          if role ≠ [] then .answered (encode ("ROLE:".toList ++ role ++ "\n".toList))
          else .answered (ascii "ERROR:INVALID\n")
        | none => .answered (ascii "ERROR:INVALID\n")

/-! ## Plain text -/

theorem encode_append (front rest : PyString) :
    encode (front ++ rest) = encode front ++ encode rest := List.flatMap_append

theorem encode_of_ascii {text : PyString} (h : ∀ c ∈ text, c.toNat < 128) :
    encode text = text.map fun c ↦ c.toNat.toUInt8 := by
  rw [encode, ← List.flatMap_singleton' (text.map _), List.flatMap_map]
  apply List.flatMap_congr
  intro c hc
  have hcode : c.val.toNat ≤ 127 := Nat.lt_succ_iff.mp (h c hc)
  simp only [String.utf8EncodeChar, hcode, if_true]
  rfl

/-- The character of an ASCII byte. -/
def charOf (b : UInt8) : Char := Char.ofNat b.toNat

theorem decode_ascii {data : Bytes} (h : ∀ b ∈ data, b < 0x80) :
    decode data = some (data.map charOf) := by
  induction data with
  | nil => rfl
  | cons b data ih =>
    have hb := h b List.mem_cons_self
    have hdata := ih fun c hc ↦ h c (List.mem_cons_of_mem b hc)
    rw [decode.eq_def]
    simp [hb, hdata, charOf]

theorem toNat_charOf {b : UInt8} (h : b < 0x80) : (charOf b).toNat = b.toNat := by
  have hlt : b.toNat < 128 := UInt8.lt_iff_toNat_lt.mp h
  rw [charOf, Char.ofNat, dif_pos (.inl (by omega))]
  rfl

theorem strip_eq_trimWith (text : PyString) : strip text = trimWith isSpace text := rfl

theorem splitColon_append {username : PyString} (h : ':' ∉ username) (password : PyString) :
    splitColon (username ++ ':' :: password) = some (username, password) := by
  have hpos : ∀ c ∈ username, (!decide (c = ':')) = true := by
    intro c hc
    simpa using fun hcolon : c = ':' ↦ h (hcolon ▸ hc)
  simp [splitColon, List.takeWhile_append_of_pos hpos, List.dropWhile_append_of_pos hpos]

/-- The two parts are the ones around the first colon. -/
theorem splitColon_eq_some_iff {text username password : PyString} :
    splitColon text = some (username, password) ↔
      text = username ++ ':' :: password ∧ ':' ∉ username := by
  constructor
  · intro h
    have hmem : ':' ∈ text := by
      by_contra hcolon
      simp [splitColon, hcolon] at h
    obtain ⟨before, behind, rfl, hbefore⟩ := List.eq_append_cons_of_mem hmem
    rw [splitColon_append hbefore, Option.some.injEq, Prod.mk.injEq] at h
    exact h.1 ▸ h.2 ▸ ⟨rfl, hbefore⟩
  · rintro ⟨rfl, hcolon⟩
    exact splitColon_append hcolon password

end IotMonitoring.Auth.AuthServer
