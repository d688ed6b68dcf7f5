import IotMonitoring.Auth.InitDb
import IotMonitoring.Auth.Utf8
import IotMonitoring.Operator.ParseSensors
import IotMonitoring.Server.AuthClient
import Mathlib.Data.Bool.AllAny

/-!
# The login of the web application

`AuthService.validate` asks the same service as the server does, over a connection of its own. It
sends user name and password whole, in the default character set of the JVM, and the service reads
at most 1024 bytes of it as UTF-8. So the verdict is right for longer credentials than the server
can check, and for characters beyond ASCII where the default is UTF-8; colons and white space at the
edges are lost on this way, too.
-/

namespace IotMonitoring.Operator.WebLogin

open Text
open Auth.AuthServer Auth.InitDb
open Server.AuthClient hiding request
open ParseSensors

/-- What `readLine` returns of a stream that ends after these bytes. -/
def readLine (stream : Bytes) : Option Bytes :=
  if stream = [] then none else some (stream.takeWhile fun b ↦ b ≠ 10 ∧ b ≠ 13)

/-- What `println` sends. -/
def request (charset : DefaultCharset) (username password : JavaString) : Bytes :=
  charset.encode (username ++ ':' :: password ++ ['\n'])

/-- `validate`. The service is `none` where the connection fails; both streams use the default
character set. -/
def validate (charset : DefaultCharset) (service : Option (Bytes → Bytes))
    (username password : JavaString) : Option JavaString :=
  match service with
  | none => none
  | some exchange =>
    match readLine (exchange (request charset username password)) with
    | none => none
    | some line =>
      let response := charset.decode line
      if "ROLE:".toList.isPrefixOf response then some (trim (response.drop 5)) else none

/-- `authenticate`: the name and the authority of the token, or `BadCredentialsException`;
`toUpperCase` is left open. -/
def authenticate (toUpperCase : JavaString → JavaString) (charset : DefaultCharset)
    (service : Option (Bytes → Bytes)) (username password : JavaString) :
    Option (JavaString × JavaString) :=
  (validate charset service username password).map fun role ↦
    (username, "ROLE_".toList ++ toUpperCase role)

/-- The service with its `recv` of 1024 bytes. -/
def exchange (users : List User) (data : Bytes) : Bytes := answer users (data.take 1024)

/-- Credentials that survive the way to the service. -/
structure Deliverable (username password : JavaString) : Prop where
  short : (encode username).length + 1 + (encode password).length ≤ 1024
  noColon : ':' ∉ username
  noLeadingSpace : ∀ c, username.head? = some c → isSpace c = false
  noTrailingSpace : ∀ c, password.getLast? = some c → isSpace c = false

/-- The default character set writes the credentials as the service reads them. -/
def SentAsUtf8 (charset : DefaultCharset) (username password : JavaString) : Prop :=
  request charset username password = encode (username ++ ':' :: password ++ ['\n'])

/-- Whatever the users are, exactly the credentials of one of them are authenticated. -/
def VerdictRight (toUpperCase : JavaString → JavaString) (charset : DefaultCharset)
    (username password : JavaString) : Prop :=
  ∀ users : List User, (∀ user ∈ users, user.role ≠ []) →
    ((authenticate toUpperCase charset (some (exchange users)) username password).isSome ↔
      ∃ user ∈ users, user.username = username ∧ user.password = password)

/-! ## The request -/

theorem length_encode_join (username password : JavaString) :
    (encode (username ++ ':' :: password)).length =
      (encode username).length + 1 + (encode password).length := by
  have hcolon : encode (':' :: password) = 58 :: encode password := rfl
  rw [encode_append, hcolon, List.length_append, List.length_cons]
  omega

/-- Stripping takes no bytes from what is left. -/
theorem length_encode_strip_le (text : PyString) :
    (encode (strip text)).length ≤ (encode text).length := by
  obtain ⟨behind, hbehind⟩ := trimWith_prefix_dropWhile (p := isSpace) text
  obtain ⟨front, hfront⟩ := List.dropWhile_suffix isSpace (l := text)
  have htext : text = front ++ (strip text ++ behind) := by
    rw [strip_eq_trimWith, hbehind, hfront]
  have hlength := congrArg (fun text ↦ (encode text).length) htext
  simp only [encode_append, List.length_append] at hlength
  omega

/-- ASCII credentials are written as in UTF-8. -/
theorem sentAsUtf8_of_ascii (charset : DefaultCharset) {username password : JavaString}
    (husername : ∀ c ∈ username, c.toNat < 128) (hpassword : ∀ c ∈ password, c.toNat < 128) :
    SentAsUtf8 charset username password := by
  have hascii : ∀ c ∈ username ++ ':' :: password ++ ['\n'], c.toNat < 128 :=
    List.forall_mem_append.mpr ⟨List.forall_mem_append.mpr
      ⟨husername, List.forall_mem_cons.mpr ⟨by decide, hpassword⟩⟩,
      List.forall_mem_singleton.mpr (by decide)⟩
  rw [SentAsUtf8, request, charset.encode_of_ascii _ hascii, encode_of_ascii hascii]

theorem credentials_request_iff {charset : DefaultCharset} {username password : JavaString}
    (hsent : SentAsUtf8 charset username password) :
    credentials ((request charset username password).take 1024) = some (username, password) ↔
      Deliverable username password := by
  rw [hsent]
  have hedges : CleanEdges isSpace (username ++ ':' :: password) ↔
      (∀ c, username.head? = some c → isSpace c = false) ∧
        ∀ c, password.getLast? = some c → isSpace c = false := cleanEdges_join_iff (by decide)
  constructor
  · intro h
    obtain ⟨decoded, hdecode, hsplit⟩ := Option.bind_eq_some_iff.mp h
    obtain ⟨hstrip, hcolon⟩ := splitColon_eq_some_iff.mp hsplit
    have hclean := cleanEdges_trimWith (p := isSpace) decoded
    rw [← strip_eq_trimWith, hstrip] at hclean
    obtain ⟨hhead, hlast⟩ := hedges.mp hclean
    have hsize : (encode (strip decoded)).length ≤ 1024 := by
      refine (length_encode_strip_le decoded).trans ?_
      rw [encode_of_decode hdecode, List.length_take]
      exact min_le_left _ _
    rw [hstrip, length_encode_join] at hsize
    exact ⟨hsize, hcolon, hhead, hlast⟩
  · rintro ⟨hshort, hcolon, hhead, hlast⟩
    have hjoin : (encode (username ++ ':' :: password)).length ≤ 1024 := by
      rwa [length_encode_join]
    -- At most the line end is cut.
    have hreceived : (encode (username ++ ':' :: password ++ ['\n'])).take 1024 =
        encode (username ++ ':' :: password ++
          ['\n'].take (1024 - (encode (username ++ ':' :: password)).length)) := by
      rw [encode_append, encode_append (username ++ ':' :: password) (List.take _ _),
        List.take_append, List.take_of_length_le hjoin]
      congr 1
      cases 1024 - (encode (username ++ ':' :: password)).length with
      | zero => rfl
      | succ n =>
        have hnewline : encode ['\n'] = [10] := by decide
        rw [hnewline, List.take_of_length_le (by simp), List.take_of_length_le (by simp), hnewline]
    have hspaces : ∀ c ∈ ['\n'].take (1024 - (encode (username ++ ':' :: password)).length),
        isSpace c := by
      intro c hc
      obtain rfl := List.mem_singleton.mp (List.mem_of_mem_take hc)
      decide
    have hstrip := trimWith_append (by simp : username ++ ':' :: password ≠ [])
      (hedges.mpr ⟨hhead, hlast⟩) hspaces
    rw [credentials, hreceived, decode_encode, Option.bind_some, strip_eq_trimWith, hstrip]
    exact splitColon_append hcolon password

/-! ## The answer -/

/-- An ASCII text is encoded as the bytes it was read from. -/
theorem encode_textOf {s : CString} (hascii : ∀ b ∈ s.bytes, b < 0x80) :
    encode (textOf s) = s.bytes := encode_of_decode (decode_ascii hascii)

theorem ascii_textOf {s : CString} (hascii : ∀ b ∈ s.bytes, b < 0x80) :
    ∀ c ∈ textOf s, c.toNat < 128 := by
  intro c hc
  obtain ⟨b, hb, rfl⟩ := List.mem_map.mp hc
  rw [toNat_charOf (hascii b hb)]
  exact UInt8.lt_iff_toNat_lt.mp (hascii b hb)

/-- A newline behind a text with a colon is stripped. -/
theorem strip_append_newline {text : PyString} (hcolon : ':' ∈ text) :
    strip (text ++ ['\n']) = strip text := by
  have hleft : (text.dropWhile isSpace).isEmpty = false := by
    rw [List.isEmpty_eq_false_iff, ne_eq, List.dropWhile_eq_nil_iff]
    exact fun hall ↦ absurd (hall ':' hcolon) (by decide)
  rw [strip, strip, List.dropWhile_append, hleft, if_neg (by decide),
    List.rdropWhile_concat_pos _ _ _ (by decide)]

/-- What the service finds in short credentials does not depend on the client. -/
theorem credentials_eq (charset : DefaultCharset) {username password : CString}
    (husername : ∀ b ∈ username.bytes, b < 0x80)
    (hpassword : ∀ b ∈ password.bytes, b < 0x80)
    (hshort : username.length + 1 + password.length ≤ 255) :
    credentials ((request charset (textOf username) (textOf password)).take 1024) =
      credentials (Server.AuthClient.request username password).bytes := by
  have hlength : (textOf username ++ ':' :: textOf password).length ≤ 255 := by
    simp only [textOf, CString.length, List.length_append, List.length_cons,
      List.length_map] at hshort ⊢
    omega
  have hsent : SentAsUtf8 charset (textOf username) (textOf password) :=
    sentAsUtf8_of_ascii charset (ascii_textOf husername) (ascii_textOf hpassword)
  have hweb : (request charset (textOf username) (textOf password)).take 1024 =
      encode (textOf username ++ ':' :: textOf password ++ ['\n']) := by
    rw [hsent]
    apply List.take_of_length_le
    rw [encode_append, List.length_append, length_encode_join, encode_textOf husername,
      encode_textOf hpassword, (by decide : (encode ['\n']).length = 1)]
    simp only [CString.length] at hshort
    omega
  rw [hweb, credentials, credentials, decode_encode, decode_request husername hpassword,
    Option.bind_some, Option.bind_some, List.take_append, List.take_of_length_le hlength,
    strip_append_newline (by simp)]
  cases 255 - (textOf username ++ ':' :: textOf password).length with
  | zero => rw [List.take_zero, List.append_nil]
  | succ n => rw [List.take_of_length_le (by simp), strip_append_newline (by simp)]

theorem answer_of_verifyUser {users : List User} {data : Bytes} {username password role : PyString}
    (hcredentials : credentials data = some (username, password))
    (hverify : verifyUser users username password = some role) (hrole : role ≠ []) :
    answer users data = encode ("ROLE:".toList ++ role ++ "\n".toList) := by
  have hne : data ≠ [] := by
    rintro rfl
    cases hcredentials
  obtain ⟨decoded, hdecode, hsplit⟩ := Option.bind_eq_some_iff.mp hcredentials
  simp only [answer, serve, if_neg hne, hdecode, hsplit, hverify, if_pos hrole]

/-- The server stores the role of the reply, and the web application returns it. -/
theorem verdicts_of_reply (charset : DefaultCharset) {service service' : Bytes → Bytes}
    {role : PyString}
    (hrole : role ∈ ["ADMIN".toList, "OPERATOR".toList]) {username password : CString}
    (hserver : service (Server.AuthClient.request username password).bytes =
      encode ("ROLE:".toList ++ role ++ "\n".toList)) {name secret : JavaString}
    (hweb : service' (request charset name secret) =
      encode ("ROLE:".toList ++ role ++ "\n".toList)) :
    authClientVerify (some service) username password 64 =
        .accepted (CString.read (encode role)) ∧
      validate charset (some service') name secret = some role := by
  have hline : ∀ role ∈ ["ADMIN".toList, "OPERATOR".toList],
      readLine (encode ("ROLE:".toList ++ role ++ "\n".toList)) =
        some (encode ("ROLE:".toList ++ role)) ∧
      ((encode ("ROLE:".toList ++ role)).all fun b ↦ decide (b < 128)) = true ∧
      "ROLE:".toList.isPrefixOf ((encode ("ROLE:".toList ++ role)).map character) = true ∧
      trim (((encode ("ROLE:".toList ++ role)).map character).drop 5) = role := by decide
  obtain ⟨hread, hascii, hstart, hrest⟩ := hline role hrole
  have hdecode := charset.decode_of_ascii fun b hb ↦ by simpa using List.all_eq_true.mp hascii b hb
  constructor
  · simp only [authClientVerify, hserver]
    simp only [List.mem_cons, List.not_mem_nil, or_false] at hrole
    obtain rfl | rfl := hrole
    · decide
    · decide
  · simp only [validate, hweb, hread, hdecode, hstart, hrest, if_true]

/-- Bytes that read as ASCII characters are ASCII. -/
theorem ascii_of_textOf {s : CString} (h : ∀ c ∈ textOf s, c.toNat < 128) :
    ∀ b ∈ s.bytes, b < 0x80 := by
  intro b hb
  have hcode := h (charOf b) (List.mem_map_of_mem hb)
  rw [UInt8.lt_iff_toNat_lt]
  exact (toNat_character b).symm.trans_lt hcode

/-- What can be seen of the credentials that the script inserts. -/
theorem seeds_facts : ∀ user ∈ seeds,
    user.username.all (·.toNat < 128) ∧ user.password.all (·.toNat < 128) ∧
      user.username.length + 1 + user.password.length ≤ 255 ∧ ':' ∉ user.username ∧
      user.username.head?.all (! isSpace ·) ∧ user.password.getLast?.all (! isSpace ·) ∧
      user.role ∈ ["ADMIN".toList, "OPERATOR".toList] := by decide +kernel

/-- A user of `init_db.py` whose name was free logs in at the server and in the web application,
with its own role. -/
theorem logins_of_seeds (toUpperCase : JavaString → JavaString) (charset : DefaultCharset)
    {table : Option (List User)} (hunique : ((table.getD []).map User.username).Nodup)
    {user : User} (huser : user ∈ seeds)
    (hnew : user.username ∉ (table.getD []).map User.username) {username password : CString}
    (hname : textOf username = user.username) (hpassword : textOf password = user.password) :
    authClientVerify (some (answer (initDb table))) username password 64 =
        .accepted (CString.read (encode user.role)) ∧
      authenticate toUpperCase charset (some (exchange (initDb table))) user.username
        user.password = some (user.username, "ROLE_".toList ++ toUpperCase user.role) := by
  obtain ⟨hnameAscii, hpasswordAscii, hlength, hcolon, hhead, hlast, hrole⟩ :=
    seeds_facts user huser
  have hverify : verifyUser (initDb table) user.username user.password = some user.role :=
    verifyUser_of_mem (nodup_initDb hunique) (mem_initDb_of_new huser hnew)
  have hroleNe : user.role ≠ [] := by
    rintro heq
    rw [heq] at hrole
    exact absurd hrole (by decide)
  have husername := ascii_of_textOf (hname ▸ List.all_iff_forall_prop.mp hnameAscii)
  have hsecret := ascii_of_textOf (hpassword ▸ List.all_iff_forall_prop.mp hpasswordAscii)
  have hshort : username.length + 1 + password.length ≤ 255 := by
    rw [← hname, ← hpassword, textOf, textOf, List.length_map, List.length_map] at hlength
    exact hlength
  have hdeliverable : Deliverable user.username user.password := by
    refine ⟨?_, hcolon, fun c hc ↦ ?_, fun c hc ↦ ?_⟩
    · rw [← hname, ← hpassword, encode_textOf husername, encode_textOf hsecret]
      exact le_trans hshort (by decide)
    · simpa [hc] using hhead
    · simpa [hc] using hlast
  have hsent : SentAsUtf8 charset user.username user.password :=
    sentAsUtf8_of_ascii charset (by simpa using hnameAscii) (by simpa using hpasswordAscii)
  have hcredentials := (credentials_request_iff hsent).mpr hdeliverable
  have hcredentials' := credentials_eq charset husername hsecret hshort
  rw [hname, hpassword, hcredentials] at hcredentials'
  have hweb : exchange (initDb table) (request charset user.username user.password) =
      encode ("ROLE:".toList ++ user.role ++ "\n".toList) :=
    answer_of_verifyUser hcredentials hverify hroleNe
  have hserver := answer_of_verifyUser hcredentials'.symm hverify hroleNe
  obtain ⟨haccepted, hvalidated⟩ := verdicts_of_reply charset hrole hserver hweb
  rw [authenticate, hvalidated]
  exact ⟨haccepted, rfl⟩

/-- The first user of a new database. -/
theorem logins_of_seeds_admin :
    authClientVerify (some (answer (initDb none))) (.lit "admin") (.lit "Admin@2024!") 64 =
        .accepted (CString.read (encode "ADMIN".toList)) ∧
      authenticate id .usAscii (some (exchange (initDb none))) "admin".toList
        "Admin@2024!".toList = some ("admin".toList, "ROLE_".toList ++ id "ADMIN".toList) :=
  logins_of_seeds id .usAscii (by simp) (by simp [seeds, userOf] : userOf "admin"
    "Admin@2024!" "ADMIN" ∈ seeds) (by simp) (by decide) (by decide)

end IotMonitoring.Operator.WebLogin
