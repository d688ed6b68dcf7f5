import IotMonitoring.Auth.AuthServer
import Mathlib.Data.List.Nodup

/-!
# The users table

`init_db.py` creates the table `users` where it is missing and inserts eleven users with
`INSERT OR IGNORE`. The user name is the primary key, so a row whose name is taken is ignored: what
stands in the table is neither overwritten nor doubled, and running the script again changes
nothing.
-/

namespace IotMonitoring.Auth.InitDb

open AuthServer

/-- `INSERT OR IGNORE INTO users`. -/
def insertOrIgnore (users : List User) (user : User) : List User :=
  if ∃ row ∈ users, row.username = user.username then users else users ++ [user]

def userOf (username password role : String) : User :=
  ⟨username.toList, password.toList, role.toList⟩

/-- The rows that the script inserts. -/
def seeds : List User :=
  [userOf "admin" "Admin@2024!" "ADMIN",
    userOf "jtrujillo" "Telematica#1" "OPERATOR",
    userOf "mgarcia" "Garcia$2024" "OPERATOR",
    userOf "clopez" "Lopez@IoT1" "OPERATOR",
    userOf "amorales" "Morales#456" "OPERATOR",
    userOf "dherrera" "Herrera$789" "OPERATOR",
    userOf "lcastro" "Castro@2024" "OPERATOR",
    userOf "fmendoza" "Mendoza#IoT" "OPERATOR",
    userOf "pjimenez" "Jimenez$321" "OPERATOR",
    userOf "rvargas" "Vargas@654" "OPERATOR",
    userOf "nrojas" "Rojas#2024!" "OPERATOR"]

/-- The script, for the table that the database holds; `none` where there is none. -/
def initDb (table : Option (List User)) : List User := seeds.foldl insertOrIgnore (table.getD [])

/-! ## Insertions -/

/-- A row is inserted unless its name is taken. -/
theorem insertOrIgnore_eq (users : List User) (user : User) :
    insertOrIgnore users user =
      if user.username ∈ users.map User.username then users else users ++ [user] := by
  simp only [insertOrIgnore, List.mem_map]

theorem prefix_insertOrIgnore (users : List User) (user : User) :
    users <+: insertOrIgnore users user := by
  rw [insertOrIgnore_eq]
  split
  · exact List.prefix_refl _
  · exact List.prefix_append _ _

/-- Afterwards the name is taken. -/
theorem mem_insertOrIgnore (users : List User) (user : User) :
    user.username ∈ (insertOrIgnore users user).map User.username := by
  rw [insertOrIgnore_eq]
  split
  · assumption
  · simp

theorem prefix_insertAll (users rows : List User) : users <+: rows.foldl insertOrIgnore users := by
  induction rows generalizing users with
  | nil => exact List.prefix_refl _
  | cons row rows ih => exact (prefix_insertOrIgnore users row).trans (ih _)

theorem mem_insertAll (users : List User) {rows : List User} {row : User} (hrow : row ∈ rows) :
    row.username ∈ (rows.foldl insertOrIgnore users).map User.username := by
  induction rows generalizing users with
  | nil => cases hrow
  | cons first rows ih =>
    obtain rfl | hrow := List.mem_cons.mp hrow
    · exact ((prefix_insertAll _ rows).map User.username).mem (mem_insertOrIgnore users row)
    · exact ih _ hrow

/-- Rows whose names are all taken change nothing. -/
theorem insertAll_of_taken {users rows : List User}
    (h : ∀ row ∈ rows, row.username ∈ users.map User.username) :
    rows.foldl insertOrIgnore users = users := by
  induction rows with
  | nil => rfl
  | cons row rows ih =>
    obtain ⟨hrow, hrows⟩ := List.forall_mem_cons.mp h
    rw [List.foldl_cons, insertOrIgnore_eq, if_pos hrow]
    exact ih hrows

/-- A row whose name is new and comes up once is inserted as it is. -/
theorem mem_insertAll_of_new {users rows : List User} {row : User} (hrow : row ∈ rows)
    (hnew : row.username ∉ users.map User.username) (hunique : (rows.map User.username).Nodup) :
    row ∈ rows.foldl insertOrIgnore users := by
  induction rows generalizing users with
  | nil => cases hrow
  | cons first rows ih =>
    rw [List.map_cons, List.nodup_cons] at hunique
    obtain ⟨hfirst, hrest⟩ := hunique
    rw [List.foldl_cons]
    obtain rfl | hmem := List.mem_cons.mp hrow
    · refine (prefix_insertAll _ rows).mem ?_
      rw [insertOrIgnore_eq, if_neg hnew]
      simp
    · refine ih hmem ?_ hrest
      have hne : row.username ≠ first.username := by
        intro heq
        exact hfirst (heq ▸ List.mem_map_of_mem hmem)
      rw [insertOrIgnore_eq]
      split
      · exact hnew
      · simp [hnew, hne]

/-- Insertions keep the names unique. -/
theorem nodup_insertAll {users : List User} (h : (users.map User.username).Nodup)
    (rows : List User) : ((rows.foldl insertOrIgnore users).map User.username).Nodup := by
  induction rows generalizing users with
  | nil => exact h
  | cons row rows ih =>
    refine ih ?_
    rw [insertOrIgnore_eq]
    split
    · exact h
    · rename_i hnew
      rw [List.map_append, List.nodup_append]
      exact ⟨h, by simp, by grind⟩

/-! ## Look-ups -/

/-- With unique names a row is found under its own credentials. -/
theorem verifyUser_of_mem {users : List User} (hunique : (users.map User.username).Nodup)
    {user : User} (hmem : user ∈ users) :
    verifyUser users user.username user.password = some user.role := by
  induction users with
  | nil => cases hmem
  | cons first users ih =>
    rw [List.map_cons, List.nodup_cons] at hunique
    obtain ⟨hfirst, hrest⟩ := hunique
    obtain rfl | hmem := List.mem_cons.mp hmem
    · simp [verifyUser]
    · have hne : first.username ≠ user.username := by
        intro heq
        exact hfirst (heq ▸ List.mem_map_of_mem hmem)
      have hlater := ih hrest hmem
      rw [verifyUser] at hlater ⊢
      rwa [List.find?_cons_of_neg (by simp [hne])]

/-- A name has one password and one role. -/
theorem of_verifyUser {users : List User} (hunique : (users.map User.username).Nodup) {user : User}
    (hmem : user ∈ users) {password role : PyString}
    (h : verifyUser users user.username password = some role) :
    password = user.password ∧ role = user.role := by
  obtain ⟨found, hfind, rfl⟩ := Option.map_eq_some_iff.mp h
  have hfound := List.mem_of_find?_eq_some hfind
  obtain ⟨hname, hpassword⟩ : found.username = user.username ∧ found.password = password := by
    simpa using List.find?_some hfind
  obtain rfl : found = user := List.inj_on_of_nodup_map hunique hfound hmem hname
  exact ⟨hpassword.symm, rfl⟩

theorem nodup_seeds : (seeds.map User.username).Nodup := by decide +kernel

theorem mem_initDb_of_new {table : Option (List User)} {user : User} (huser : user ∈ seeds)
    (hnew : user.username ∉ (table.getD []).map User.username) : user ∈ initDb table := by
  rw [initDb]
  exact mem_insertAll_of_new huser hnew nodup_seeds

theorem nodup_initDb {table : Option (List User)}
    (hunique : ((table.getD []).map User.username).Nodup) :
    ((initDb table).map User.username).Nodup := by
  rw [initDb]
  exact nodup_insertAll hunique seeds

/-- The script run any number of times leaves the table of its first run: unique names, the rows
that stood there in front, each with its own password and role as before, and behind them the users
whose names were free. -/
theorem verifyUser_initDb {table : Option (List User)}
    (hunique : ((table.getD []).map User.username).Nodup) :
    initDb (some (initDb table)) = initDb table ∧
      ((initDb table).map User.username).Nodup ∧ table.getD [] <+: initDb table ∧
      (∀ user ∈ table.getD [], ∀ password role,
        verifyUser (initDb table) user.username password = some role ↔
          password = user.password ∧ role = user.role) ∧
      ∀ user ∈ seeds, user.username ∉ (table.getD []).map User.username → ∀ password role,
        verifyUser (initDb table) user.username password = some role ↔
          password = user.password ∧ role = user.role := by
  have hnodup := nodup_initDb hunique
  have hkeep : table.getD [] <+: initDb table := by
    rw [initDb]
    exact prefix_insertAll _ seeds
  have htaken : ∀ row ∈ seeds, row.username ∈ (initDb table).map User.username := by
    rw [initDb]
    exact fun row hrow ↦ mem_insertAll _ hrow
  have hagain : initDb (some (initDb table)) = initDb table := by
    rw [initDb, Option.getD_some]
    exact insertAll_of_taken htaken
  have hverify : ∀ user ∈ initDb table, ∀ password role,
      verifyUser (initDb table) user.username password = some role ↔
        password = user.password ∧ role = user.role := by
    refine fun user huser password role ↦ ⟨of_verifyUser hnodup huser, ?_⟩
    rintro ⟨rfl, rfl⟩
    exact verifyUser_of_mem hnodup huser
  exact ⟨hagain, hnodup, hkeep, fun user huser ↦ hverify user (hkeep.mem huser),
    fun user huser hnew ↦ hverify user (mem_initDb_of_new huser hnew)⟩

/-- A table in which the administrator has another password. -/
theorem verifyUser_initDb_changed_password :
    let table : Option (List User) := some [userOf "admin" "changed" "ADMIN"]
    initDb (some (initDb table)) = initDb table ∧
      ((initDb table).map User.username).Nodup ∧ table.getD [] <+: initDb table ∧
      (∀ user ∈ table.getD [], ∀ password role,
        verifyUser (initDb table) user.username password = some role ↔
          password = user.password ∧ role = user.role) ∧
      ∀ user ∈ seeds, user.username ∉ (table.getD []).map User.username → ∀ password role,
        verifyUser (initDb table) user.username password = some role ↔
          password = user.password ∧ role = user.role :=
  verifyUser_initDb (by simp)

end IotMonitoring.Auth.InitDb
