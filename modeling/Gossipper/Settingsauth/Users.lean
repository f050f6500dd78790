/-
Module: Gossipper.Settingsauth.Users
Purpose: The users table and the statements on it, after
  `internal/settingsauth/store.go`.
Trusted boundary: a statement is executed as a whole (the pool has one connection) and,
  where it is not said otherwise, does not fail; bcrypt is a function of the password.
  The number of rows ever inserted stays below the largest row id.
Main exports: Users, noCaseKey, createUser, listUsers, getUser, mem_upsert_other, exists_target
-/
import Gossipper.Go.Text
import Gossipper.Lib.Table

namespace Gossipper.Settingsauth

open Go List

/-! ### The table -/

/-- `User`: what the queries return of a row. -/
structure User where
  id : Int
  username : Bytes
  role : Bytes
  createdAt : Bytes
deriving DecidableEq, Repr

/-- The zero value of `User`. -/
def User.zero : User where
  id := 0
  username := []
  role := []
  createdAt := []

/-- A row of the table. -/
structure Row extends User where
  passwordHash : Bytes
deriving DecidableEq, Repr

/-- The folding of letters in the collation `NOCASE`, which knows the ASCII letters only. -/
def noCaseLower (b : UInt8) : UInt8 :=
  if 0x41 ≤ b ∧ b ≤ 0x5A then b + 0x20 else b

/-- Two names are equal for `NOCASE` when their keys are.  The comparison of the bytes
stops at a NUL, the comparison of the lengths does not. -/
def noCaseKey (name : Bytes) : Nat × Bytes :=
  (name.length, (name.takeWhile (· != 0)).map noCaseLower)

/-- The name of a row, as the unique index sees it. -/
def Row.key (row : Row) : Nat × Bytes := noCaseKey row.username

/-- The users table with its `AUTOINCREMENT` counter; the rows are in the order of their
ids. -/
structure Users where
  rows : List Row
  nextID : Int
  ordered : (rows.map (·.id)).Pairwise (· < ·)
  unique : (rows.map Row.key).Nodup
  positive : ∀ row ∈ rows, 0 < row.id
  fresh : ∀ row ∈ rows, row.id < nextID
  started : 0 < nextID

variable {users : Users}

theorem Users.eq_of_key (member : row ∈ users.rows)
    (also : other ∈ users.rows) (same : row.key = other.key) : row = other :=
  inj_on_of_nodup_map users.unique member also same

/-! ### Statements -/

/-- An `UPDATE` that sets neither the id nor the name. -/
def Users.update (users : Users) (where_ : Row → Bool) (change : Row → Row)
    (ids : ∀ row, (change row).id = row.id)
    (names : ∀ row, (change row).username = row.username) : Users where
  rows := Table.update where_ change users.rows
  nextID := users.nextID
  ordered := by
    rw [Table.map_update _ ids]
    exact users.ordered
  unique := by
    rw [Table.map_update Row.key fun row => congrArg noCaseKey (names row)]
    exact users.unique
  positive := by
    intro row member
    obtain ⟨old, inTable, rfl⟩ := Table.mem_update.mp member
    rw [apply_ite (fun row : Row => row.id), ids, ite_self]
    exact users.positive old inTable
  fresh := by
    intro row member
    obtain ⟨old, inTable, rfl⟩ := Table.mem_update.mp member
    rw [apply_ite (fun row : Row => row.id), ids, ite_self]
    exact users.fresh old inTable
  started := users.started

/-- `UPDATE users SET password_hash = ?`. -/
def Users.setPassword (users : Users) (where_ : Row → Bool) (hash : Bytes) : Users :=
  users.update where_ (fun row => { row with passwordHash := hash })
    (fun _ => rfl) (fun _ => rfl)

/-- `UPDATE users SET role = ?`. -/
def Users.setRole (users : Users) (where_ : Row → Bool) (role : Bytes) : Users :=
  users.update where_ (fun row => { row with role }) (fun _ => rfl) (fun _ => rfl)

/-- The row of an `INSERT`: the role is the default of its column. -/
def Users.newRow (users : Users) (username hash now : Bytes) : Row where
  id := users.nextID
  username := username
  role := ascii "admin"
  createdAt := now
  passwordHash := hash

/-- `INSERT INTO users …` for a name that the table does not have. -/
def Users.insert (users : Users) (username hash now : Bytes)
    (absent : ∀ row ∈ users.rows, row.key ≠ noCaseKey username) : Users where
  rows := users.rows ++ [users.newRow username hash now]
  nextID := users.nextID + 1
  ordered := by
    rw [map_append, pairwise_append]
    refine ⟨users.ordered, pairwise_singleton _ _, ?_⟩
    intro id member other last
    obtain ⟨row, inTable, rfl⟩ := mem_map.mp member
    rw [map_singleton, mem_singleton] at last
    rw [last]
    exact users.fresh row inTable
  unique := by
    rw [map_append, nodup_append]
    refine ⟨users.unique, nodup_singleton _, ?_⟩
    intro key member other last
    obtain ⟨row, inTable, rfl⟩ := mem_map.mp member
    rw [map_singleton, mem_singleton] at last
    rw [last]
    exact absent row inTable
  positive := by
    intro row member
    rcases mem_append.mp member with inTable | last
    · exact users.positive row inTable
    · rw [mem_singleton.mp last]
      exact users.started
  fresh := by
    intro row member
    rcases mem_append.mp member with inTable | last
    · exact Int.lt_add_one_of_le (Int.le_of_lt (users.fresh row inTable))
    · rw [mem_singleton.mp last]
      exact Int.lt_succ _
  started := Int.lt_add_one_of_le (Int.le_of_lt users.started)

/-- `DELETE FROM users WHERE id = ?`. -/
def Users.remove (users : Users) (id : Int) : Users where
  rows := users.rows.filter (·.id != id)
  nextID := users.nextID
  ordered := users.ordered.sublist (filter_sublist.map _)
  unique := users.unique.sublist (filter_sublist.map _)
  positive := fun row member => users.positive row (mem_of_mem_filter member)
  fresh := fun row member => users.fresh row (mem_of_mem_filter member)
  started := users.started

/-- The row with a name, which the unique index finds. -/
def Users.named (users : Users) (username : Bytes) : Option Row :=
  users.rows.find? fun row => row.key == noCaseKey username

variable {username : Bytes} {row : Row}

theorem Users.named_eq_some (found : users.named username = some row) :
    row ∈ users.rows ∧ row.key = noCaseKey username :=
  ⟨mem_of_find?_eq_some found, eq_of_beq (find?_some (p := fun row : Row =>
    row.key == noCaseKey username) found)⟩

theorem Users.absent_of_named (missing : users.named username = none) :
    ∀ row ∈ users.rows, row.key ≠ noCaseKey username := by
  intro row member same
  have differs := find?_eq_none.mp missing row member
  exact differs (beq_iff_eq.mpr same)

open Users

theorem Users.named_of_mem (member : row ∈ users.rows)
    (same : row.key = noCaseKey username) : users.named username = some row := by
  cases found : users.named username with
  | none => exact absurd same (absent_of_named found row member)
  | some other =>
    obtain ⟨inTable, key⟩ := named_eq_some found
    rw [eq_of_key inTable member (key.trans same.symm)]

/-- `INSERT INTO users … ON CONFLICT(username) DO UPDATE SET password_hash = …`. -/
def Users.upsert (users : Users) (username hash now : Bytes) : Users :=
  match found : users.named username with
  | some _ => users.setPassword (fun row => row.key == noCaseKey username) hash
  | none => users.insert username hash now (Users.absent_of_named found)

/-! ### The functions of the store -/

/-- The errors of the store; `hashing` carries the text of the error of bcrypt. -/
inductive StoreError where
  | usernameRequired
  | passwordShort
  | roleRequired
  | hashing (text : Bytes)
  | noRows
deriving DecidableEq, Repr

/-- `Error()`. -/
def StoreError.text : StoreError → Bytes
  | .usernameRequired => ascii "username is required"
  | .passwordShort => ascii "password must be at least 8 characters"
  | .roleRequired => ascii "role is required"
  | .hashing text => text
  | .noRows => ascii "sql: no rows in result set"

/-- `bcrypt.GenerateFromPassword` with the salt it draws: the hash or the text of its
error. -/
abbrev Bcrypt := Bytes → Except Bytes Bytes

/-- The checks of a password and its hash, as `CreateUser` and `UpdateUserPassword` make
them. -/
def hashPassword (bcrypt : Bcrypt) (password : Bytes) : Except StoreError Bytes :=
  if password.length < 8 then .error .passwordShort
  else (bcrypt password).mapError .hashing

/-- `CreateUser`. -/
def createUser (bcrypt : Bcrypt) (now username password : Bytes) (users : Users) :
    Except StoreError Users :=
  let username := trimSpace username
  if username = [] then .error .usernameRequired
  else
    match hashPassword bcrypt password with
    | .error err => .error err
    | .ok hash => .ok (users.upsert username hash now)

/-- `ListUsers`. -/
def listUsers (users : Users) : List User := users.rows.map Row.toUser

/-- `GetUser`, with `none` for `sql.ErrNoRows`. -/
def getUser (id : Int) (users : Users) : Option User :=
  (listUsers users).find? (·.id == id)

/-- What `RowsAffected` tells of a statement on one id. -/
def affected (users : Users) (id : Int) : Bool := users.rows.any (·.id == id)

/-- `UpdateUserRole`. -/
def updateUserRole (id : Int) (role : Bytes) (users : Users) : Except StoreError Users :=
  let role := trimSpace role
  if role = [] then .error .roleRequired
  else if affected users id then .ok (users.setRole (·.id == id) role)
  else .error .noRows

/-- `UpdateUserPassword`. -/
def updateUserPassword (bcrypt : Bcrypt) (id : Int) (password : Bytes) (users : Users) :
    Except StoreError Users :=
  match hashPassword bcrypt password with
  | .error err => .error err
  | .ok hash =>
    if affected users id then .ok (users.setPassword (·.id == id) hash)
    else .error .noRows

/-- `DeleteUser`. -/
def deleteUser (id : Int) (users : Users) : Except StoreError Users :=
  if affected users id then .ok (users.remove id) else .error .noRows

theorem affected_iff {id} :
    affected users id = true ↔ ∃ row ∈ users.rows, row.id = id := by
  simp [affected, any_eq_true, beq_iff_eq]

/-! ### What an upsert does -/

/-- The name under which the table knows a user: that of the row which is there, or the
name that a new row gets. -/
def Users.storedName (users : Users) (username : Bytes) : Bytes :=
  match users.named username with
  | some row => row.username
  | none => username

/-- The role that the row of a name has right after the upsert. -/
def Users.currentRole (users : Users) (username : Bytes) : Bytes :=
  match users.named username with
  | some row => row.role
  | none => ascii "admin"

theorem Users.mem_upsert_other {username hash now} (other : row.key ≠ noCaseKey username) :
    row ∈ (users.upsert username hash now).rows ↔ row ∈ users.rows := by
  unfold upsert
  split
  · constructor
    · intro member
      obtain ⟨old, inTable, rfl⟩ := Table.mem_update.mp member
      split at other
      · rename_i selected
        exact absurd (eq_of_beq selected) other
      · rename_i notSelected
        rw [if_neg notSelected]
        exact inTable
    · intro member
      exact Table.mem_update_of_not member (beq_eq_false_iff_ne.mpr other)
  · constructor
    · intro member
      rcases mem_append.mp member with inTable | last
      · exact inTable
      · rw [mem_singleton.mp last] at other
        exact absurd rfl other
    · intro member
      exact mem_append_left _ member

/-- The row of the name is there, under the stored name and with the current role. -/
theorem Users.exists_target (users : Users) (username hash now : Bytes) :
    ∃ row ∈ (users.upsert username hash now).rows, row.key = noCaseKey username ∧
      row.username = users.storedName username ∧ row.role = users.currentRole username := by
  unfold upsert storedName currentRole
  split
  · rename_i row found
    obtain ⟨inTable, key⟩ := named_eq_some found
    refine ⟨{ row with passwordHash := hash }, ?_, key, ?_, ?_⟩
    · exact Table.mem_update_of_where inTable (beq_iff_eq.mpr key)
    · rw [found]
    · rw [found]
  · rename_i missing
    refine ⟨users.newRow username hash now, ?_, rfl, ?_, ?_⟩
    · exact mem_append_right _ (mem_singleton.mpr rfl)
    · rw [missing]
      rfl
    · rw [missing]
      rfl

end Gossipper.Settingsauth
