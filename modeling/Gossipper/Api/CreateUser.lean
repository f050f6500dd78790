/-
Module: Gossipper.Api.CreateUser
Purpose: The request that creates a user and gives it its role, after
  `handleCreateUser` in `internal/api/v2/users.go`.
Trusted boundary: as for the users table; the body of the request has been decoded, and
  no other request is served in between.
Main exports: UserCreateBody, handleCreateUser, RoleGranted, Refused, role_granted_iff
-/
import Gossipper.Settingsauth.Users

namespace Gossipper.Api

open Go Settingsauth List

/-! ### The handler -/

/-- `userCreateBody`. -/
structure UserCreateBody where
  username : Bytes
  password : Bytes
  role : Bytes := []
deriving DecidableEq, Repr

/-- An answer: a JSON error with its status, a user with `201` or `200`, or `204`. -/
inductive Response where
  | error (status : Nat) (message : Bytes)
  | created (user : User)
  | ok (user : User)
  | noContent
deriving DecidableEq, Repr

/-- The role that a body asks for. -/
def UserCreateBody.requestedRole (body : UserCreateBody) : Bytes :=
  let role := trimSpace body.role
  if role = [] then ascii "operator" else role

/-- The loop over the users: the name is compared as it came. -/
def findCreated (list : List User) (username : Bytes) : User :=
  (list.find? (·.username == username)).getD .zero

/-- `handleCreateUser`. -/
def handleCreateUser (bcrypt : Bcrypt) (now : Bytes) (body : UserCreateBody) (users : Users) :
    Response × Users :=
  match createUser bcrypt now body.username body.password users with
  | .error err => (.error 400 err.text, users)
  | .ok users =>
    let created := findCreated (listUsers users) body.username
    let role := body.requestedRole
    if created.id != 0 then
      match updateUserRole created.id role users with
      | .error err => (.error 400 err.text, users)
      | .ok users => (.created { created with role }, users)
    else (.created created, users)

/-! ### The table after the request -/

variable (now : Bytes) (body : UserCreateBody) (users : Users)

theorem UserCreateBody.trimSpace_requestedRole :
    trimSpace body.requestedRole = body.requestedRole := by
  unfold UserCreateBody.requestedRole
  simp only
  split
  · decide
  · exact trimSpace_trimSpace body.role

theorem UserCreateBody.requestedRole_ne_nil :
    body.requestedRole ≠ [] := by
  unfold UserCreateBody.requestedRole
  simp only
  split
  · decide
  · assumption

/-- The loop finds the row whose stored name is the name as it came, if there is one; the
zero value has the id of no row. -/
theorem findCreated_id (username : Bytes) :
    ∀ row ∈ users.rows,
      (row.id == (findCreated (listUsers users) username).id) = (row.username == username) := by
  intro row member
  rw [Bool.eq_iff_iff, beq_iff_eq, beq_iff_eq]
  unfold findCreated
  cases found : (listUsers users).find? (·.username == username) with
  | none =>
    have absent := find?_eq_none.mp found row.toUser (mem_map_of_mem member)
    constructor
    · intro zero
      exact absurd zero (Int.ne_of_gt (users.positive row member))
    · intro same
      exact absurd (beq_iff_eq.mpr same) absent
  | some user =>
    obtain ⟨other, inTable, rfl⟩ := mem_map.mp (mem_of_find?_eq_some found)
    have named : other.username = username :=
      eq_of_beq (find?_some (p := fun user : User => user.username == username) found)
    constructor
    · intro same
      have distinct : (users.rows.map (·.id)).Nodup := users.ordered.imp Int.ne_of_lt
      rw [inj_on_of_nodup_map distinct member inTable same]
      exact named
    · intro same
      rw [Users.eq_of_key member inTable (congrArg noCaseKey (same.trans named.symm))]
      rfl

/-- The request does not get past `CreateUser`. -/
def Refused (bcrypt : Bcrypt) (body : UserCreateBody) : Prop :=
  trimSpace body.username = [] ∨ body.password.length < 8 ∨
    ∃ text, bcrypt body.password = .error text

/-- The table that a request leaves: the upsert, and the requested role for the row
whose stored name is the name as it came. -/
def granted (now hash : Bytes) (body : UserCreateBody) (users : Users) : Users :=
  (users.upsert (trimSpace body.username) hash now).setRole
    (fun row => row.username == body.username) body.requestedRole

variable {body : UserCreateBody} {bcrypt : Bcrypt}

theorem createUser_of_not_refused (accepted : ¬ Refused bcrypt body) :
    ∃ hash, createUser bcrypt now body.username body.password users =
      .ok (users.upsert (trimSpace body.username) hash now) := by
  simp only [Refused, not_or, not_exists] at accepted
  obtain ⟨nonempty, long, hashes⟩ := accepted
  cases hashed : bcrypt body.password with
  | error text => exact absurd hashed (hashes text)
  | ok hash =>
    refine ⟨hash, ?_⟩
    simp [createUser, if_neg nonempty, hashPassword, if_neg long, hashed, Except.mapError]

theorem createUser_of_refused (refused : Refused bcrypt body) :
    ∃ err, createUser bcrypt now body.username body.password users = .error err := by
  unfold createUser hashPassword
  simp only
  rcases refused with empty | short | ⟨text, hashed⟩
  · exact ⟨_, if_pos empty⟩
  · rw [if_pos short]
    split
    · exact ⟨_, rfl⟩
    · exact ⟨_, rfl⟩
  · rw [hashed]
    split
    · exact ⟨_, rfl⟩
    · split
      · exact ⟨_, rfl⟩
      · rename_i hash impossible
        split at impossible <;> cases impossible

/-- A request that is not refused answers `201`. -/
theorem handleCreateUser_accepted (accepted : ¬ Refused bcrypt body) :
    ∃ hash user after, handleCreateUser bcrypt now body users = (.created user, after) ∧
      after.rows = (granted now hash body users).rows := by
  obtain ⟨hash, stored⟩ := createUser_of_not_refused now users accepted
  unfold handleCreateUser
  rw [stored]
  simp only
  generalize upserted : users.upsert (trimSpace body.username) hash now = table
  have selects := findCreated_id table body.username
  split
  · -- The role goes to a row that is there, so the statement affects it.
    rename_i found
    have there : affected table (findCreated (listUsers table) body.username).id = true := by
      unfold findCreated at found ⊢
      cases search : (listUsers table).find? (·.username == body.username) with
      | none =>
        rw [search] at found
        cases found
      | some user =>
        obtain ⟨row, inTable, same⟩ := mem_map.mp (mem_of_find?_eq_some search)
        exact affected_iff.mpr ⟨row, inTable, congrArg User.id same⟩
    simp only [updateUserRole, body.trimSpace_requestedRole, if_neg body.requestedRole_ne_nil,
      if_pos there]
    refine ⟨hash, _, _, rfl, ?_⟩
    rw [granted, upserted]
    exact Table.update_congr selects
  · -- No row has the name as it came, and none gets the role.
    rename_i missing
    refine ⟨hash, _, table, rfl, ?_⟩
    rw [granted, upserted]
    refine (Table.update_eq_self ?_).symm
    intro row member
    rw [← selects row member, beq_eq_false_iff_ne]
    simp only [bne_iff_ne, ne_eq, Decidable.not_not] at missing
    rw [missing]
    exact Int.ne_of_gt (table.positive row member)

/-! ### The requested role -/

/-- The row of the trimmed name is there with the requested role, and the other rows are
those from before. -/
def RoleGranted (body : UserCreateBody) (before after : Users) : Prop :=
  (∃ row ∈ after.rows, row.key = noCaseKey (trimSpace body.username) ∧
    row.role = body.requestedRole) ∧
  ∀ row : Row, row.key ≠ noCaseKey (trimSpace body.username) →
    (row ∈ after.rows ↔ row ∈ before.rows)

/-- The row that the loop finds is that of the upsert, or giving it the requested role
changes nothing, and the row of the upsert has that role already. -/
def Reaches (body : UserCreateBody) (users : Users) : Prop :=
  users.storedName (trimSpace body.username) = body.username ∨
    (users.currentRole (trimSpace body.username) = body.requestedRole ∧
      ∀ row ∈ users.rows, row.username = body.username → row.role = body.requestedRole)

section Granted

variable {now hash : Bytes} {body : UserCreateBody} {users : Users}

theorem mem_granted :
    row ∈ (granted now hash body users).rows ↔
      ∃ old ∈ (users.upsert (trimSpace body.username) hash now).rows,
        (if old.username == body.username then { old with role := body.requestedRole }
          else old) = row :=
  Table.mem_update

theorem storedName_key (users : Users) (username : Bytes) :
    noCaseKey (users.storedName username) = noCaseKey username := by
  unfold Users.storedName
  split
  · rename_i row found
    exact (Users.named_eq_some found).2
  · rfl

theorem roleGranted_of_reaches (reaches : Reaches body users) :
    RoleGranted body users (granted now hash body users) := by
  constructor
  · obtain ⟨row, member, key, stored, role⟩ :=
      users.exists_target (trimSpace body.username) hash now
    refine ⟨_, mem_granted.mpr ⟨row, member, rfl⟩, ?_, ?_⟩
    · split <;> exact key
    · split
      · rfl
      · rename_i other
        rcases reaches with same | ⟨already, _⟩
        · exact absurd (beq_iff_eq.mpr (stored.trans same)) other
        · exact role.trans already
  · intro row other
    rw [mem_granted, ← Users.mem_upsert_other other]
    -- A row of another name that the loop picks has the requested role already.
    have unchanged : ∀ old : Row, old.key ≠ noCaseKey (trimSpace body.username) →
        old ∈ (users.upsert (trimSpace body.username) hash now).rows →
        (if old.username == body.username then { old with role := body.requestedRole }
          else old) = old := by
      intro old differs member
      split
      · rename_i picked
        rcases reaches with same | ⟨_, already⟩
        · have key : old.key = noCaseKey (trimSpace body.username) := by
            calc old.key
              _ = noCaseKey body.username := congrArg noCaseKey (eq_of_beq picked)
              _ = noCaseKey (users.storedName (trimSpace body.username)) := by rw [same]
              _ = noCaseKey (trimSpace body.username) := storedName_key _ _
          exact absurd key differs
        · rw [← already old ((Users.mem_upsert_other differs).mp member) (eq_of_beq picked)]
      · rfl
    constructor
    · rintro ⟨old, member, result⟩
      have differs : old.key ≠ noCaseKey (trimSpace body.username) := by
        intro key
        apply other
        rw [← result]
        split <;> exact key
      rw [← result, unchanged old differs member]
      exact member
    · intro member
      exact ⟨row, member, unchanged row other member⟩

theorem reaches_of_roleGranted
    (holds : RoleGranted body users (granted now hash body users)) : Reaches body users := by
  obtain ⟨⟨row, member, key, role⟩, others⟩ := holds
  rw [Reaches, or_iff_not_imp_left]
  intro elsewhere
  constructor
  · -- The row of the upsert is not picked, so its role is the one it had.
    obtain ⟨target, present, sameKey, stored, current⟩ :=
      users.exists_target (trimSpace body.username) hash now
    have notPicked : ¬ (target.username == body.username) = true := by
      rw [beq_iff_eq, stored]
      exact elsewhere
    have kept : target ∈ (granted now hash body users).rows :=
      mem_granted.mpr ⟨target, present, if_neg notPicked⟩
    rw [← current, Users.eq_of_key kept member (sameKey.trans key.symm)]
    exact role
  · intro old inTable picked
    have differs : old.key ≠ noCaseKey (trimSpace body.username) := by
      intro same
      rw [Users.storedName, Users.named_of_mem inTable same] at elsewhere
      exact elsewhere picked
    have changed : ({ old with role := body.requestedRole } : Row) ∈
        (granted now hash body users).rows :=
      mem_granted.mpr ⟨old, (Users.mem_upsert_other differs).mpr inTable,
        if_pos (beq_iff_eq.mpr picked)⟩
    have before : ({ old with role := body.requestedRole } : Row) ∈ users.rows :=
      (others { old with role := body.requestedRole } differs).mp changed
    rw [Users.eq_of_key inTable before rfl]

end Granted

/-- A request that succeeds gives the user the requested role, and touches no other row,
exactly when the name came as the table stores it or nothing was to be changed. -/
theorem role_granted_iff (bcrypt : Bcrypt) (now : Bytes) (body : UserCreateBody)
    (users : Users) :
    (∀ user after, handleCreateUser bcrypt now body users = (.created user, after) →
      RoleGranted body users after) ↔ Refused bcrypt body ∨ Reaches body users := by
  by_cases refused : Refused bcrypt body
  · obtain ⟨err, stored⟩ := createUser_of_refused now users refused
    have answer : handleCreateUser bcrypt now body users = (.error 400 err.text, users) := by
      rw [handleCreateUser, stored]
    constructor
    · intro _
      exact .inl refused
    · intro _ user after created
      rw [answer] at created
      cases created
  · obtain ⟨hash, user, after, answer, rows⟩ := handleCreateUser_accepted now users refused
    have sameTable : RoleGranted body users after ↔
        RoleGranted body users (granted now hash body users) := by
      rw [RoleGranted, RoleGranted, rows]
    constructor
    · intro always
      exact .inr (reaches_of_roleGranted (sameTable.mp (always user after answer)))
    · intro condition user' after' created
      rw [answer] at created
      cases created
      exact sameTable.mpr (roleGranted_of_reaches (condition.resolve_left refused))

/-! ### A blank before the name -/

section Blank

/-- The first administrator. -/
def rootRow : Row where
  id := 1
  username := ascii "root"
  role := ascii "admin"
  createdAt := ascii "2026-01-01T00:00:00Z"
  passwordHash := ascii "hash"

/-- A table with nobody else. -/
def rootOnly : Users where
  rows := [rootRow]
  nextID := 2
  ordered := by decide
  unique := by decide
  positive := by decide
  fresh := by decide
  started := by decide

/-- An operator is asked for, with a blank before the name. -/
def blankBefore : UserCreateBody where
  username := ascii " bob"
  password := ascii "password"
  role := ascii "operator"

/-- The user is created as an administrator, and the answer is a success. -/
theorem blank_name_stays_admin :
    ¬ ∀ user after, handleCreateUser .ok (ascii "2026-01-02T00:00:00Z") blankBefore rootOnly =
        (.created user, after) → RoleGranted blankBefore rootOnly after := by
  intro always
  obtain ⟨⟨row, member, key, role⟩, _⟩ := always .zero _ rfl
  have noOperator : ∀ row ∈ (handleCreateUser .ok (ascii "2026-01-02T00:00:00Z") blankBefore
      rootOnly).2.rows, row.role ≠ blankBefore.requestedRole := by
    decide
  exact noOperator row member role

end Blank

end Gossipper.Api
