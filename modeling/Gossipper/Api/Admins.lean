/-
Module: Gossipper.Api.Admins
Purpose: Requests on the users side by side, one statement on the database at a time, and
  whether an administrator remains, after `internal/api/v2/users.go` and `auth.go`.
Trusted boundary: as for the users table; a statement that fails leaves the table as it
  is.  The claims of a request are those of a token that has been verified.
Main exports: isAdminRole, requireAdmin, Pending, Pending.next, step, next_create, admin_remains_iff
-/
import Gossipper.Api.CreateUser
import Gossipper.Go.Number
import Gossipper.Lib.Run

namespace Gossipper.Api

open Go Settingsauth Transition List Option

/-! ### Who may send requests -/

section Roles

variable [CaseTables]

/-- `isAdminRole`. -/
def isAdminRole (role : Bytes) : Bool := equalFold (trimSpace role) (ascii "admin")

/-- The claims of a token that are read here. -/
structure Claims where
  role : Bytes := []
  uid : Int := 0
deriving DecidableEq, Repr

/-- `roleFromClaims`. -/
def roleFromClaims (claims : Claims) (users : Users) : Bytes :=
  let role := trimSpace claims.role
  if role ≠ [] then role
  else if 0 < claims.uid then
    match getUser claims.uid users with
    | some user => if user.role ≠ [] then user.role else ascii "admin"
    | none => ascii "admin"
  else ascii "admin"

/-- `requireAdmin`, for a token that is accepted. -/
def requireAdmin (claims : Claims) (users : Users) : Bool :=
  isAdminRole (roleFromClaims claims users)

end Roles

/-! ### The handlers, statement by statement -/

/-- `userUpdateBody`. -/
structure UserUpdateBody where
  password : Bytes := []
  role : Bytes := []
deriving DecidableEq, Repr

/-- The requests that write to the table, with the id as it stands in the path. -/
inductive Request where
  | create (body : UserCreateBody)
  | update (pathID : Bytes) (body : UserUpdateBody)
  | delete (pathID : Bytes)
deriving DecidableEq, Repr

/-- Where a request stands: each point but the last has one statement in front of it. -/
inductive Pending where
  | create (body : UserCreateBody)
  | lookUp (body : UserCreateBody)
  | assign (created : User) (role : Bytes)
  | changePassword (id : Int) (password role : Bytes)
  | changeRole (id : Int) (role : Bytes)
  | fetch (id : Int)
  | count (id : Int)
  | check (id : Int)
  | remove (id : Int)
  | answered (response : Response)
deriving DecidableEq, Repr

/-- `ParseInt` of the path, and the check of its sign. -/
def userID (pathID : Bytes) : Option Int :=
  match atoi pathID with
  | (id, none) => if id ≤ 0 then none else some id
  | (_, some _) => none

/-- The answer to a path without an id. -/
def invalidUserID : Pending := .answered (.error 400 (ascii "invalid user id"))

/-- `handleUpdateUser` behind the password. -/
def afterPassword (id : Int) (role : Bytes) : Pending :=
  if role ≠ [] then .changeRole id role else .fetch id

/-- A request before its first statement. -/
def Request.begin : Request → Pending
  | .create body => .create body
  | .update pathID body =>
    match userID pathID with
    | none => invalidUserID
    | some id =>
      if body.password ≠ [] then .changePassword id body.password body.role
      else afterPassword id body.role
  | .delete pathID =>
    match userID pathID with
    | none => invalidUserID
    | some id => .count id

/-- The answer of `handleUpdateUser` to an error of the store. -/
def updateError : StoreError → Response
  | .noRows => .error 404 (ascii "user not found")
  | err => .error 400 err.text

/-- The next statement of a request, and what the handler does with its result. -/
def Pending.next (bcrypt : Bcrypt) (now : Bytes) : Pending → Users → Pending × Users
  | .create body, users =>
    match createUser bcrypt now body.username body.password users with
    | .error err => (.answered (.error 400 err.text), users)
    | .ok users => (.lookUp body, users)
  | .lookUp body, users =>
    let created := findCreated (listUsers users) body.username
    if created.id != 0 then (.assign created body.requestedRole, users)
    else (.answered (.created created), users)
  | .assign created role, users =>
    match updateUserRole created.id role users with
    | .error err => (.answered (.error 400 err.text), users)
    | .ok users => (.answered (.created { created with role }), users)
  | .changePassword id password role, users =>
    match updateUserPassword bcrypt id password users with
    | .error err => (.answered (updateError err), users)
    | .ok users => (afterPassword id role, users)
  | .changeRole id role, users =>
    match updateUserRole id role users with
    | .error err => (.answered (updateError err), users)
    | .ok users => (.fetch id, users)
  | .fetch id, users =>
    match getUser id users with
    | none => (.answered (.error 500 StoreError.noRows.text), users)
    | some user => (.answered (.ok user), users)
  | .count id, users =>
    if (listUsers users).length ≤ 1 then
      (.answered (.error 409 (ascii "refusing to delete the last user")), users)
    else (.check id, users)
  | .check id, users =>
    match getUser id users with
    | none => (.answered (.error 404 (ascii "user not found")), users)
    | some _ => (.remove id, users)
  | .remove id, users =>
    match deleteUser id users with
    | .error err => (.answered (.error 500 err.text), users)
    | .ok users => (.answered .noContent, users)
  | .answered response, users => (.answered response, users)

/-- The answer when the statement fails; `handleDeleteUser` takes a failed count for an
empty table. -/
def Pending.failed (message : Bytes) : Pending → Response
  | .create _ | .assign _ _ | .changePassword _ _ _ | .changeRole _ _ => .error 400 message
  | .lookUp _ | .fetch _ | .check _ | .remove _ => .error 500 message
  | .count _ => .error 409 (ascii "refusing to delete the last user")
  | .answered response => response

/-! ### Requests side by side -/

/-- The table and the requests that are being served. -/
structure State where
  users : Users
  serving : List Pending

/-- A request arrives, or one of them gets on by a statement, which may fail. -/
inductive Event where
  | request (claims : Claims) (request : Request)
  | serve (i : Nat) (bcrypt : Bcrypt) (now : Bytes)
  | fail (i : Nat) (message : Bytes)

section Steps

variable [CaseTables]

/-- One step of the server; a request that is not accepted does not take part. -/
def step : Event → State → Option State
  | .request claims request, s =>
    if requireAdmin claims s.users then some { s with serving := s.serving ++ [request.begin] }
    else none
  | .serve i bcrypt now, s =>
    (s.serving[i]?).map fun pending =>
      { users := (pending.next bcrypt now s.users).2
        serving := s.serving.set i (pending.next bcrypt now s.users).1 }
  | .fail i message, s =>
    (s.serving[i]?).map fun pending =>
      { s with serving := s.serving.set i (.answered (pending.failed message)) }

/-- Somebody has the role of an administrator. -/
def HasAdmin (users : Users) : Prop := ∃ row ∈ users.rows, isAdminRole row.role = true

/-- There is an administrator besides the row of an id. -/
def OtherAdmin (users : Users) (id : Int) : Prop :=
  ∃ row ∈ users.rows, row.id ≠ id ∧ isAdminRole row.role = true

/-- A change of a role that leaves an administrator: it is not made (the role is blank), it
makes one, or it does not concern the only one. -/
def SparesRole (users : Users) (id : Int) (role : Bytes) : Prop :=
  trimSpace role = [] ∨ isAdminRole role = true ∨ OtherAdmin users id

/-- The next statement of a request does not take the role from the only administrator and
does not delete it. -/
def Pending.Spares (users : Users) : Pending → Prop
  | .assign created role => SparesRole users created.id role
  | .changeRole id role => SparesRole users id role
  | .remove id => OtherAdmin users id
  | _ => True

/-- The same for a step of the server. -/
def Spares : Event → State → Prop
  | .serve i _ _, s => ∀ pending ∈ s.serving[i]?, pending.Spares s.users
  | _, _ => True

/-! ### What the statements do to the administrators -/

variable {users : Users}

theorem hasAdmin_setPassword {where_ : Row → Bool} {hash} (admin : HasAdmin users) :
    HasAdmin (users.setPassword where_ hash) := by
  obtain ⟨row, member, role⟩ := admin
  refine ⟨_, Table.mem_update.mpr ⟨row, member, rfl⟩, ?_⟩
  split <;> exact role

theorem hasAdmin_upsert {username hash now} (admin : HasAdmin users) :
    HasAdmin (users.upsert username hash now) := by
  unfold Users.upsert
  split
  · exact hasAdmin_setPassword admin
  · obtain ⟨row, member, role⟩ := admin
    exact ⟨row, mem_append_left _ member, role⟩

variable {bcrypt : Bcrypt}

theorem hasAdmin_createUser {now username password after} (admin : HasAdmin users)
    (created : createUser bcrypt now username password users = .ok after) :
    HasAdmin after := by
  simp only [createUser] at created
  split at created
  · cases created
  · split at created
    · cases created
    · cases created
      exact hasAdmin_upsert admin

variable {id : Int}

theorem hasAdmin_updateUserPassword {password after} (admin : HasAdmin users)
    (updated : updateUserPassword bcrypt id password users = .ok after) :
    HasAdmin after := by
  simp only [updateUserPassword] at updated
  split at updated
  · cases updated
  · split at updated
    · cases updated
      exact hasAdmin_setPassword admin
    · cases updated

theorem hasAdmin_setRole (there : affected users id = true) :
    HasAdmin (users.setRole (·.id == id) role) ↔
      isAdminRole role = true ∨ OtherAdmin users id := by
  constructor
  · rintro ⟨row, member, admin⟩
    obtain ⟨old, inTable, rfl⟩ := Table.mem_update.mp member
    split at admin
    · exact .inl admin
    · rename_i other
      exact .inr ⟨old, inTable, fun same => other (beq_iff_eq.mpr same), admin⟩
  · rintro (admin | ⟨row, member, other, admin⟩)
    · obtain ⟨row, member, same⟩ := affected_iff.mp there
      exact ⟨_, Table.mem_update_of_where member (beq_iff_eq.mpr same), admin⟩
    · exact ⟨row, Table.mem_update_of_not member (beq_eq_false_iff_ne.mpr other), admin⟩

theorem otherAdmin_of_not_affected (admin : HasAdmin users)
    (absent : affected users id = false) : OtherAdmin users id := by
  obtain ⟨row, member, role⟩ := admin
  refine ⟨row, member, ?_, role⟩
  intro same
  rw [affected_iff.mpr ⟨row, member, same⟩] at absent
  cases absent

theorem hasAdmin_updateUserRole (admin : HasAdmin users) :
    HasAdmin (((updateUserRole id role users).toOption).getD users) ↔
      SparesRole users id role := by
  simp only [updateUserRole, SparesRole]
  split
  · rename_i blank
    exact ⟨fun _ => .inl blank, fun _ => admin⟩
  · rename_i nonblank
    cases there : affected users id with
    | true =>
      simp only [if_true, Except.toOption, getD_some]
      rw [hasAdmin_setRole there, isAdminRole, trimSpace_trimSpace, ← isAdminRole]
      exact ⟨.inr, fun spares => spares.resolve_left nonblank⟩
    | false =>
      exact ⟨fun _ => .inr (.inr (otherAdmin_of_not_affected admin there)), fun _ => admin⟩

theorem hasAdmin_deleteUser (admin : HasAdmin users) :
    HasAdmin (((deleteUser id users).toOption).getD users) ↔ OtherAdmin users id := by
  unfold deleteUser
  cases there : affected users id with
  | true =>
    simp only [if_true, Except.toOption, getD_some]
    constructor
    · rintro ⟨row, member, role⟩
      obtain ⟨inTable, other⟩ := mem_filter.mp member
      exact ⟨row, inTable, bne_iff_ne.mp other, role⟩
    · rintro ⟨row, member, other, role⟩
      exact ⟨row, mem_filter.mpr ⟨member, bne_iff_ne.mpr other⟩, role⟩
  | false =>
    exact ⟨fun _ => otherAdmin_of_not_affected admin there, fun _ => admin⟩

/-- The next statement of a request leaves an administrator exactly when it spares the
only one. -/
theorem hasAdmin_next {now} (pending : Pending) (admin : HasAdmin users) :
    HasAdmin (pending.next bcrypt now users).2 ↔ pending.Spares users := by
  cases pending with
  | create body =>
    refine iff_of_true ?_ trivial
    simp only [Pending.next]
    cases created : createUser bcrypt now body.username body.password users with
    | error err => exact admin
    | ok after => exact hasAdmin_createUser admin created
  | lookUp body | fetch id | count id | check id =>
    refine iff_of_true ?_ trivial
    simp only [Pending.next]
    split <;> exact admin
  | assign created role =>
    refine Iff.trans ?_ (hasAdmin_updateUserRole admin)
    simp only [Pending.next]
    cases updateUserRole created.id role users <;> exact Iff.rfl
  | changePassword id password role =>
    refine iff_of_true ?_ trivial
    simp only [Pending.next]
    cases updated : updateUserPassword bcrypt id password users with
    | error err => exact admin
    | ok after => exact hasAdmin_updateUserPassword admin updated
  | changeRole id role =>
    refine Iff.trans ?_ (hasAdmin_updateUserRole admin)
    simp only [Pending.next]
    cases updateUserRole id role users <;> exact Iff.rfl
  | remove id =>
    refine Iff.trans ?_ (hasAdmin_deleteUser admin)
    simp only [Pending.next]
    cases deleteUser id users <;> exact Iff.rfl
  | answered response => exact iff_of_true admin trivial

theorem hasAdmin_step {event before after}
    (stepped : step event before = some after) (admin : HasAdmin before.users) :
    HasAdmin after.users ↔ Spares event before := by
  cases event with
  | request claims request =>
    simp only [step, ite_none_right_eq_some, Option.some.injEq] at stepped
    obtain ⟨_, rfl⟩ := stepped
    exact iff_of_true admin trivial
  | serve i bcrypt now =>
    obtain ⟨pending, current, rfl⟩ := map_eq_some_iff.mp stepped
    rw [hasAdmin_next pending admin]
    simp [Spares, current, mem_def, Option.some.injEq, forall_eq']
  | fail i message =>
    obtain ⟨pending, _, rfl⟩ := map_eq_some_iff.mp stepped
    exact iff_of_true admin trivial

/-- From a table with an administrator, there is one all along a run exactly when no
statement takes the role from the only one or deletes it. -/
theorem admin_remains_iff {before final : State} {events : List Event}
    (admin : HasAdmin before.users) :
    Always step (fun s => HasAdmin s.users) before events final ↔
      Guarded step Spares before events final :=
  always_iff_guarded_of_invariant (fun _ => True) trivial (fun _ _ _ _ _ => trivial) admin
    fun _ _ _ stepped _ admin => hasAdmin_step stepped admin

end Steps

/-! ### The only administrator -/

section Only

attribute [local instance] CaseTables.asciiOnly

/-- A server on a table with one user, the administrator. -/
def rootServer : State where
  users := rootOnly
  serving := []

/-- The administrator sets its own role. -/
def setOwnRole (role : Bytes) : List Event :=
  [.request { role := ascii "admin" } (.update (ascii "1") { role }),
    .serve 0 .ok (ascii "2026-01-02T00:00:00Z")]

/-- The server after that. -/
def afterOwnRole (role : Bytes) : State :=
  (exec step (setOwnRole role) rootServer).getD rootServer

theorem hasAdmin_rootOnly : HasAdmin rootOnly :=
  ⟨rootRow, mem_singleton.mpr rfl, by decide⟩

/-- To stay an administrator is one of the changes that spare it. -/
theorem own_role_kept :
    HasAdmin rootServer.users ∧
      ∃ final, Always step (fun s => HasAdmin s.users) rootServer
        (setOwnRole (ascii " Admin")) final := by
  refine ⟨hasAdmin_rootOnly, afterOwnRole (ascii " Admin"),
    (admin_remains_iff hasAdmin_rootOnly).mpr ?_⟩
  refine .cons trivial rfl (.cons ?_ rfl (.nil _))
  intro pending current
  cases current
  exact .inr (.inl (by decide))

/-- To become an operator is not. -/
theorem only_admin_demoted :
    ¬ ∀ (users : Users) (events : List Event) (final : State), HasAdmin users →
      Run step { users, serving := [] } events final → HasAdmin final.users := by
  intro always
  have run : Run step rootServer (setOwnRole (ascii "operator"))
      (afterOwnRole (ascii "operator")) := Run.of_isSome (by decide)
  obtain ⟨row, member, admin⟩ := always rootOnly _ _ hasAdmin_rootOnly run
  have noAdmin : ∀ row ∈ (afterOwnRole (ascii "operator")).users.rows,
      isAdminRole row.role = false := by
    decide
  rw [noAdmin row member] at admin
  cases admin

end Only

end Gossipper.Api
