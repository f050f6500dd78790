/-
Module: Gossipper.Engine.Vars
Purpose: The variables of calls that share the global and the user scopes, after
  `internal/engine/vars.go`: reading, setting and the snapshot that templates see.
Trusted boundary: an operation on the shared maps holds their lock, and a call's own
  maps are touched by its own goroutine only, so each operation is one step
Main exports: ScopedVars, VarStore, VarStore.get, VarStore.set, step, scopes_consistent_iff
-/
import Gossipper.Go.Map
import Gossipper.Lib.Run
import Gossipper.Lib.Threads
import Gossipper.Scenario.Parse

namespace Gossipper.Engine.Vars

open Go Scenario Transition List Option

/-- `scopedVars`. -/
structure ScopedVars where
  «global» : Map Bytes Bytes
  users : Map Int (Map Bytes Bytes)

/-- `newScopedVars`. -/
def newScopedVars : ScopedVars where
  «global» := ∅
  users := ∅

/-- `varStore`, without the scopes that it points to.  The two sets of names are kept as
the lists they are made from; `scratch` is `none` until the first snapshot. -/
structure VarStore where
  «local» : Map Bytes Bytes
  globalNames : List Bytes
  userNames : List Bytes
  userID : Int
  scratch : Option (Map Bytes Bytes)

/-- `newVarStore`. -/
def newVarStore (globalNames userNames : List Bytes) (userID : Int) : VarStore where
  «local» := ∅
  globalNames := globalNames
  userNames := userNames
  userID := userID
  scratch := none

namespace VarStore

/-- `Get`. -/
def get (v : VarStore) (scopes : ScopedVars) (name : Bytes) : Bytes :=
  if name ∈ v.globalNames then (scopes.global.lookup name).getD []
  else if name ∈ v.userNames then
    match scopes.users.lookup v.userID with
    | some own => (own.lookup name).getD []
    | none => []
  else (v.local.lookup name).getD []

/-- `Set`: the scopes and the store behind it. -/
def set (v : VarStore) (scopes : ScopedVars) (name value : Bytes) : ScopedVars × VarStore :=
  if name ∈ v.globalNames then
    ({ scopes with «global» := scopes.global.insert name value }, v)
  else if name ∈ v.userNames then
    let own := (scopes.users.lookup v.userID).getD ∅
    ({ scopes with users := scopes.users.insert v.userID (own.insert name value) }, v)
  else (scopes, { v with «local» := v.local.insert name value })

/-- `Snapshot`: the map that is returned, which the store keeps to fill it again.  The
map is cleared first, so nothing of an earlier snapshot is left. -/
def snapshot (v : VarStore) (scopes : ScopedVars) : Map Bytes Bytes × VarStore :=
  let scratch := Map.assignFrom ∅ v.local
  let scratch := Map.assignAll scratch v.globalNames fun name =>
    (scopes.global.lookup name).getD []
  let scratch :=
    match scopes.users.lookup v.userID with
    | some own => Map.assignAll scratch v.userNames fun name => (own.lookup name).getD []
    | none => scratch
  (scratch, { v with scratch := some scratch })

/-- The value of a name in a snapshot taken now. -/
def seen (v : VarStore) (scopes : ScopedVars) (name : Bytes) : Bytes :=
  ((v.snapshot scopes).1.lookup name).getD []

end VarStore

/-! ### Calls that share the scopes -/

/-- The scopes, and the stores of the calls that were started, in order. -/
structure State where
  scopes : ScopedVars
  calls : List VarStore

def start : State where
  scopes := newScopedVars
  calls := []

/-- What a call does with its variables. -/
inductive Event where
  | start (userID : Int)
  | set (call : Nat) (name value : Bytes)
  | snapshot (call : Nat)

variable (v : VarStore) (scopes : ScopedVars)

section System

variable {F : Type} (sc : ParsedScenario F)

/-- One operation of one call. -/
def step : Event → State → Option State
  | .start userID, s =>
    some { s with calls := s.calls ++ [newVarStore sc.globalVariables sc.userVariables userID] }
  | .set call name value, s =>
    s.calls[call]?.map fun v =>
      { scopes := (v.set s.scopes name value).1
        calls := s.calls.set call (v.set s.scopes name value).2 }
  | .snapshot call, s =>
    s.calls[call]?.map fun v =>
      { s with calls := s.calls.set call (v.snapshot s.scopes).2 }

/-- Whether a name that one call sets is the same variable in another call: a global name
always is, a user name for calls of one user, and any other name in the call itself.  A
name that is declared twice counts as global. -/
def Shares (name : Bytes) (setter reader : Nat) (setterUser readerUser : Int) : Prop :=
  if name ∈ sc.globalVariables then True
  else if name ∈ sc.userVariables then setterUser = readerUser
  else setter = reader

/-- In every call and for every name, a snapshot has the value that `Get` has. -/
def ViewsAgree (s : State) : Prop :=
  ∀ v ∈ s.calls, ∀ name, v.seen s.scopes name = v.get s.scopes name

/-- A `Set` changes the name in the calls that share it, and nothing else. -/
def SetsExactly (s : State) : Prop :=
  ∀ call name value after, step sc (.set call name value) s = some after →
    ∀ setter reader other readerAfter, s.calls[call]? = some setter →
      s.calls[other]? = some reader → after.calls[other]? = some readerAfter →
      ∀ asked,
        (asked = name ∧ Shares sc name call other setter.userID reader.userID →
          readerAfter.get after.scopes asked = value) ∧
        (¬ (asked = name ∧ Shares sc name call other setter.userID reader.userID) →
          readerAfter.get after.scopes asked = reader.get s.scopes asked)

/-- The scopes are consistent in every state that the calls can reach. -/
def ScopesConsistent : Prop :=
  ∀ events s, Run (step sc) start events s → ViewsAgree s ∧ SetsExactly sc s

/-- The declarations: no name is both global and a user variable, unless all user
variables are global. -/
def SeparateNames : Prop :=
  (∀ name ∈ sc.userVariables, name ∉ sc.globalVariables) ∨
    ∀ name ∈ sc.userVariables, name ∈ sc.globalVariables

variable {sc}

/-! ### What the operations do to a value -/

theorem seen_eq (name : Bytes) :
    v.seen scopes name =
      match scopes.users.lookup v.userID with
      | some own =>
        if name ∈ v.userNames then (own.lookup name).getD []
        else if name ∈ v.globalNames then (scopes.global.lookup name).getD []
        else (v.local.lookup name).getD []
      | none =>
        if name ∈ v.globalNames then (scopes.global.lookup name).getD []
        else (v.local.lookup name).getD [] := by
  have base : ((Map.assignAll (Map.assignFrom ∅ v.local) v.globalNames
      fun name => (scopes.global.lookup name).getD []).lookup name).getD [] =
        if name ∈ v.globalNames then (scopes.global.lookup name).getD []
        else (v.local.lookup name).getD [] := by
    by_cases isGlobal : name ∈ v.globalNames
    · rw [Map.lookup_assignAll _ _ isGlobal, if_pos isGlobal]
      rfl
    · rw [Map.lookup_assignAll_of_not _ _ isGlobal, if_neg isGlobal, Map.lookup_assignFrom,
        AList.lookup_empty, or_none]
  rw [VarStore.seen, VarStore.snapshot]
  cases scopes.users.lookup v.userID with
  | none => exact base
  | some own =>
    dsimp only
    by_cases isUser : name ∈ v.userNames
    · rw [Map.lookup_assignAll _ _ isUser, if_pos isUser]
      rfl
    · rw [Map.lookup_assignAll_of_not _ _ isUser, if_neg isUser]
      exact base

/-- A `Set` as another store with the same declarations reads it. -/
theorem get_set_other {v reader : VarStore} (sameGlobal : reader.globalNames = v.globalNames)
    (sameUser : reader.userNames = v.userNames) (scopes : ScopedVars)
    (name value asked : Bytes) :
    reader.get (v.set scopes name value).1 asked =
      if asked = name ∧ (name ∈ v.globalNames ∨ name ∈ v.userNames ∧ v.userID = reader.userID)
      then value else reader.get scopes asked := by
  rw [VarStore.set, VarStore.get, VarStore.get, sameGlobal, sameUser]
  by_cases isGlobal : name ∈ v.globalNames
  · rw [if_pos isGlobal]
    dsimp only
    rw [Map.lookup_insert_eq]
    by_cases same : asked = name
    · simp [same, isGlobal]
    · simp [same]
  · rw [if_neg isGlobal]
    by_cases isUser : name ∈ v.userNames
    · rw [if_pos isUser]
      dsimp only
      rw [Map.lookup_insert_eq]
      by_cases sameID : reader.userID = v.userID
      · rw [if_pos sameID, sameID]
        dsimp only
        rw [Map.lookup_insert_eq]
        by_cases same : asked = name
        · simp [same, isGlobal, isUser]
        · cases scopes.users.lookup v.userID <;> simp [same]
      · simp [sameID, Ne.symm sameID, isGlobal]
    · simp [isGlobal, isUser]

theorem get_set_self (name value asked : Bytes) :
    (v.set scopes name value).2.get (v.set scopes name value).1 asked =
      if asked = name then value else v.get scopes asked := by
  have shared := get_set_other (v := v) rfl rfl scopes name value asked
  by_cases declared : name ∈ v.globalNames ∨ name ∈ v.userNames
  · have unchanged : (v.set scopes name value).2 = v := by
      rw [VarStore.set]
      by_cases isGlobal : name ∈ v.globalNames
      · rw [if_pos isGlobal]
      · rw [if_neg isGlobal, if_pos (declared.resolve_left isGlobal)]
    rw [unchanged, shared]
    simp [declared]
  · rw [not_or] at declared
    rw [VarStore.set, if_neg declared.1, if_neg declared.2]
    dsimp only [VarStore.get]
    rw [Map.lookup_insert_eq]
    by_cases same : asked = name
    · simp [same, declared]
    · simp [same]

theorem set_names (name value : Bytes) :
    (v.set scopes name value).2.globalNames = v.globalNames ∧
      (v.set scopes name value).2.userNames = v.userNames ∧
      (v.set scopes name value).2.userID = v.userID := by
  rw [VarStore.set]
  split
  · exact ⟨rfl, rfl, rfl⟩
  · split <;> exact ⟨rfl, rfl, rfl⟩

/-! ### Along a run -/

/-- What holds of the stores: they have the declarations of the scenario, their own map
has undeclared names only, and there is no map of a user when every user variable is
global. -/
structure Kept (sc : ParsedScenario F) (s : State) : Prop where
  globals : ∀ v ∈ s.calls, v.globalNames = sc.globalVariables
  users : ∀ v ∈ s.calls, v.userNames = sc.userVariables
  undeclared : ∀ v ∈ s.calls, ∀ name, name ∈ sc.globalVariables ∨ name ∈ sc.userVariables →
    v.local.lookup name = none
  noUsers : (∀ name ∈ sc.userVariables, name ∈ sc.globalVariables) →
    ∀ userID, s.scopes.users.lookup userID = none

theorem kept_start : Kept sc start where
  globals := by simp [start]
  users := by simp [start]
  undeclared := by simp [start]
  noUsers := by simp [start, newScopedVars]

theorem kept_step {event s after} (taken : step sc event s = some after)
    (kept : Kept sc s) : Kept sc after := by
  cases event with
  | start userID =>
    cases taken
    refine ⟨?_, ?_, ?_, kept.noUsers⟩
    · exact forall_mem_append.mpr ⟨kept.globals, forall_mem_singleton.mpr rfl⟩
    · exact forall_mem_append.mpr ⟨kept.users, forall_mem_singleton.mpr rfl⟩
    · refine forall_mem_append.mpr ⟨kept.undeclared, forall_mem_singleton.mpr ?_⟩
      exact fun name _ => AList.lookup_empty name
  | set call name value =>
    obtain ⟨v, found, rfl⟩ := map_eq_some_iff.mp taken
    have isCall := mem_of_getElem? found
    obtain ⟨sameGlobal, sameUser, _⟩ := set_names v s.scopes name value
    refine ⟨?_, ?_, ?_, ?_⟩
    · apply Threads.forall_move kept.globals
      rw [sameGlobal, kept.globals v isCall]
    · apply Threads.forall_move kept.users
      rw [sameUser, kept.users v isCall]
    · apply Threads.forall_move kept.undeclared
      intro asked declared
      have before := kept.undeclared v isCall asked declared
      rw [VarStore.set, kept.globals v isCall, kept.users v isCall]
      split
      · exact before
      · split
        · exact before
        · rename_i notGlobal notUser
          dsimp only
          rw [Map.lookup_insert_eq, if_neg, before]
          rintro rfl
          exact declared.elim notGlobal notUser
    · intro allGlobal userID
      dsimp only
      rw [VarStore.set, kept.globals v isCall, kept.users v isCall]
      split
      · exact kept.noUsers allGlobal userID
      · split
        · rename_i notGlobal isUser
          exact absurd (allGlobal name isUser) notGlobal
        · exact kept.noUsers allGlobal userID
  | snapshot call =>
    obtain ⟨v, found, rfl⟩ := map_eq_some_iff.mp taken
    have isCall := mem_of_getElem? found
    exact ⟨Threads.forall_move kept.globals (kept.globals v isCall),
      Threads.forall_move kept.users (kept.users v isCall),
      Threads.forall_move kept.undeclared (kept.undeclared v isCall), kept.noUsers⟩

variable {s : State}

theorem kept_run {events} (run : Run (step sc) start events s) :
    Kept sc s := by
  apply run.invariant kept_start
  intro event before after taken kept
  exact kept_step taken kept

theorem setsExactly_of_kept (kept : Kept sc s) : SetsExactly sc s := by
  intro call name value after taken setter reader other readerAfter isSetter isReader isAfter asked
  obtain ⟨v, found, rfl⟩ := map_eq_some_iff.mp taken
  cases found.symm.trans isSetter
  have setterCall := mem_of_getElem? isSetter
  have readerCall := mem_of_getElem? isReader
  dsimp only at isAfter ⊢
  by_cases same : call = other
  · subst same
    cases isReader.symm.trans isSetter
    have inside : call < s.calls.length := (List.getElem?_eq_some_iff.mp isSetter).1
    rw [getElem?_set_self inside, Option.some.injEq] at isAfter
    subst isAfter
    have shares : Shares sc name call call setter.userID setter.userID := by
      rw [Shares]
      split
      · trivial
      · split <;> rfl
    rw [get_set_self]
    constructor
    · rintro ⟨rfl, _⟩
      exact if_pos rfl
    · intro others
      exact if_neg fun isName => others ⟨isName, shares⟩
  · rw [getElem?_set_ne same, isReader, Option.some.injEq] at isAfter
    subst isAfter
    have sameGlobal : reader.globalNames = setter.globalNames := by
      rw [kept.globals reader readerCall, kept.globals setter setterCall]
    have sameUser : reader.userNames = setter.userNames := by
      rw [kept.users reader readerCall, kept.users setter setterCall]
    have shares : Shares sc name call other setter.userID reader.userID ↔
        name ∈ setter.globalNames ∨
          name ∈ setter.userNames ∧ setter.userID = reader.userID := by
      rw [Shares, kept.globals setter setterCall, kept.users setter setterCall]
      split
      · simp [*]
      · split <;> simp [*]
    rw [get_set_other sameGlobal sameUser, shares]
    exact ⟨fun isName => if_pos isName, fun others => if_neg others⟩

theorem viewsAgree_of_kept (separate : SeparateNames sc) (kept : Kept sc s) :
    ViewsAgree s := by
  intro v isCall name
  rw [seen_eq, VarStore.get]
  have undeclared := kept.undeclared v isCall name
  rw [← kept.globals v isCall, ← kept.users v isCall] at undeclared
  rcases separate with apart | allGlobal
  · have notBoth : name ∈ v.userNames → name ∉ v.globalNames := by
      rw [kept.globals v isCall, kept.users v isCall]
      exact apart name
    by_cases isUser : name ∈ v.userNames
    · cases s.scopes.users.lookup v.userID with
      | none => simp [notBoth isUser, undeclared (.inr isUser)]
      | some own => simp [isUser, notBoth isUser]
    · cases s.scopes.users.lookup v.userID <;> simp [isUser]
  · rw [kept.noUsers allGlobal]
    by_cases isGlobal : name ∈ v.globalNames
    · simp [isGlobal]
    · have notUser : name ∉ v.userNames := by
        intro isUser
        rw [kept.users v isCall] at isUser
        rw [kept.globals v isCall] at isGlobal
        exact isGlobal (allGlobal name isUser)
      simp [isGlobal, notUser]

/-- A name that is declared twice, and a user variable that is not global: once the user
has a map, the snapshot reads the name there. -/
theorem disagree_of_twice (isUser : twice ∈ sc.userVariables)
    (isGlobal : twice ∈ sc.globalVariables) (onlyUser : user ∈ sc.userVariables)
    (notGlobal : user ∉ sc.globalVariables) :
    ∃ events s, Run (step sc) start events s ∧ ¬ ViewsAgree s := by
  let store := newVarStore sc.globalVariables sc.userVariables 0
  let scopes : ScopedVars :=
    { «global» := (∅ : Map Bytes Bytes).insert twice [0x31]
      users := (∅ : Map Int (Map Bytes Bytes)).insert 0
        ((∅ : Map Bytes Bytes).insert user [0x31]) }
  refine ⟨[.start 0, .set 0 user [0x31], .set 0 twice [0x31]], ⟨scopes, [store]⟩, ?_, ?_⟩
  · apply Run.of_exec
    simp [exec, step, start, newScopedVars, newVarStore, VarStore.set, onlyUser, notGlobal,
      isGlobal, scopes, store]
  · intro agree
    have sameValue := agree store (by simp) twice
    have other : twice ≠ user := by
      rintro rfl
      exact notGlobal isGlobal
    rw [seen_eq] at sameValue
    simp only [store, scopes, newVarStore, VarStore.get, Map.lookup_insert_eq, isUser, isGlobal,
      other, AList.lookup_empty, if_true, if_false] at sameValue
    cases sameValue

/-- The scopes are consistent for every number of calls and every order of what they do
exactly when no user variable is global too, or all of them are. -/
theorem scopes_consistent_iff : ScopesConsistent sc ↔ SeparateNames sc := by
  constructor
  · intro consistent
    by_contra mixed
    rw [SeparateNames, not_or] at mixed
    simp only [not_forall, not_not] at mixed
    obtain ⟨⟨twice, isUser, isGlobal⟩, user, onlyUser, notGlobal⟩ := mixed
    obtain ⟨events, s, run, disagree⟩ := disagree_of_twice isUser isGlobal onlyUser notGlobal
    exact disagree (consistent events s run).1
  · intro separate events s run
    have kept := kept_run run
    exact ⟨viewsAgree_of_kept separate kept, setsExactly_of_kept kept⟩

end System

/-- Two lists of declarations in which `limit` is both global and a user variable. -/
def limitTwice : ParsedScenario Unit where
  name := []
  basePath := ascii "."
  mode := .client
  webRTC := false
  main := { commands := [], labels := [] }
  init := { commands := [], labels := [] }
  globalVariables := parseVariablesList (ascii "limit")
  userVariables := parseVariablesList (ascii "limit, name")
  references := []

/-- One call sets its user variable `name` and then `limit`: conditions read the new
limit, templates read nothing. -/
theorem limit_not_seen :
    ¬ ScopesConsistent limitTwice ∧
      ((exec (step limitTwice) [.start 0, .set 0 (ascii "name") (ascii "joe"),
          .set 0 (ascii "limit") (ascii "5")] start).map fun s =>
        s.calls.map fun v => (v.get s.scopes (ascii "limit"), v.seen s.scopes (ascii "limit"))) =
      some [(ascii "5", [])] := by
  have run : ((exec (step limitTwice) [.start 0, .set 0 (ascii "name") (ascii "joe"),
      .set 0 (ascii "limit") (ascii "5")] start).map fun s =>
        s.calls.map fun v => (v.get s.scopes (ascii "limit"), v.seen s.scopes (ascii "limit"))) =
      some [(ascii "5", [])] := by
    decide
  refine ⟨fun consistent => ?_, run⟩
  obtain ⟨s, executed, values⟩ := map_eq_some_iff.mp run
  have agree := (consistent _ s (Run.of_exec executed)).1
  obtain ⟨v, calls⟩ : ∃ v, s.calls = [v] := by
    rw [map_eq_cons_iff] at values
    obtain ⟨v, rest, calls, _, noMore⟩ := values
    exact ⟨v, by rw [calls, map_eq_nil_iff.mp noMore]⟩
  rw [calls, map_singleton, singleton_inj, Prod.mk.injEq] at values
  have same := agree v (by simp [calls]) (ascii "limit")
  rw [values.1, values.2] at same
  cases same

end Gossipper.Engine.Vars
