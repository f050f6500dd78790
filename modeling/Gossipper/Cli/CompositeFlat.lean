/-
Module: Gossipper.Cli.CompositeFlat
Purpose: Flat configuration files with a server object and client objects, after
  `internal/cli/composite_flat.go`: how the root keys are merged into the profiles, how the
  profiles are built and ordered by their mode, and when every profile keeps its role.
Trusted boundary: as in `Gossipper.Cli.RunProfile`; error texts are reduced to their kind and
  the values they show.
Main exports: tryLoadCompositeFlatJSON, loadServerFlatOrComposite, CompositeFile, keepsRoles_iff
-/
import Gossipper.Cli.RunProfile
import Gossipper.Go.Map

namespace Gossipper.Cli

open Go Scenario List Option

/-! ### Merging -/

/-- `maxCompositeProfiles`. -/
abbrev maxCompositeProfiles : Nat := 16

/-- `compositeFlatTopReserved`. -/
def compositeFlatTopReserved : List Bytes :=
  [ascii "workloads", ascii "aliases", ascii "server", ascii "clients", ascii "client"]

/-- `deleteCompositeNoiseKeys`. -/
def deleteCompositeNoiseKeys (m : Json.Object) : Json.Object :=
  compositeFlatTopReserved.foldl (fun m key => m.erase key) m

/-- `globalBaseForCompositeFlat`. -/
def globalBaseForCompositeFlat (top : Json.Object) : Json.Object :=
  deleteCompositeNoiseKeys top

/-- `shallowMergeRawJSON`. -/
def shallowMergeRawJSON (base override : Json.Object) : Json.Object :=
  base.assignFrom (override.erase (ascii "comment"))

/-- The errors of `TryLoadCompositeFlatJSON` and `LoadServerFlatOrComposite`.  A number is the
index that the text shows. -/
inductive CompositeError where
  | readFile
  | json
  | aliases
  | workloads
  | clientsAndClient
  | clientsWithoutServer
  | server
  | clients
  | clientsItem (i : Nat)
  | clientArrayItem (i : Nat)
  | client
  | tooManyProfiles
  | entry (i : Nat)
  | entryID (i : Nat)
  | entryAliases (i : Nat)
  | entrySpec (i : Nat)
  | applySpec (i : Nat) (error : SpecError)
  | infer (error : FlatError)
  | serverMode (i : Nat) (error : SpecError)
  | duplicateID (id : Bytes)
  | notManagement
  | duplicateBind (bind : ServerListener)
  | flatSpec
  | applyFlatSpec (error : SpecError)
  | indexOutOfRange
deriving DecidableEq, Repr

/-- The merged profile of an object of the file, as JSON. -/
def mergedProfile (global object : Json.Object) : Json :=
  Json.ofMap (deleteCompositeNoiseKeys (shallowMergeRawJSON global object))

/-- `appendClient` for the items of an array, with the error for the item at an index. -/
def appendClients (global : Json.Object) (error : Nat → CompositeError) :
    Nat → List Json → Except CompositeError (List Json)
  | _, [] => .ok []
  | i, raw :: rest =>
    match raw.asMap with
    | none => .error (error i)
    | some cm =>
      (appendClients global error (i + 1) rest).map (mergedProfile global cm :: ·)

/-- The profiles under the key `clients`. -/
def clientsEntries (top global : Json.Object) : Except CompositeError (List Json) :=
  match top.lookup (ascii "clients") with
  | none => .ok []
  | some raw =>
    match raw.asArray with
    | none => .error .clients
    | some arr => appendClients global .clientsItem 0 arr

/-- The profiles under the key `client`, an array or an object. -/
def clientEntries (top global : Json.Object) : Except CompositeError (List Json) :=
  match top.lookup (ascii "client") with
  | none => .ok []
  | some (.array arr) => appendClients global .clientArrayItem 0 arr
  | some raw =>
    match raw.asMap with
    | none => .error .client
    | some cm => .ok [mergedProfile global cm]

/-- `compositeProfileRawEntries`, with `none` for a file that is not composite. -/
def compositeProfileRawEntries (top global : Json.Object) :
    Except CompositeError (Option (List Json)) :=
  let hasClients := (top.lookup (ascii "clients")).isSome
  let hasClient := (top.lookup (ascii "client")).isSome
  if hasClients && hasClient then .error .clientsAndClient
  else
    match top.lookup (ascii "server") with
    | none => if hasClients || hasClient then .error .clientsWithoutServer else .ok none
    | some raw =>
      match raw.asMap with
      | none => .error .server
      | some serverObj => do
          let clients ← clientsEntries top global
          let client ← clientEntries top global
          let out := mergedProfile global serverObj :: (clients ++ client)
          if maxCompositeProfiles < out.length then .error .tooManyProfiles
          else .ok (some out)

/-! ### Building -/

/-- `built`. -/
structure Built (F : Type) where
  id : Bytes
  cfg : Config F
  extra : List Bytes

/-- `JoinedClient`. -/
structure JoinedClient (F : Type) where
  id : Bytes
  config : Config F

/-- What `TryLoadCompositeFlatJSON` returns for a composite file. -/
structure Loaded (F : Type) where
  primary : Config F
  joined : List (JoinedClient F)
  extraArgs : List (List Bytes)

/-- What the configuration of a client does not keep. -/
def Built.joinedClient {F : Type} (b : Built F) : JoinedClient F where
  id := b.id
  config := { b.cfg with apiAddr := [], apiToken := [], auth := {} }

/-- The first element that has come before. -/
def firstRepeat {α : Type} [DecidableEq α] : List α → List α → Option α
  | _, [] => none
  | seen, x :: rest => if x ∈ seen then some x else firstRepeat (x :: seen) rest

/-- The addresses that a profile binds. -/
def bindKeys {F : Type} (c : Config F) : List ServerListener :=
  if c.serverListeners ≠ [] then
    c.serverListeners.map fun ln =>
      { ln with transport := trimSpace ln.transport, localIP := trimSpace ln.localIP }
  else if c.serverMode then [⟨trimSpace c.transport, trimSpace c.localIP, c.localPort⟩]
  else []

/-- `validateJoinedClientBinds`, with the address that comes twice. -/
def validateJoinedClientBinds {F : Type} (primary : Config F) (joined : List (JoinedClient F)) :
    Option ServerListener :=
  firstRepeat [] (bindKeys primary ++ joined.flatMap fun j => bindKeys j.config)

/-- The identifier of a profile. -/
def profileID (i : Nat) (entry : Json.Object) : Option Bytes :=
  match entry.lookup (ascii "id") with
  | none => some (ascii "w" ++ itoa i)
  | some raw =>
    raw.asString.map fun s =>
      if trimSpace s ≠ [] then trimSpace s else ascii "w" ++ itoa i

section Build

variable {F : Type} [Float64 F] [CaseTables] (parseDuration : Bytes → Option Int)
  (configDir : Bytes)

/-- The configuration of a merged profile, and its extra arguments. -/
def buildMerged (i : Nat) (merged : Json) : Except CompositeError (Config F × List Bytes) :=
  match merged.asMap with
  | none => .error .json
  | some topCheck =>
    if (topCheck.lookup (ascii "aliases")).isSome then .error (.entryAliases i)
    else
      match merged.asStruct (runSpecOf (F := F)) with
      | none => .error (.entrySpec i)
      | some spec =>
        match applyRunSpec parseDuration defaultConfig spec configDir with
        | .error e => .error (.applySpec i e)
        | .ok cfg =>
          match inferServerFlatManagementFromJSON merged with
          | .error e => .error (.infer e)
          | .ok mgmt =>
            match applyServerModeIfEnabled { cfg with serverMode := mgmt } with
            | .error e => .error (.serverMode i e)
            | .ok cfg => .ok (cfg, spec.extraArgs)

/-- One round of the loop of `buildCompositeProfiles`. -/
def buildEntry (global : Json.Object) (i : Nat) (entryRaw : Json) :
    Except CompositeError (Built F) :=
  match entryRaw.asMap with
  | none => .error (.entry i)
  | some entry =>
    match profileID i entry with
    | none => .error (.entryID i)
    | some id =>
      (buildMerged parseDuration configDir i (mergedProfile global entry)).map
        fun (cfg, extra) => { id, cfg, extra }

/-- The loop of `buildCompositeProfiles`, from an index on. -/
def buildEntries (global : Json.Object) :
    Nat → List Json → Except CompositeError (List (Built F))
  | _, [] => .ok []
  | i, raw :: rest => do
      let b ← buildEntry parseDuration configDir global i raw
      let bs ← buildEntries global (i + 1) rest
      return b :: bs

/-- `less` of the sort.  In the insertion sort an element is only compared with the one before
it, so the comparison of the indices for equal modes is false. -/
def servesBefore (a b : Built F) : Bool :=
  a.cfg.serverMode && !b.cfg.serverMode

/-- What `buildCompositeProfiles` does with the profiles in their order. -/
def assemble : List (Built F) → Except CompositeError (Loaded F)
  | [] => .error .indexOutOfRange
  | first :: rest =>
    match firstRepeat [] ((first :: rest).map (·.id)) with
    | some id => .error (.duplicateID id)
    | none =>
      if first.cfg.serverMode = false then .error .notManagement
      else
        let primary := { first.cfg with serverProfileID := first.id }
        let joined := rest.map Built.joinedClient
        match validateJoinedClientBinds primary joined with
        | some key => .error (.duplicateBind key)
        | none => .ok { primary, joined, extraArgs := (first :: rest).map (·.extra) }

/-- `buildCompositeProfiles`. -/
def buildCompositeProfiles (global : Json.Object) (profileEntries : List Json) :
    Except CompositeError (Loaded F) := do
  let builtList ← buildEntries parseDuration configDir global 0 profileEntries
  assemble (sliceStable servesBefore builtList)

/-- `TryLoadCompositeFlatJSON` of a document, with `none` for a file that is not composite. -/
def tryLoadCompositeFlatJSON (configPath : Bytes) (data : Json) :
    Except CompositeError (Option (Loaded F)) :=
  match data.asMap with
  | none => .error .json
  | some top =>
    if (top.lookup (ascii "aliases")).isSome then .error .aliases
    else if (top.lookup (ascii "workloads")).isSome then .error .workloads
    else
      let global := globalBaseForCompositeFlat top
      match compositeProfileRawEntries top global with
      | .error e => .error e
      | .ok none => .ok none
      | .ok (some profileEntries) =>
        (buildCompositeProfiles parseDuration (dirName configPath) global profileEntries).map
          some

/-- `LoadAndApplyServerConfig` and `LoadAndApplyClientConfig`, with the mode that they set. -/
def loadAndApplyFlatConfig (configPath : Bytes) (management : Bool) (data : Json) :
    Except CompositeError (Config F × List Bytes) :=
  match data.asStruct (runSpecOf (F := F)) with
  | none => .error .flatSpec
  | some spec =>
    match applyRunSpec parseDuration defaultConfig spec (dirName configPath) with
    | .error e => .error (.applyFlatSpec e)
    | .ok cfg => .ok ({ cfg with serverMode := management }, spec.extraArgs)

/-- A file by its name: one that cannot be read, one that is no JSON, or a document. -/
inductive File where
  | missing
  | malformed
  | document (data : Json)

/-- `LoadServerFlatOrComposite`: the configuration, the joined clients and the arguments. -/
def loadServerFlatOrComposite (configPath : Bytes) :
    File → Except CompositeError (Config F × List (JoinedClient F) × List Bytes)
  | .missing => .error .readFile
  | .malformed => .error .json
  | .document data =>
    match tryLoadCompositeFlatJSON parseDuration configPath data with
    | .error e => .error e
    | .ok (some loaded) => .ok (loaded.primary, loaded.joined, loaded.extraArgs.flatten)
    | .ok none =>
      match inferServerFlatManagementFromJSON data with
      | .error e => .error (.infer e)
      | .ok management =>
        (loadAndApplyFlatConfig parseDuration configPath management data).map
          fun (cfg, extra) => (cfg, [], extra)

end Build

/-! ### What merging gives -/

theorem lookup_deleteCompositeNoiseKeys (m : Json.Object) (key : Bytes) :
    (deleteCompositeNoiseKeys m).lookup key =
      if key ∈ compositeFlatTopReserved then none else m.lookup key := by
  rw [deleteCompositeNoiseKeys, Map.lookup_foldl_erase]
  congr

theorem lookup_shallowMergeRawJSON (base override : Json.Object) (key : Bytes) :
    (shallowMergeRawJSON base override).lookup key =
      if key = ascii "comment" then base.lookup key
      else (override.lookup key).or (base.lookup key) := by
  rw [shallowMergeRawJSON, Map.lookup_assignFrom]
  split
  · rename_i isComment
    rw [isComment, AList.lookup_erase, none_or]
  · rename_i other
    rw [AList.lookup_erase_ne other]

theorem mergedProfile_mergedProfile (read : (mergedProfile global object).asMap = some entry) :
    mergedProfile global entry = mergedProfile global object := by
  have sameLookup := Json.lookup_mapOf_sorted
    (deleteCompositeNoiseKeys (shallowMergeRawJSON global object))
  obtain rfl := Option.some.inj read
  apply Json.ofMap_congr
  intro key
  rw [lookup_deleteCompositeNoiseKeys, lookup_deleteCompositeNoiseKeys,
    lookup_shallowMergeRawJSON, sameLookup, lookup_deleteCompositeNoiseKeys,
    lookup_shallowMergeRawJSON]
  split
  · rfl
  · split
    · rfl
    · rw [Option.or_assoc, Option.or_self]

theorem mergedProfile_congr (same : ∀ key, global.lookup key = global'.lookup key) :
    mergedProfile global object = mergedProfile global' object := by
  apply Json.ofMap_congr
  intro key
  rw [lookup_deleteCompositeNoiseKeys, lookup_deleteCompositeNoiseKeys,
    lookup_shallowMergeRawJSON, lookup_shallowMergeRawJSON, same]

/-! ### What building gives -/

section Build

variable {F : Type} [Float64 F] [CaseTables] {parseDuration : Bytes → Option Int}
  {configDir : Bytes}

variable {i : Nat}

/-- The mode of a profile is the inferred one, and the arguments are its own. -/
theorem buildMerged_ok {merged : Json} {cfg : Config F} {extra : List Bytes}
    (built : buildMerged parseDuration configDir i merged = .ok (cfg, extra)) :
    inferServerFlatManagementFromJSON merged = .ok cfg.serverMode ∧
      (merged.asStruct (runSpecOf (F := F))).map (·.extraArgs) = some extra := by
  revert built
  fun_cases buildMerged (F := F) parseDuration configDir i merged <;> rintro ⟨⟩
  rename_i isSpec _ _ mgmt inferred applied
  refine ⟨?_, ?_⟩
  · rw [inferred, applyServerModeIfEnabled_serverMode applied]
  · rw [isSpec]
    rfl

theorem buildEntry_ok {global object : Json.Object} {b : Built F}
    (built : buildEntry parseDuration configDir global i (mergedProfile global object) = .ok b) :
    inferServerFlatManagementFromJSON (mergedProfile global object) = .ok b.cfg.serverMode ∧
      ((mergedProfile global object).asStruct (runSpecOf (F := F))).map (·.extraArgs) =
        some b.extra := by
  unfold buildEntry at built
  split at built
  · cases built
  · rename_i entry read
    split at built
    · cases built
    · rw [mergedProfile_mergedProfile read] at built
      cases merged : buildMerged (F := F) parseDuration configDir i
          (mergedProfile global object) with
      | error e =>
        rw [merged] at built
        cases built
      | ok pair =>
        rw [merged] at built
        cases built
        exact buildMerged_ok merged

theorem buildEntries_ok {global : Json.Object} {entries : List Json}
    {bs : List (Built F)} (built : buildEntries parseDuration configDir global i entries = .ok bs) :
    bs.length = entries.length ∧ ∀ (k : Nat) (raw : Json), entries[k]? = some raw →
      ∃ b, bs[k]? = some b ∧ buildEntry parseDuration configDir global (i + k) raw = .ok b := by
  induction entries generalizing i bs with
  | nil =>
    cases built
    exact ⟨rfl, nofun⟩
  | cons raw rest ih =>
    simp only [buildEntries, bind, Except.bind] at built
    split at built
    · cases built
    · rename_i b first
      split at built
      · cases built
      · rename_i others later
        cases built
        obtain ⟨length, each⟩ := ih later
        refine ⟨by rw [length_cons, length_cons, length], ?_⟩
        intro k asked found
        cases k with
        | zero =>
          cases found
          exact ⟨b, rfl, first⟩
        | succ k =>
          obtain ⟨c, isThere, isBuilt⟩ := each k asked found
          refine ⟨c, isThere, ?_⟩
          rwa [Nat.add_right_comm, Nat.add_assoc] at isBuilt

omit [Float64 F] [CaseTables] in
theorem assemble_ok {bs : List (Built F)} {loaded : Loaded F} (built : assemble bs = .ok loaded) :
    ∃ first rest, bs = first :: rest ∧ first.cfg.serverMode = true ∧
      loaded = ⟨{ first.cfg with serverProfileID := first.id }, rest.map Built.joinedClient,
        (first :: rest).map (·.extra)⟩ := by
  revert built
  fun_cases assemble bs <;> rintro ⟨⟩
  rename_i first rest _ isServer _ _ _
  exact ⟨first, rest, rfl, by simpa using isServer, rfl⟩

end Build

/-! ### Files with a server and clients -/

/-- A file with a server object and an array of client objects that do not give their role. -/
structure CompositeFile where
  members : List (Bytes × Json)
  server : List (Bytes × Json)
  clients : List (List (Bytes × Json))
  hasServer : (Json.mapOf members).lookup (ascii "server") = some (.object server)
  hasClients : (Json.mapOf members).lookup (ascii "clients") =
    some (.array (clients.map .object))
  noRole : ∀ client ∈ clients, ∀ member ∈ client, member.1 ≠ ascii "role"

namespace CompositeFile

def document (file : CompositeFile) : Json :=
  .object file.members

def top (file : CompositeFile) : Json.Object :=
  Json.mapOf file.members

/-- The root keys that are merged into every profile. -/
def global (file : CompositeFile) : Json.Object :=
  globalBaseForCompositeFlat file.top

/-- An object of the file with the root keys merged in. -/
def profile (file : CompositeFile) (object : List (Bytes × Json)) : Json :=
  mergedProfile file.global (Json.mapOf object)

/-- Only the client objects differ. -/
def SameButClients (file other : CompositeFile) : Prop :=
  ∀ key, key ≠ ascii "clients" → other.top.lookup key = file.top.lookup key

end CompositeFile

section Roles

variable {F : Type} [Float64 F] [CaseTables] (parseDuration : Bytes → Option Int)
  (configPath : Bytes) (file : CompositeFile)

/-- The profile that is built from an object of the file at an index. -/
def CompositeFile.build (i : Nat) (object : List (Bytes × Json)) :
    Except CompositeError (Built F) :=
  buildEntry parseDuration (dirName configPath) file.global i (file.profile object)

/-- The roles are kept: the primary configuration is built from the server object and does not
depend on the client objects, the joined profiles are built from the client objects in their
order and generate load, and the arguments are those of the server object. -/
structure KeepsRoles (loaded : Loaded F) : Prop where
  primary : ∃ b, file.build parseDuration configPath 0 file.server = .ok b ∧
    loaded.primary = { b.cfg with serverProfileID := b.id }
  joined_length : loaded.joined.length = file.clients.length
  joined : ∀ (i : Nat) (client : List (Bytes × Json)), file.clients[i]? = some client →
    ∃ b, file.build parseDuration configPath (i + 1) client = .ok b ∧
      loaded.joined[i]? = some b.joinedClient ∧ b.joinedClient.config.serverMode = false
  frame : ∀ other : CompositeFile, file.SameButClients other → ∀ loaded' : Loaded F,
    tryLoadCompositeFlatJSON parseDuration configPath other.document = .ok (some loaded') →
      loaded'.primary = loaded.primary
  args : ∀ b, file.build (F := F) parseDuration configPath 0 file.server = .ok b →
    loadServerFlatOrComposite parseDuration configPath (.document file.document) =
      .ok (loaded.primary, loaded.joined, b.extra)

/-- With the root keys merged in, the server object is found to be a server and the client
objects to generate load, and no client has arguments. -/
structure Separate (F : Type) [Float64 F] (file : CompositeFile) : Prop where
  server : inferServerFlatManagementFromJSON (file.profile file.server) = .ok true
  clients : ∀ client ∈ file.clients,
    inferServerFlatManagementFromJSON (file.profile client) = .ok false
  noArgs : ∀ client ∈ file.clients,
    ((file.profile client).asStruct (runSpecOf (F := F))).map (·.extraArgs) = some []

variable {parseDuration configPath file} {loaded : Loaded F}

omit [CaseTables] in
theorem appendClients_objects (global : Json.Object) (error : Nat → CompositeError) (i : Nat)
    (clients : List (List (Bytes × Json))) :
    appendClients global error i (clients.map .object) =
      .ok (clients.map fun client => mergedProfile global (Json.mapOf client)) := by
  induction clients generalizing i with
  | nil => rfl
  | cons client rest ih =>
    simp only [map_cons, appendClients, Json.asMap, ih]
    rfl

omit [CaseTables] in
theorem CompositeFile.entries
    (read : compositeProfileRawEntries file.top file.global = .ok (some out)) :
    out = file.profile file.server :: file.clients.map file.profile := by
  have hasServer : file.top.lookup (ascii "server") = some (.object file.server) := file.hasServer
  have hasClients : file.top.lookup (ascii "clients") =
      some (.array (file.clients.map .object)) := file.hasClients
  simp only [compositeProfileRawEntries, hasServer, hasClients, isSome_some, Bool.true_and,
    Json.asMap, clientsEntries, clientEntries, Json.asArray, appendClients_objects] at read
  split at read
  · cases read
  · rename_i noClient
    rw [Bool.not_eq_true, isSome_eq_false_iff, isNone_iff_eq_none] at noClient
    simp only [noClient, bind, Except.bind, append_nil] at read
    split at read
    · cases read
    · cases read
      rfl

/-- The profiles of a file that is accepted, and their order. -/
theorem CompositeFile.accepted
    (accepted : tryLoadCompositeFlatJSON parseDuration configPath file.document =
      .ok (some loaded)) :
    ∃ (b : Built F) (bs : List (Built F)),
      file.build parseDuration configPath 0 file.server = .ok b ∧
      bs.length = file.clients.length ∧
      (∀ (k : Nat) (client : List (Bytes × Json)), file.clients[k]? = some client →
        ∃ c, bs[k]? = some c ∧ file.build parseDuration configPath (k + 1) client = .ok c) ∧
      assemble ((b :: bs).filter (·.cfg.serverMode) ++ (b :: bs).filter (!·.cfg.serverMode)) =
        .ok loaded := by
  simp only [tryLoadCompositeFlatJSON, CompositeFile.document, Json.asMap] at accepted
  split at accepted
  · cases accepted
  · split at accepted
    · cases accepted
    · split at accepted
      · cases accepted
      · cases accepted
      · rename_i out read
        obtain rfl : out = file.profile file.server :: file.clients.map file.profile :=
          CompositeFile.entries read
        simp only [buildCompositeProfiles, bind, Except.bind] at accepted
        split at accepted
        · cases accepted
        · rename_i builtList built
          obtain ⟨length, each⟩ := buildEntries_ok built
          obtain ⟨b, isFirst, isServer⟩ := each 0 _ rfl
          cases builtList with
          | nil => cases isFirst
          | cons b' bs =>
            cases isFirst
            refine ⟨b, bs, isServer, by simpa using length, ?_, ?_⟩
            · intro k client found
              obtain ⟨c, isThere, isBuilt⟩ := each (k + 1) (file.profile client) (by
                rw [getElem?_cons_succ, getElem?_map, found]
                rfl)
              exact ⟨c, isThere, by rwa [Nat.zero_add] at isBuilt⟩
            · rw [← sliceStable_groups (fun b : Built F => b.cfg.serverMode)]
              cases assembled : assemble (sliceStable servesBefore (b :: bs)) with
              | error e =>
                rw [assembled] at accepted
                cases accepted
              | ok loaded' =>
                rw [assembled] at accepted
                cases accepted
                exact assembled

omit [Float64 F] [CaseTables] in
theorem sorted_server (mode : b.cfg.serverMode = true) (bs : List (Built F)) :
    (b :: bs).filter (·.cfg.serverMode) ++ (b :: bs).filter (!·.cfg.serverMode) =
      b :: (bs.filter (·.cfg.serverMode) ++ bs.filter (!·.cfg.serverMode)) := by
  simp [mode]

/-- A server object that is found to be a server gives the primary configuration. -/
theorem CompositeFile.server_first
    (accepted : tryLoadCompositeFlatJSON parseDuration configPath file.document =
      .ok (some loaded))
    (isServer : inferServerFlatManagementFromJSON (file.profile file.server) = .ok true)
    {b : Built F} (built : file.build parseDuration configPath 0 file.server = .ok b) :
    loaded.primary = { b.cfg with serverProfileID := b.id } := by
  obtain ⟨b', bs, built', -, -, assembled⟩ := CompositeFile.accepted accepted
  obtain rfl : b = b' := Except.ok.inj (built.symm.trans built')
  have mode : b.cfg.serverMode = true :=
    Except.ok.inj ((buildEntry_ok built).1.symm.trans isServer)
  rw [sorted_server mode] at assembled
  obtain ⟨first, rest, isFirst, -, isLoaded⟩ := assemble_ok assembled
  cases isFirst
  rw [isLoaded]

variable {other : CompositeFile}

omit [Float64 F] [CaseTables] in
theorem CompositeFile.SameButClients.global (same : file.SameButClients other) (key : Bytes) :
    other.global.lookup key = file.global.lookup key := by
  simp only [CompositeFile.global, globalBaseForCompositeFlat, lookup_deleteCompositeNoiseKeys]
  split
  · rfl
  · rename_i notReserved
    apply same
    rintro rfl
    exact notReserved (by decide)

omit [Float64 F] [CaseTables] in
theorem CompositeFile.SameButClients.server
    (same : file.SameButClients other) : other.server = file.server := by
  have found : some (Json.object other.server) = some (Json.object file.server) :=
    other.hasServer.symm.trans ((same (ascii "server") (by decide)).trans file.hasServer)
  exact Json.object.inj (Option.some.inj found)

theorem CompositeFile.SameButClients.build (same : file.SameButClients other) :
    other.build (F := F) parseDuration configPath 0 other.server =
      file.build parseDuration configPath 0 file.server := by
  simp only [CompositeFile.build, CompositeFile.profile, buildEntry, same.server,
    mergedProfile_congr same.global]

/-- Where the objects are separate, the profiles are not moved by the sort. -/
theorem Separate.keepsRoles
    (accepted : tryLoadCompositeFlatJSON parseDuration configPath file.document =
      .ok (some loaded)) (separate : Separate F file) :
    KeepsRoles parseDuration configPath file loaded := by
  obtain ⟨b, bs, built, length, each, assembled⟩ := CompositeFile.accepted accepted
  have mode : b.cfg.serverMode = true :=
    Except.ok.inj ((buildEntry_ok built).1.symm.trans separate.server)
  -- every client is there, with its mode and without arguments
  have clients (c : Built F) (member : c ∈ bs) : c.cfg.serverMode = false ∧ c.extra = [] := by
    obtain ⟨k, isThere⟩ := getElem?_of_mem member
    have inRange : k < file.clients.length := length ▸ (List.getElem?_eq_some_iff.mp isThere).1
    obtain ⟨c', isThere', isBuilt⟩ := each k _ (getElem?_eq_getElem inRange)
    obtain rfl : c = c' := Option.some.inj (isThere.symm.trans isThere')
    have isClient := getElem_mem inRange
    exact ⟨Except.ok.inj ((buildEntry_ok isBuilt).1.symm.trans (separate.clients _ isClient)),
      Option.some.inj ((buildEntry_ok isBuilt).2.symm.trans (separate.noArgs _ isClient))⟩
  have noServers : bs.filter (·.cfg.serverMode) = [] :=
    filter_eq_nil_iff.mpr fun c member => by simp [(clients c member).1]
  have allLoad : bs.filter (!·.cfg.serverMode) = bs :=
    filter_eq_self.mpr fun c member => by simp [(clients c member).1]
  have noArgs : (bs.map (·.extra)).flatten = [] := by
    rw [flatten_eq_nil_iff]
    intro args member
    obtain ⟨c, isClient, rfl⟩ := List.mem_map.mp member
    exact (clients c isClient).2
  rw [sorted_server mode, noServers, allLoad, nil_append] at assembled
  obtain ⟨first, rest, isFirst, -, rfl⟩ := assemble_ok assembled
  cases isFirst
  refine ⟨⟨b, built, rfl⟩, ?_, ?_, ?_, ?_⟩
  · simpa using length
  · intro i client found
    obtain ⟨c, isThere, isBuilt⟩ := each i client found
    refine ⟨c, isBuilt, ?_, (clients c (mem_of_getElem? isThere)).1⟩
    rw [getElem?_map, isThere, map_some]
  · intro other same loaded' accepted'
    have isServer : inferServerFlatManagementFromJSON (other.profile other.server) = .ok true := by
      rw [CompositeFile.profile, same.server, mergedProfile_congr same.global]
      exact separate.server
    exact CompositeFile.server_first accepted' isServer (same.build.trans built)
  · intro b' built'
    obtain rfl : b = b' := Except.ok.inj (built.symm.trans built')
    simp [loadServerFlatOrComposite, accepted, map_cons, flatten_cons, noArgs, append_nil]

theorem KeepsRoles.primary_mode (keeps : KeepsRoles parseDuration configPath file loaded) :
    inferServerFlatManagementFromJSON (file.profile file.server) =
      .ok loaded.primary.serverMode := by
  obtain ⟨b, built, isPrimary⟩ := keeps.primary
  rw [isPrimary]
  exact (buildEntry_ok built).1

theorem KeepsRoles.joined_load (keeps : KeepsRoles parseDuration configPath file loaded)
    {joined} (member : joined ∈ loaded.joined) :
    joined.config.serverMode = false := by
  obtain ⟨i, isThere⟩ := getElem?_of_mem member
  have inRange : i < file.clients.length :=
    keeps.joined_length ▸ (List.getElem?_eq_some_iff.mp isThere).1
  obtain ⟨b, -, isJoined, isLoad⟩ := keeps.joined i _ (getElem?_eq_getElem inRange)
  obtain rfl : joined = b.joinedClient := Option.some.inj (isThere.symm.trans isJoined)
  exact isLoad

/-- A composite file that is accepted keeps the roles of its objects exactly if, with the root
keys merged in, the server object is found to be a server, the client objects are found to
generate load, and no client object has arguments. -/
theorem keepsRoles_iff
    (accepted : tryLoadCompositeFlatJSON parseDuration configPath file.document =
      .ok (some loaded)) :
    KeepsRoles parseDuration configPath file loaded ↔ Separate F file := by
  refine ⟨?_, Separate.keepsRoles accepted⟩
  intro keeps
  obtain ⟨b, bs, built, length, each, assembled⟩ := CompositeFile.accepted accepted
  obtain ⟨first, rest, isFirst, serves, isLoaded⟩ := assemble_ok assembled
  have mode : b.cfg.serverMode = true := by
    have sameMode := Except.ok.inj ((buildEntry_ok built).1.symm.trans keeps.primary_mode)
    rw [sameMode, isLoaded]
    exact serves
  have loads (client : List (Bytes × Json)) (member : client ∈ file.clients) :
      ∃ c ∈ bs, c.cfg.serverMode = false ∧
        inferServerFlatManagementFromJSON (file.profile client) = .ok c.cfg.serverMode ∧
        ((file.profile client).asStruct (runSpecOf (F := F))).map (·.extraArgs) =
          some c.extra := by
    obtain ⟨k, found⟩ := getElem?_of_mem member
    obtain ⟨c, isBuilt, -, isLoad⟩ := keeps.joined k client found
    obtain ⟨c', isThere, isBuilt'⟩ := each k client found
    obtain rfl : c = c' := Except.ok.inj (isBuilt.symm.trans isBuilt')
    exact ⟨c, mem_of_getElem? isThere, isLoad, buildEntry_ok isBuilt⟩
  rw [sorted_server mode] at isFirst
  cases isFirst
  have args := keeps.args b built
  simp only [loadServerFlatOrComposite, accepted, isLoaded, map_cons, flatten_cons,
    Except.ok.injEq, Prod.mk.injEq, true_and, append_right_eq_self] at args
  refine ⟨?_, ?_, ?_⟩
  · exact (buildEntry_ok built).1.trans (congrArg _ mode)
  · intro client member
    obtain ⟨c, -, isLoad, inferred, -⟩ := loads client member
    rw [inferred, isLoad]
  · intro client member
    obtain ⟨c, isClient, isLoad, -, ownArgs⟩ := loads client member
    rw [ownArgs]
    have inRest : c ∈ bs.filter (·.cfg.serverMode) ++ bs.filter (!·.cfg.serverMode) :=
      mem_append_right _ (mem_filter.mpr ⟨isClient, by simp [isLoad]⟩)
    exact congrArg some (flatten_eq_nil_iff.mp args _ (List.mem_map_of_mem inRest))

end Roles

section Concrete

/-- Whole numbers in place of `float64`. -/
@[reducible] def wholeRates : Float64 Int where
  zero := 0
  one := 1
  lt x y := decide (x < y)
  eq x y := decide (x = y)
  parseFloat _ := none
  milliseconds x := x

attribute [local instance] wholeRates CaseTables.asciiOnly

def clientObject (args : List Bytes) : List (Bytes × Json) :=
  [(ascii "remote_addr", .string (ascii "10.0.0.2:5060")),
    (ascii "local_port", .number (ascii "5070")),
    (ascii "extra_args", .array (args.map .string))]

/-- The server has the address of the management interface, and the client no arguments. -/
def ownAddress : CompositeFile where
  members :=
    [(ascii "server", .object [(ascii "api_addr", .string (ascii ":9090"))]),
      (ascii "clients", .array [.object (clientObject [])])]
  server := [(ascii "api_addr", .string (ascii ":9090"))]
  clients := [clientObject []]
  hasServer := rfl
  hasClients := rfl
  noRole := by decide

theorem keepsRoles_ownAddress :
    ∃ loaded : Loaded Int,
      tryLoadCompositeFlatJSON (fun _ => none) (ascii "/etc/g.json") ownAddress.document =
        .ok (some loaded) ∧
      KeepsRoles (fun _ => none) (ascii "/etc/g.json") ownAddress loaded := by
  refine ⟨_, rfl, (keepsRoles_iff rfl).mpr ⟨rfl, ?_, ?_⟩⟩
  · intro client member
    cases mem_singleton.mp member
    rfl
  · intro client member
    cases mem_singleton.mp member
    rfl

/-- The address of the management interface stands at the root. -/
def rootAddress : CompositeFile where
  members :=
    [(ascii "api_addr", .string (ascii ":9090")),
      (ascii "server", .object []),
      (ascii "clients", .array [.object (clientObject [ascii "-trace_msg"])])]
  server := []
  clients := [clientObject [ascii "-trace_msg"]]
  hasServer := rfl
  hasClients := rfl
  noRole := by decide

/-- The server object looks like a client and the client object like a server. -/
def exchanged : CompositeFile where
  members :=
    [(ascii "server", .object (clientObject [])),
      (ascii "clients", .array [.object [(ascii "api_addr", .string (ascii ":9090"))]])]
  server := clientObject []
  clients := [[(ascii "api_addr", .string (ascii ":9090"))]]
  hasServer := rfl
  hasClients := rfl
  noRole := by decide

/-- A client inherits the address at the root, so that it is joined in server mode, and its
arguments are those of the primary; and a client object can become the primary. -/
theorem client_takes_server_role :
    (∃ loaded : Loaded Int,
      tryLoadCompositeFlatJSON (fun _ => none) (ascii "/etc/g.json") rootAddress.document =
        .ok (some loaded) ∧
      loaded.joined.map (·.config.serverMode) = [true] ∧
      loaded.extraArgs.flatten = [ascii "-trace_msg"] ∧
      ¬ KeepsRoles (fun _ => none) (ascii "/etc/g.json") rootAddress loaded) ∧
    ∃ loaded : Loaded Int,
      tryLoadCompositeFlatJSON (fun _ => none) (ascii "/etc/g.json") exchanged.document =
        .ok (some loaded) ∧
      loaded.primary.serverProfileID = ascii "w1" ∧
      ¬ KeepsRoles (fun _ => none) (ascii "/etc/g.json") exchanged loaded := by
  refine ⟨⟨_, rfl, rfl, rfl, ?_⟩, ⟨_, rfl, rfl, ?_⟩⟩
  · intro keeps
    exact Bool.noConfusion (keeps.joined_load mem_cons_self)
  · intro keeps
    exact Bool.noConfusion (Except.ok.inj keeps.primary_mode)

end Concrete

end Gossipper.Cli
