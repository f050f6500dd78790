/-
Module: Gossipper.Loadtest.Run
Purpose: Load-test requests that share one stored profile: each request overwrites it
  and forks a worker, which reads it later, after `internal/loadtest/run.go` and
  `cmd/gossip/worker_cmd.go`.
Trusted boundary: as for the configuration; a write of a profile and the reading of it
  are one step each (the file is replaced by a rename).  Whether the jobs table and the
  operating system let a worker start is given by the events.
Main exports: Request, parseDirector, accept, buildEngine, wizardProfile, State, own_config_iff
-/
import Gossipper.Lib.Run
import Gossipper.Lib.Threads
import Gossipper.Supervisor.ProfileConfig

namespace Gossipper.Loadtest

open Go Scenario Supervisor Transition List Option

/-! ### Requests -/

/-- `WizardProfileID`. -/
def wizardProfileID : Bytes := ascii "_load_wizard"

/-- `Request`. -/
structure Request (F : Type) where
  id : Bytes := []
  director : Bytes
  scenarioID : Bytes := []
  totalCalls : Int
  rate : F
  maxConcurrent : Int
  runTimeoutMs : Int := 0
  sipFrom : Bytes := []
  sipPAI : Bytes := []
  sipProvider : Bytes := []
  recordWAV : Bool := false
  recordWAVDuplex : Bool := false
  healthEnabled : Bool := false
  healthMinSuccessRatio : F
  healthMaxFailedCalls : Int := 0
deriving DecidableEq, Repr

/-- `Director`. -/
structure Director where
  host : Bytes
  port : Int
deriving DecidableEq, Repr

/-- The errors of a request, by the field they name. -/
inductive RequestError where
  | directorRequired
  | directorHostEmpty
  | directorPort (raw : Bytes)
  | scenarioID (id : Bytes)
  | totalCalls
  | rate
  | maxConcurrent
  | runTimeoutMs
  | healthMinSuccessRatio
  | healthMaxFailedCalls
deriving DecidableEq, Repr

/-- The spaces that `Sscanf` skips; a newline is an error. -/
def skipSpace : List Segment → Option (List Segment)
  | [] => some []
  | part :: rest =>
    if part.rune = 0x0A then none
    else if part.isSpace then skipSpace rest
    else some (part :: rest)

/-- `fmt.Sscanf(s, "%d", &n)`, with `none` for an error; what follows the number is not
looked at. -/
def sscanfInt (s : Bytes) : Option Int :=
  (skipSpace (segments s)).bind fun parts =>
    let text := textOf parts
    let sign := text.take 1 |>.filter fun b => b == 0x2B || b == 0x2D
    let digits := (text.drop sign.length).takeWhile fun b => (digitValue b).isSome
    match atoi (sign ++ digits) with
    | (n, none) => some n
    | (_, some _) => none

/-- `splitHostPort`. -/
def splitHostPort (raw : Bytes) (defaultPort : Int) : Except RequestError Director :=
  let raw := trimSpace raw
  if raw = [] then .error .directorHostEmpty
  else
    match lastIndex raw (ascii ":"), index raw (ascii ":") with
    | some (i + 1), some first =>
      if first = i + 1 then
        let host := trimSpace (raw.take (i + 1))
        match sscanfInt (raw.drop (i + 2)) with
        | none => .error (.directorPort raw)
        | some port =>
          if port ≤ 0 then .error (.directorPort raw)
          else if host = [] then .error .directorHostEmpty
          else .ok { host, port }
      else .ok { host := raw, port := defaultPort }
    | _, _ => .ok { host := raw, port := defaultPort }

/-- `ParseDirector`. -/
def parseDirector (input : Bytes) : Except RequestError Director :=
  let raw := trimSpace input
  if raw = [] then .error .directorRequired
  else if hasPrefix raw (ascii "sip:") then
    let rest := trimPrefix raw (ascii "sip:")
    match index rest (ascii "@") with
    | some at_ => splitHostPort (rest.drop (at_ + 1)) 5060
    | none => splitHostPort rest 5060
  else splitHostPort raw 5060

/-- `InviteMediaScenarios`. -/
def inviteMediaScenarios : List Bytes :=
  [ascii "invite_media", ascii "invite_media_early", ascii "invite_media_early_180",
    ascii "invite_media_savpf", ascii "invite_media_scale"]

/-- `validScenario`. -/
def validScenario (lib : Library) (id : Bytes) : Bool :=
  inviteMediaScenarios.contains id || lib.loadNamed id

section Requests

variable {F : Type}

/-- The scenario of a request. -/
def Request.scenario (req : Request F) : Bytes :=
  let scID := trimSpace req.scenarioID
  if scID = [] then ascii "invite_media" else scID

/-- A text that is passed on if it is not blank. -/
def textEntry (key value : Bytes) : Engine F :=
  let s := trimSpace value
  if s = [] then [] else [(key, .string s)]

variable [JsonNumber F]

/-- `Validate` and `ParseDirector`, as `Start` calls them. -/
def accept (lib : Library) (req : Request F) : Except RequestError Director :=
  match parseDirector req.director with
  | .error err => .error err
  | .ok dir =>
    if !validScenario lib req.scenario then .error (.scenarioID req.scenario)
    else if req.totalCalls < 0 then .error .totalCalls
    else if Float64.lt req.rate Float64.zero || Float64.eq req.rate Float64.zero then
      .error .rate
    else if req.maxConcurrent ≤ 0 then .error .maxConcurrent
    else if req.runTimeoutMs < 0 then .error .runTimeoutMs
    else if req.healthEnabled && Float64.lt req.healthMinSuccessRatio Float64.zero then
      .error .healthMinSuccessRatio
    else if req.healthMaxFailedCalls < 0 then .error .healthMaxFailedCalls
    else .ok dir

/-- `BuildEngine`. -/
def buildEngine (req : Request F) (dir : Director) : Engine F :=
  [(ascii "total_calls", .int req.totalCalls),
    (ascii "rate", .float req.rate),
    (ascii "max_concurrent", .int req.maxConcurrent),
    (ascii "remote_host", .string dir.host),
    (ascii "remote_port", .int dir.port)] ++
  (if 0 < req.runTimeoutMs then [(ascii "global_timeout_ms", .int req.runTimeoutMs)] else []) ++
  textEntry (ascii "sip_from") req.sipFrom ++
  textEntry (ascii "sip_pai") req.sipPAI ++
  textEntry (ascii "sip_provider") req.sipProvider ++
  (if req.healthEnabled then
    (if Float64.lt Float64.zero req.healthMinSuccessRatio
      then [(ascii "health_min_success_ratio", .float req.healthMinSuccessRatio)] else []) ++
      [(ascii "health_max_failed_calls", .int req.healthMaxFailedCalls)]
  else [])

/-- The profile that `UpsertWizardProfile` stores. -/
def wizardProfile (req : Request F) (dir : Director) : ClientProfile F where
  scenarioRef := req.scenario
  remoteIP := dir.host
  remotePort := dir.port
  rate := req.rate
  maxConcurrent := req.maxConcurrent
  durationMs := if 0 < req.runTimeoutMs then req.runTimeoutMs else 0
  transports := [{ transport := ascii "u1", localIP := ascii "0.0.0.0", enabled := true }]

/-- The spec of the worker. -/
def specOf (root : Bytes) (req : Request F) (dir : Director) (jobID : Bytes) : Spec F where
  jobID := jobID
  dataDir := root
  profileID := wizardProfileID
  profileKind := ascii "client"
  scenarioID := req.scenario
  artifactsDir := joinPath (joinPath (joinPath root (ascii "artifacts")) (ascii "jobs")) jobID
  recordWAV := req.recordWAV
  recordWAVDuplex := req.recordWAV && req.recordWAVDuplex
  engine := buildEngine req dir

/-- The spec as the worker reads it from the file. -/
def received (spec : Spec F) : Spec F :=
  { spec with engine := spec.engine.map fun entry => (entry.1, entry.2.decoded) }

end Requests

/-! ### Requests side by side -/

/-- Where a request stands; the job of a forked worker has its spec, and a worker that
has built its configuration has the result. -/
inductive Phase (F : Type) where
  | received
  | written
  | refused
  | forked (spec : Spec F)
  | built (spec : Spec F) (result : Except BuildError (Config F))

/-- The data directory of a store, which is never empty. -/
structure DataDir where
  path : Bytes
  nonempty : path ≠ []

/-- The stored profiles and the requests. -/
structure State (F : Type) where
  profiles : Profiles F
  phases : List (Phase F)

/-- A request stores the profile; it forks its worker, for which a job identifier is drawn
if the request has none; it fails; its worker reads the profile and builds. -/
inductive Event where
  | write (i : Nat)
  | fork (i : Nat) (uuid : Bytes)
  | refuse (i : Nat)
  | build (i : Nat)
deriving DecidableEq, Repr

section System

variable {F : Type} [JsonNumber F] [CaseTables]

def State.init (requests : List (Request F)) (profiles : Profiles F) : State F where
  profiles := profiles
  phases := requests.map fun _ => .received

def State.setPhase (s : State F) (i : Nat) (phase : Phase F) : State F :=
  { s with phases := s.phases.set i phase }

/-- `UpsertWizardProfile`. -/
def State.store (s : State F) (p : ClientProfile F) : State F :=
  { s with profiles := { s.profiles with
      clients := (wizardProfileID, p) :: s.profiles.clients } }

/-- The job identifier of a request. -/
def jobIDOf (req : Request F) (uuid : Bytes) : Bytes :=
  let jobID := trimSpace req.id
  if jobID = [] then uuid else jobID

/-- One step; `none` when the event cannot happen. -/
def step (lib : Library) (root : DataDir) (requests : List (Request F)) (event : Event)
    (s : State F) : Option (State F) :=
  match event with
  | .write i =>
    match s.phases[i]?, requests[i]? with
    | some .received, some req =>
      match accept lib req with
      | .ok dir => some ((s.store (wizardProfile req dir)).setPhase i .written)
      | .error _ => some (s.setPhase i .refused)
    | _, _ => none
  | .fork i uuid =>
    match s.phases[i]?, requests[i]? with
    | some .written, some req =>
      match accept lib req with
      | .ok dir =>
        let jobID := jobIDOf req uuid
        if isSafeID jobID then
          some (s.setPhase i (.forked (specOf root.path req dir jobID)))
        else some (s.setPhase i .refused)
      | .error _ => none
    | _, _ => none
  | .refuse i =>
    match s.phases[i]? with
    | some .received | some .written => some (s.setPhase i .refused)
    | _ => none
  | .build i =>
    match s.phases[i]? with
    | some (.forked spec) =>
      some (s.setPhase i
        (.built spec (buildConfigFromSpec lib s.profiles (received spec))))
    | _ => none

/-- The configuration of a request that is the only one. -/
def alone (lib : Library) (root : DataDir) (req : Request F) (dir : Director) (jobID : Bytes) :
    Except BuildError (Config F) :=
  buildConfigFromSpec lib
    { servers := [], clients := [(wizardProfileID, wizardProfile req dir)] }
    (received (specOf root.path req dir jobID))

/-- Every worker that has built its configuration has that of its own request. -/
def State.Independent (lib : Library) (root : DataDir) (requests : List (Request F))
    (s : State F) : Prop :=
  ∀ (i : Nat) (req : Request F) (spec : Spec F) (result : Except BuildError (Config F)),
    requests[i]? = some req → s.phases[i]? = some (.built spec result) →
    ∃ dir, accept lib req = .ok dir ∧ result = alone lib root req dir spec.jobID

end System

/-! ### What a worker takes from the stored profile -/

section Targets

variable {F : Type}

theorem lookup_textEntry (different : (key == name) = false) :
    (textEntry name value : Engine F).lookup key = none := by
  simp only [textEntry]
  split
  · rfl
  · rw [lookup_cons, different]
    rfl

theorem scenario_trimmed (req : Request F) :
    trimSpace req.scenario = req.scenario ∧ req.scenario ≠ [] := by
  simp only [Request.scenario]
  split
  · exact ⟨by decide, by decide⟩
  · rename_i nonempty
    exact ⟨trimSpace_trimSpace _, nonempty⟩

variable [JsonNumber F]

/-- An integer of the spec, as the worker reads it. -/
def through (F : Type) [JsonNumber F] (n : Int) : Option Int :=
  JsonNumber.toInt (JsonNumber.ofInt n : F)

/-- The time limit that the spec carries, in milliseconds. -/
def ownLimit (req : Request F) : Option Int :=
  if 0 < req.runTimeoutMs then (through F req.runTimeoutMs).filter (0 < ·) else none

/-- The time limit that the profile of a request carries. -/
def profileLimit (req : Request F) : Int :=
  if 0 < req.runTimeoutMs then mulInt req.runTimeoutMs millisecond else 0

/-- The profile of `other` gives the worker of `req` nothing but what its own would: what
the spec of `req` does not carry is the same in both requests. -/
structure Unaffected (req : Request F) (dir : Director) (other : Request F)
    (otherDir : Director) : Prop where
  remotePort : through F dir.port = none → otherDir.port = dir.port
  maxConcurrent : through F req.maxConcurrent = none → other.maxConcurrent = req.maxConcurrent
  limit : ownLimit req = none → profileLimit other = profileLimit req

theorem lookup_decoded (engine : Engine F) (key : Bytes) :
    (engine.map fun entry => (entry.1, entry.2.decoded)).lookup key =
      (engine.lookup key).map Value.decoded := by
  induction engine with
  | nil => rfl
  | cons entry rest ih =>
    obtain ⟨name, value⟩ := entry
    simp only [map_cons, lookup_cons]
    cases key == name with
    | true => rfl
    | false => exact ih

theorem lookup_remoteHost (req : Request F) (dir : Director) :
    (buildEngine req dir).lookup (ascii "remote_host") = some (.string dir.host) := rfl

theorem lookup_remotePort (req : Request F) (dir : Director) :
    (buildEngine req dir).lookup (ascii "remote_port") = some (.int dir.port) := rfl

theorem lookup_rate (req : Request F) (dir : Director) :
    (buildEngine req dir).lookup (ascii "rate") = some (.float req.rate) := rfl

theorem lookup_maxConcurrent (req : Request F) (dir : Director) :
    (buildEngine req dir).lookup (ascii "max_concurrent") = some (.int req.maxConcurrent) := rfl

theorem lookup_globalTimeout (req : Request F) (dir : Director) :
    (buildEngine req dir).lookup (ascii "global_timeout_ms") =
      if 0 < req.runTimeoutMs then some (.int req.runTimeoutMs) else none := by
  have health : ∀ entries : Engine F,
      entries = (if req.healthEnabled then
        (if Float64.lt Float64.zero req.healthMinSuccessRatio
          then [(ascii "health_min_success_ratio", .float req.healthMinSuccessRatio)] else []) ++
          [(ascii "health_max_failed_calls", .int req.healthMaxFailedCalls)]
        else []) → entries.lookup (ascii "global_timeout_ms") = none := by
    rintro entries rfl
    split
    · split <;> rfl
    · rfl
  unfold buildEngine
  rw [lookup_append, lookup_append, lookup_append, lookup_append,
    lookup_append, health _ rfl, lookup_textEntry rfl, lookup_textEntry rfl,
    lookup_textEntry rfl]
  split <;> rfl

/-- The scenario of a request is found. -/
def loads (lib : Library) (req : Request F) : Bool :=
  (resolveScenario lib req.scenario (defaultConfig : Config F)).isOk

/-- The target of a worker whose request is `req` and whose profile is that of `other`. -/
def targetFor (req : Request F) (dir : Director) (other : Request F) (otherDir : Director) :
    Target F where
  remoteHost := dir.host
  remotePort := (through F dir.port).getD otherDir.port
  rate := req.rate
  maxConcurrent := (through F req.maxConcurrent).getD other.maxConcurrent
  globalTimeout := ((ownLimit req).map (mulInt · millisecond)).getD (profileLimit other)

theorem getD_eq_getD_iff {α : Type} (own : Option α) (first second : α) :
    own.getD first = own.getD second ↔ (own = none → first = second) := by
  cases own with
  | none | some value => simp

variable {dir otherDir : Director} {req other : Request F}

theorem targetFor_eq_iff :
    targetFor req dir other otherDir = targetFor req dir req dir ↔
      Unaffected req dir other otherDir := by
  have limit : ((ownLimit req).map (mulInt · millisecond)).getD (profileLimit other) =
      ((ownLimit req).map (mulInt · millisecond)).getD (profileLimit req) ↔
      (ownLimit req = none → profileLimit other = profileLimit req) := by
    rw [getD_eq_getD_iff, map_eq_none_iff]
  constructor
  · intro same
    injection same with _ port _ concurrent timeout
    exact ⟨(getD_eq_getD_iff _ _ _).mp port, (getD_eq_getD_iff _ _ _).mp concurrent,
      limit.mp timeout⟩
  · intro unaffected
    simp only [targetFor, Target.mk.injEq, true_and]
    exact ⟨(getD_eq_getD_iff _ _ _).mpr unaffected.remotePort,
      (getD_eq_getD_iff _ _ _).mpr unaffected.maxConcurrent, limit.mpr unaffected.limit⟩

/-! What `accept` guarantees. -/

theorem splitHostPort_ok
    (positive : 0 < defaultPort) (ok : splitHostPort raw defaultPort = .ok dir) :
    dir.host ≠ [] ∧ 0 < dir.port := by
  revert ok
  fun_cases splitHostPort raw defaultPort <;> rintro ⟨⟩
  case case5 port hostNonempty _ => exact ⟨hostNonempty, Int.not_le.mp port⟩
  case case6 nonempty _ _ _ _ _ | case7 nonempty _ => exact ⟨nonempty, positive⟩

theorem parseDirector_ok (ok : parseDirector input = .ok dir) :
    dir.host ≠ [] ∧ 0 < dir.port := by
  simp only [parseDirector] at ok
  split at ok
  · cases ok
  · split at ok
    · split at ok <;> exact splitHostPort_ok (by decide) ok
    · exact splitHostPort_ok (by decide) ok

structure Accepted (req : Request F) (dir : Director) : Prop where
  host : dir.host ≠ []
  port : 0 < dir.port
  maxConcurrent : 0 < req.maxConcurrent

theorem accept_ok {lib : Library} {req : Request F} {dir : Director}
    (ok : accept lib req = .ok dir) : Accepted req dir := by
  unfold accept at ok
  split at ok
  · cases ok
  · rename_i parsed
    have director := parseDirector_ok parsed
    iterate 7
      split at ok
      · cases ok
    cases ok
    exact ⟨director.1, director.2, by omega⟩

/-- The overlay of an accepted request on the profile of an accepted one. -/
theorem target_overlay (root jobID : Bytes)
    (accepted : Accepted req dir) (stored : Accepted other otherDir) :
    (wizardProfile other otherDir).target.overlay (received (specOf root req dir jobID)).engine =
      targetFor req dir other otherDir := by
  have limit : (wizardProfile other otherDir).target.globalTimeout = profileLimit other := by
    simp only [wizardProfile, ClientProfile.target, profileLimit]
    split <;> rfl
  have ownTimeout : intgIf (received (specOf root req dir jobID)).engine
      (ascii "global_timeout_ms") (0 < ·) = ownLimit req := by
    simp only [intgIf, received, specOf, lookup_decoded, lookup_globalTimeout, ownLimit]
    split <;> rfl
  simp only [Target.overlay, ownTimeout, limit, targetFor, Target.mk.injEq]
  refine ⟨?_, ?_, ?_, ?_, trivial⟩
  · simp only [str, received, specOf, lookup_decoded, lookup_remoteHost]
    exact if_pos accepted.host
  · have profilePort : (wizardProfile other otherDir).target.remotePort = otherDir.port :=
      if_pos stored.port
    simp only [intg, received, specOf, lookup_decoded, lookup_remotePort, profilePort]
    rfl
  · simp only [flt, received, specOf, lookup_decoded, lookup_rate]
    rfl
  · have profileConcurrent :
        (wizardProfile other otherDir).target.maxConcurrent = other.maxConcurrent :=
      if_pos stored.maxConcurrent
    simp only [intg, received, specOf, lookup_decoded, lookup_maxConcurrent, profileConcurrent]
    rfl

omit [JsonNumber F] in
theorem map_withTarget_eq_iff (base : Except BuildError (Config F)) (first second : Target F) :
    base.map (Config.withTarget first) = base.map (Config.withTarget second) ↔
      (base.isOk = true → first = second) := by
  cases base with
  | error err => exact ⟨fun _ => nofun, fun _ => rfl⟩
  | ok cfg =>
    constructor
    · intro same _
      injection same with same
      exact Config.withTarget_injective same
    · intro equal
      rw [equal rfl]

/-- A worker builds its configuration exactly if the scenario of the request is found. -/
theorem untargeted_isOk (lib : Library) (root jobID : Bytes) (req : Request F)
    (dir : Director) (transports : List TransportSpec) :
    (untargeted lib transports (received (specOf root req dir jobID))).isOk = loads lib req := by
  have trimmed : trimSpace (received (specOf root req dir jobID)).scenarioID = req.scenario :=
    (scenario_trimmed req).1
  rw [untargeted, trimmed, loads, resolveScenario_isOk lib req.scenario defaultConfig
    (applyTransports defaultConfig transports)]
  cases resolveScenario lib req.scenario (applyTransports (defaultConfig : Config F) transports) with
  | error err | ok cfg => rfl

variable [CaseTables]

/-- The worker of `req` with the stored profile of `other`. -/
theorem build_received (lib : Library) (root : DataDir) (jobID : Bytes)
    (accepted : Accepted req dir) (stored : Accepted other otherDir)
    (found : profiles.clients.lookup wizardProfileID = some (wizardProfile other otherDir)) :
    buildConfigFromSpec lib profiles (received (specOf root.path req dir jobID)) =
      (untargeted lib (wizardProfile req dir).transports
        (received (specOf root.path req dir jobID))).map
        (Config.withTarget (targetFor req dir other otherDir)) := by
  have kind : toLower (trimSpace (ascii "client")) = ascii "client" := by
    have trimmed : trimSpace (ascii "client") = ascii "client" ++ [] := by decide
    rw [trimmed, toLower_ascii_append (by decide +kernel)]
    rfl
  have named : trimSpace req.scenario ≠ [] := by
    rw [(scenario_trimmed req).1]
    exact (scenario_trimmed req).2
  have built := buildConfigFromSpec_client lib (received (specOf root.path req dir jobID))
    root.nonempty kind found named
  rw [built, target_overlay root.path jobID accepted stored]
  rfl

/-- A worker with the profile of another request builds what it would build alone, exactly
if it builds nothing or is unaffected. -/
theorem build_eq_alone_iff (lib : Library) (root : DataDir) (jobID : Bytes)
    (accepted : Accepted req dir) (stored : Accepted other otherDir)
    (found : profiles.clients.lookup wizardProfileID = some (wizardProfile other otherDir)) :
    buildConfigFromSpec lib profiles (received (specOf root.path req dir jobID)) =
        alone lib root req dir jobID ↔
      (loads lib req = true → Unaffected req dir other otherDir) := by
  have own : alone lib root req dir jobID = _ := build_received lib root jobID accepted accepted rfl
  rw [build_received lib root jobID accepted stored found, own, map_withTarget_eq_iff,
    untargeted_isOk, targetFor_eq_iff]

end Targets

/-! ### Runs -/

section Runs

variable {F : Type} [JsonNumber F] [CaseTables] {lib : Library} {root : DataDir}
  {requests : List (Request F)} {s : State F}

/-- Every step, with the condition under which it happens. -/
inductive Stepped (lib : Library) (root : DataDir) (requests : List (Request F)) (s : State F) :
    State F → Prop where
  | write {i : Nat} {req : Request F} {dir : Director} : requests[i]? = some req →
      accept lib req = .ok dir →
      Stepped lib root requests s ((s.store (wizardProfile req dir)).setPhase i .written)
  | fork {i : Nat} {uuid : Bytes} {req : Request F} {dir : Director} :
      s.phases[i]? = some .written → requests[i]? = some req → accept lib req = .ok dir →
      isSafeID (jobIDOf req uuid) = true →
      Stepped lib root requests s
        (s.setPhase i (.forked (specOf root.path req dir (jobIDOf req uuid))))
  | refuse {i : Nat} : Stepped lib root requests s (s.setPhase i .refused)
  | build {i : Nat} {spec : Spec F} : s.phases[i]? = some (.forked spec) →
      Stepped lib root requests s (s.setPhase i
        (.built spec (buildConfigFromSpec lib s.profiles (received spec))))

theorem step_stepped {event after}
    (stepped : step lib root requests event s = some after) :
    Stepped lib root requests s after := by
  revert stepped
  fun_cases step lib root requests event s <;> rintro ⟨⟩
  case case1 found _ _ accepted => exact .write found accepted
  case case4 found written _ accepted _ safe => exact .fork written found accepted safe
  case case11 forked => exact .build forked
  all_goals exact .refuse

/-- The identifier of a request, if it has one, can name a job. -/
def mayStart (req : Request F) : Bool :=
  trimSpace req.id = [] || isSafeID (trimSpace req.id)

variable {req : Request F}

omit [JsonNumber F] [CaseTables] in
theorem mayStart_of_safe (safe : isSafeID (jobIDOf req uuid) = true) : mayStart req = true := by
  simp only [jobIDOf] at safe
  unfold mayStart
  split at safe
  · rename_i blank
    simp [blank]
  · simp [safe]

/-- No request of the list is affected by the profile of another one. -/
def AllUnaffected (lib : Library) (requests : List (Request F)) : Prop :=
  ∀ req ∈ requests, ∀ dir, accept lib req = .ok dir → mayStart req = true →
    loads lib req = true → ∀ other ∈ requests, ∀ otherDir, accept lib other = .ok otherDir →
    Unaffected req dir other otherDir

/-- What holds in every state: once a request has written, the stored profile is that of
one of the requests; a worker has the spec of its request. -/
structure Sound (lib : Library) (root : DataDir) (requests : List (Request F)) (s : State F) :
    Prop where
  stored : ∀ (i : Nat), (s.phases[i]? = some .written ∨
      ∃ spec, s.phases[i]? = some (.forked spec)) →
    ∃ other ∈ requests, ∃ otherDir, accept lib other = .ok otherDir ∧
      s.profiles.clients.lookup wizardProfileID = some (wizardProfile other otherDir)
  forked : ∀ (i : Nat) (spec : Spec F), s.phases[i]? = some (.forked spec) →
    ∃ req dir, requests[i]? = some req ∧ accept lib req = .ok dir ∧ mayStart req = true ∧
      spec = specOf root.path req dir spec.jobID

omit [JsonNumber F] [CaseTables] in
theorem setPhase_get (get : (s.setPhase i phase).phases[j]? = some found) :
    (j = i ∧ found = phase) ∨ s.phases[j]? = some found :=
  (Threads.get_move get).imp_right And.right

namespace Sound

omit [CaseTables] in
theorem init (profiles : Profiles F) : Sound lib root requests (.init requests profiles) := by
  have fresh : ∀ (i : Nat) (phase : Phase F),
      (State.init requests profiles).phases[i]? = some phase → phase = .received := by
    intro i phase found
    simp only [State.init, getElem?_map, map_eq_some_iff] at found
    obtain ⟨_, _, rfl⟩ := found
    rfl
  constructor
  · rintro i (written | ⟨spec, forked⟩)
    · cases fresh i _ written
    · cases fresh i _ forked
  · intro i spec forked
    cases fresh i _ forked

omit [CaseTables] in
theorem setPhase (sound : Sound lib root requests s)
    (quiet : phase ≠ .written ∧ ∀ spec, phase ≠ .forked spec) :
    Sound lib root requests (s.setPhase i phase) := by
  constructor
  · rintro j (written | ⟨spec, forked⟩)
    · rcases setPhase_get written with ⟨_, same⟩ | before
      · exact absurd same.symm quiet.1
      · exact sound.stored j (.inl before)
    · rcases setPhase_get forked with ⟨_, same⟩ | before
      · exact absurd same.symm (quiet.2 spec)
      · exact sound.stored j (.inr ⟨spec, before⟩)
  · intro j spec forked
    rcases setPhase_get forked with ⟨_, same⟩ | before
    · exact absurd same.symm (quiet.2 spec)
    · exact sound.forked j spec before

theorem step {after} (stepped : Stepped lib root requests s after)
    (sound : Sound lib root requests s) : Sound lib root requests after := by
  cases stepped with
  | @write i req dir found accepted =>
    constructor
    · intro j _
      exact ⟨req, mem_of_getElem? found, dir, accepted, lookup_cons_self⟩
    · intro j spec forked
      rcases setPhase_get forked with ⟨_, same⟩ | before
      · cases same
      · exact sound.forked j spec before
  | @fork i uuid req dir written found accepted safe =>
    constructor
    · intro j _
      exact sound.stored i (.inl written)
    · intro j spec forked
      rcases setPhase_get forked with ⟨rfl, same⟩ | before
      · cases same
        exact ⟨req, dir, found, accepted, mayStart_of_safe safe, rfl⟩
      · exact sound.forked j spec before
  | refuse | build => exact sound.setPhase ⟨nofun, nofun⟩

end Sound

variable {i : Nat}

theorem State.Independent.setPhase (independent : s.Independent lib root requests)
    (phase : Phase F) (quiet : ∀ spec result, phase ≠ .built spec result) :
    (s.setPhase i phase).Independent lib root requests := by
  intro j req spec result found built
  rcases setPhase_get built with ⟨_, same⟩ | before
  · exact absurd same.symm (quiet spec result)
  · exact independent j req spec result found before

/-- A step of a list of unaffected requests. -/
theorem independent_step {after : State F} (all : AllUnaffected lib requests)
    (stepped : Stepped lib root requests s after) (sound : Sound lib root requests s)
    (independent : s.Independent lib root requests) : after.Independent lib root requests := by
  cases stepped with
  | write => exact independent.setPhase .written fun _ _ same => by cases same
  | fork => exact independent.setPhase (.forked _) fun _ _ same => by cases same
  | refuse => exact independent.setPhase .refused fun _ _ same => by cases same
  | @build i spec forked =>
    intro j req builtSpec result found built
    rcases setPhase_get built with ⟨rfl, same⟩ | before
    · cases same
      obtain ⟨own, dir, isOwn, accepted, starts, isSpec⟩ := sound.forked j spec forked
      obtain ⟨other, isOther, otherDir, otherAccepted, stored⟩ :=
        sound.stored j (.inr ⟨spec, forked⟩)
      rw [found] at isOwn
      cases isOwn
      refine ⟨dir, accepted, ?_⟩
      rw [isSpec]
      apply (build_eq_alone_iff lib root spec.jobID (accept_ok accepted)
        (accept_ok otherAccepted) stored).mpr
      intro loaded
      exact all req (mem_of_getElem? found) dir accepted starts loaded other isOther
        otherDir otherAccepted
    · exact independent j req builtSpec result found before

omit [JsonNumber F] [CaseTables] in
theorem setPhase_same (found : s.phases[i]? = some old) :
    (s.setPhase i phase).phases[i]? = some phase :=
  getElem?_set_self (List.getElem?_eq_some_iff.mp found).1

omit [JsonNumber F] [CaseTables] in
theorem setPhase_other (different : i ≠ j) :
    (s.setPhase i phase).phases[j]? = s.phases[j]? :=
  getElem?_set_ne different

omit [JsonNumber F] [CaseTables] in
theorem exists_safe_jobID (starts : mayStart req = true) :
    ∃ uuid, isSafeID (jobIDOf req uuid) = true := by
  refine ⟨ascii "job", ?_⟩
  simp only [mayStart, Bool.or_eq_true, decide_eq_true_eq] at starts
  simp only [jobIDOf]
  split
  · decide
  · rename_i named
    exact starts.resolve_left named

theorem step_write (stands : s.phases[i]? = some .received) (found : requests[i]? = some req)
    (accepted : accept lib req = .ok dir) :
    step lib root requests (.write i) s =
      some ((s.store (wizardProfile req dir)).setPhase i .written) := by
  simp [step, stands, found, accepted]

/-- Two requests: the second writes between the fork and the reading of the first. -/
theorem overtaken (root : DataDir) {i j : Nat} {req other : Request F} {dir otherDir : Director}
    (profiles : Profiles F) (different : i ≠ j) (found : requests[i]? = some req)
    (otherFound : requests[j]? = some other) (accepted : accept lib req = .ok dir)
    (otherAccepted : accept lib other = .ok otherDir) (starts : mayStart req = true) :
    ∃ events s jobID stored, Run (step lib root requests) (.init requests profiles) events s ∧
      stored.clients.lookup wizardProfileID = some (wizardProfile other otherDir) ∧
      s.phases[i]? = some (.built (specOf root.path req dir jobID)
        (buildConfigFromSpec lib stored (received (specOf root.path req dir jobID)))) := by
  obtain ⟨uuid, safe⟩ := exists_safe_jobID starts
  have fresh : ∀ (n : Nat) (req : Request F), requests[n]? = some req →
      (State.init requests profiles).phases[n]? = some .received := by
    intro n req found
    simp only [State.init, getElem?_map, found, map_some]
  -- The states behind the four steps.
  let spec := specOf root.path req dir (jobIDOf req uuid)
  let first := ((State.init requests profiles).store (wizardProfile req dir)).setPhase i .written
  let second := first.setPhase i (.forked spec)
  let third := (second.store (wizardProfile other otherDir)).setPhase j .written
  have written : first.phases[i]? = some .written := setPhase_same (fresh i req found)
  have forked : second.phases[i]? = some (.forked spec) := setPhase_same written
  have waiting : second.phases[j]? = some .received := by
    rw [setPhase_other different, setPhase_other different]
    exact fresh j other otherFound
  have still : third.phases[i]? = some (.forked spec) := by
    rw [setPhase_other different.symm]
    exact forked
  have forks : step lib root requests (.fork i uuid) first = some second := by
    simp only [step, written, found, accepted, safe, if_true]
    rfl
  have builds : step lib root requests (.build i) third =
      some (third.setPhase i
        (.built spec (buildConfigFromSpec lib third.profiles (received spec)))) := by
    simp [step, still]
  exact ⟨[.write i, .fork i uuid, .write j, .build i], _, jobIDOf req uuid, third.profiles,
    .cons (step_write (fresh i req found) found accepted)
      (.cons forks
        (.cons (step_write waiting otherFound otherAccepted) (.cons builds (.nil _)))),
    lookup_cons_self, setPhase_same still⟩

/-- In every schedule each worker builds the configuration of its own request, exactly if
no request is affected by the profile of another one. -/
theorem own_config_iff (lib : Library) (root : DataDir) (requests : List (Request F))
    (profiles : Profiles F) :
    (∀ events s, Run (step lib root requests) (.init requests profiles) events s →
      s.Independent lib root requests) ↔ AllUnaffected lib requests := by
  constructor
  · intro always req isReq dir accepted starts loaded other isOther otherDir otherAccepted
    obtain ⟨i, found⟩ := mem_iff_getElem?.mp isReq
    obtain ⟨j, otherFound⟩ := mem_iff_getElem?.mp isOther
    by_cases different : i = j
    · subst different
      rw [found] at otherFound
      cases otherFound
      rw [accepted] at otherAccepted
      cases otherAccepted
      exact ⟨fun _ => rfl, fun _ => rfl, fun _ => rfl⟩
    · obtain ⟨events, s, jobID, stored, run, isStored, built⟩ :=
        overtaken root profiles different found otherFound accepted otherAccepted starts
      obtain ⟨own, isOwn, same⟩ := always events s run i req _ _ found built
      rw [accepted] at isOwn
      cases isOwn
      exact (build_eq_alone_iff lib root jobID (accept_ok accepted) (accept_ok otherAccepted)
        isStored).mp same loaded
  · intro all events s run
    have holds : Sound lib root requests s ∧ s.Independent lib root requests := by
      apply run.invariant
      · refine ⟨Sound.init profiles, ?_⟩
        intro i req spec result _ built
        simp only [State.init, getElem?_map, map_eq_some_iff] at built
        obtain ⟨_, _, impossible⟩ := built
        cases impossible
      · rintro event before after stepped ⟨sound, independent⟩
        exact ⟨sound.step (step_stepped stepped),
          independent_step all (step_stepped stepped) sound independent⟩
    exact holds.2

end Runs

/-! ### A request that gets the time limit of another one -/

section Concrete

/-- Whole numbers in place of `float64`. -/
@[reducible] def wholeNumbers : JsonNumber Int where
  zero := 0
  one := 1
  lt x y := decide (x < y)
  eq x y := decide (x = y)
  parseFloat _ := none
  milliseconds x := x * millisecond
  ofInt n := n
  toInt n := if -2 ^ 63 ≤ n ∧ n < 2 ^ 63 then some n else none

attribute [local instance] wholeNumbers CaseTables.asciiOnly

/-- No stored scenario; every name is built in. -/
def builtIn : Library where
  getScenario _ := .notFound
  loadNamed _ := true
  preprocess xml := some xml

def dataDir : DataDir where
  path := ascii "/data"
  nonempty := by decide

/-- A request that runs until it is stopped. -/
def soak : Request Int where
  director := ascii "sbc:5070"
  totalCalls := 0
  rate := 10
  maxConcurrent := 50
  healthMinSuccessRatio := 0

/-- A request for five seconds. -/
def short : Request Int where
  director := ascii "other"
  totalCalls := 7
  rate := 2
  maxConcurrent := 3
  runTimeoutMs := 5000
  healthMinSuccessRatio := 0

/-- The worker of the soak test reads the profile after the short request has stored its
own: it keeps its address and its rate and stops after five seconds. -/
theorem soak_gets_short_limit :
    ∃ events s spec cfg own,
      Run (step builtIn dataDir [soak, short])
        (.init [soak, short] { servers := [], clients := [] }) events s ∧
      s.phases[0]? = some (.built spec (.ok cfg)) ∧
      alone builtIn dataDir soak { host := ascii "sbc", port := 5070 } spec.jobID = .ok own ∧
      own.globalTimeout = 0 ∧ cfg.globalTimeout = 5000000000 ∧
      cfg = { own with globalTimeout := 5000000000 } ∧
      ¬ s.Independent builtIn dataDir [soak, short] := by
  refine ⟨[.write 0, .fork 0 (ascii "job"), .write 1, .build 0], _, _, _, _, .of_exec rfl, rfl,
    rfl, rfl, rfl, rfl, ?_⟩
  intro independent
  obtain ⟨dir, accepted, same⟩ := independent 0 soak _ _ rfl rfl
  have isDir : accept builtIn soak = .ok { host := ascii "sbc", port := 5070 } := rfl
  rw [isDir] at accepted
  cases accepted
  have limits : (5000000000 : Int) = 0 :=
    congrArg (fun result => (result.toOption.map Config.globalTimeout).getD 0) same
  cases limits

end Concrete

end Gossipper.Loadtest
