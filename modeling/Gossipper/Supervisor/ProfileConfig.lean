/-
Module: Gossipper.Supervisor.ProfileConfig
Purpose: How a worker builds its configuration from its spec and the stored profiles,
  after `internal/supervisor/profile_cfg.go` with `internal/cli/config.go` for the
  defaults and `internal/uistore/store.go` for identifiers.
Trusted boundary: `float64` and its JSON text are a parameter; texts are valid UTF-8, so
  JSON returns them as they are.  The scenario library, the built-in scenarios and the
  expansion of media references are given by `Library`; directories can be created.
  Of the configuration only what these functions read or write is there.
Main exports: JsonNumber, Value, Config, ClientProfile, ServerProfile, buildConfigFromSpec_client
-/
import Gossipper.Go.Bytes
import Gossipper.Scenario.Distribution

namespace Gossipper.Supervisor

open Go Scenario

/-! ### Values that travel as JSON -/

/-- `float64` and JSON: an integer is decoded into `any` as the nearest `float64`, and the
text of a `float64` is decoded into an `int` if it is that of an integer in the range of
`int`.  So an `int` near the end of its range is rounded up, and does not come back. -/
class JsonNumber (F : Type) extends Float64 F where
  ofInt : Int → F
  toInt : F → Option Int

/-- A value of `map[string]any`. -/
inductive Value (F : Type) where
  | string (text : Bytes)
  | int (n : Int)
  | float (x : F)
deriving DecidableEq, Repr

/-- `Spec.Engine`. -/
abbrev Engine (F : Type) := List (Bytes × Value F)

section Values

variable {F : Type} [JsonNumber F]

namespace Value

/-- The value as `json.Unmarshal` into `any` gives it back. -/
def decoded : Value F → Value F
  | .int n => .float (JsonNumber.ofInt n)
  | value => value

/-- `json.Unmarshal` into a `string`, with `none` for an error. -/
def asString : Value F → Option Bytes
  | .string text => some text
  | _ => none

/-- `json.Unmarshal` into an `int`, with `none` for an error. -/
def asInt : Value F → Option Int
  | .int n => some n
  | .float x => JsonNumber.toInt x
  | .string _ => none

/-- `json.Unmarshal` into a `float64`, with `none` for an error. -/
def asFloat : Value F → Option F
  | .int n => some (JsonNumber.ofInt n)
  | .float x => some x
  | .string _ => none

end Value

/-- The closure `str` of `overlayEngineJSON`. -/
def str (engine : Engine F) (key old : Bytes) : Bytes :=
  match (engine.lookup key).bind Value.asString with
  | some text => if text ≠ [] then text else old
  | none => old

/-- The closure `intg`. -/
def intg (engine : Engine F) (key : Bytes) (old : Int) : Int :=
  ((engine.lookup key).bind Value.asInt).getD old

/-- The closure `flt`. -/
def flt (engine : Engine F) (key : Bytes) (old : F) : F :=
  ((engine.lookup key).bind Value.asFloat).getD old

/-- An integer that is set only if it passes a check. -/
def intgIf (engine : Engine F) (key : Bytes) (check : Int → Bool) : Option Int :=
  ((engine.lookup key).bind Value.asInt).filter check

end Values

/-! ### Profiles and the configuration -/

/-- `TransportSpec`. -/
structure TransportSpec where
  transport : Bytes
  localIP : Bytes := []
  localPort : Int := 0
  enabled : Bool
  tlsCertFile : Bytes := []
  tlsKeyFile : Bytes := []
  wsPath : Bytes := []
  iceServers : List Bytes := []
  iceUsername : Bytes := []
  iceCredential : Bytes := []
  iceAuthSecret : Bytes := []
  iceAuthTTLSec : Int := 0
  prefersPCMA : Bool := false
deriving DecidableEq, Repr

/-- `ServerProfile`. -/
structure ServerProfile where
  scenarioRef : Bytes
  maxConcurrent : Int
  transports : List TransportSpec
deriving DecidableEq, Repr

/-- `ClientProfile`. -/
structure ClientProfile (F : Type) where
  scenarioRef : Bytes
  remoteIP : Bytes
  remotePort : Int
  rate : F
  maxConcurrent : Int
  durationMs : Int
  transports : List TransportSpec
deriving DecidableEq, Repr

/-- The fields of `Config` for the media over WebRTC. -/
structure WebRTC where
  media : Bool := false
  iceServers : List Bytes := []
  iceUsername : Bytes := []
  iceCredential : Bytes := []
  iceAuthSecret : Bytes := []
  iceAuthTTLSec : Int := 0
  prefersPCMA : Bool := false
deriving DecidableEq, Repr

/-- `Config`.  `scenarioXML` is the content of the file that `ScenarioFile` names, and
`globalTimeout` is in nanoseconds. -/
structure Config (F : Type) where
  scenarioName : Bytes
  scenarioXML : Bytes
  serverMode : Bool
  transport : Bytes
  localIP : Bytes
  localPort : Int
  tlsCertFile : Bytes
  tlsKeyFile : Bytes
  wsPath : Bytes
  serverListeners : List (Bytes × Bytes × Int)
  webRTC : WebRTC
  remoteHost : Bytes
  remotePort : Int
  rate : F
  maxConcurrent : Int
  totalCalls : Int
  totalCallsSetExplicitly : Bool
  globalTimeout : Int
  sipFrom : Bytes
  sipPAI : Bytes
  sipProvider : Bytes
  healthMinSuccessRatio : F
  healthMaxFailedCalls : Int
  healthMaxTimeouts : Int
  summaryJSON : Bytes
  summaryHTML : Bytes
  callRecordsJSONL : Bytes
  recordWAVDir : Bytes
  recordWAVDuplex : Bool
deriving DecidableEq, Repr

/-- `Spec`. -/
structure Spec (F : Type) where
  jobID : Bytes
  dataDir : Bytes
  profileID : Bytes
  profileKind : Bytes
  scenarioID : Bytes
  artifactsDir : Bytes
  recordWAV : Bool
  recordWAVDuplex : Bool
  engine : Engine F
deriving DecidableEq, Repr

/-- What `GetScenario` finds. -/
inductive ScenarioLookup where
  | found (xml : Bytes)
  | notFound
  | failed
deriving DecidableEq, Repr

/-- The stored scenarios, the names that `LoadNamed` knows, and `PreprocessScenarioXML`
with `none` for errors. -/
structure Library where
  getScenario : Bytes → ScenarioLookup
  loadNamed : Bytes → Bool
  preprocess : Bytes → Option Bytes

/-- The stored profiles; the newest of a name is the stored one. -/
structure Profiles (F : Type) where
  servers : List (Bytes × ServerProfile)
  clients : List (Bytes × ClientProfile F)
deriving DecidableEq, Repr

/-- The errors of `BuildConfigFromSpec`. -/
inductive BuildError where
  | dataDirRequired
  | serverProfile (id : Bytes)
  | clientProfile (id : Bytes)
  | unsupportedKind (kind : Bytes)
  | scenario (id : Bytes)
  | mediaRefs (id : Bytes)
deriving DecidableEq, Repr

/-- `isSafeID`. -/
def isSafeID (id : Bytes) : Bool :=
  let id := trimSpace id
  !(id.isEmpty || 64 < id.length) &&
    ((segments id).all fun part =>
      let r := part.rune
      (0x61 ≤ r && r ≤ 0x7A) || (0x41 ≤ r && r ≤ 0x5A) || (0x30 ≤ r && r ≤ 0x39) ||
        r == 0x5F || r == 0x2D || r == 0x2E) &&
    id != ascii "." && id != ascii ".."

section Build

variable {F : Type} [JsonNumber F]

/-- `DefaultConfig`. -/
def defaultConfig : Config F where
  scenarioName := ascii "uac"
  scenarioXML := []
  serverMode := false
  transport := ascii "u1"
  localIP := ascii "0.0.0.0"
  localPort := 0
  tlsCertFile := []
  tlsKeyFile := []
  wsPath := []
  serverListeners := []
  webRTC := {}
  remoteHost := []
  remotePort := 0
  rate := Float64.one
  maxConcurrent := 1
  totalCalls := 1
  totalCallsSetExplicitly := false
  globalTimeout := 0
  sipFrom := []
  sipPAI := []
  sipProvider := []
  healthMinSuccessRatio := Float64.zero
  healthMaxFailedCalls := -1
  healthMaxTimeouts := -1
  summaryJSON := []
  summaryHTML := []
  callRecordsJSONL := []
  recordWAVDir := []
  recordWAVDuplex := false

/-- `enabledTransports`. -/
def enabledTransports (transports : List TransportSpec) : List TransportSpec :=
  transports.filter (·.enabled)

/-- `splitWebRTC`. -/
def splitWebRTC (transports : List TransportSpec) : List TransportSpec × List TransportSpec :=
  transports.partition (·.transport ≠ ascii "webrtc")

/-- `applyWebRTCToConfig`: later rows only fill what is empty. -/
def applyWebRTCToConfig (cfg : Config F) (t : TransportSpec) : Config F :=
  let w := cfg.webRTC
  { cfg with webRTC := {
      media := w.media || t.transport == ascii "webrtc"
      iceServers := if t.iceServers ≠ [] ∧ w.iceServers = [] then t.iceServers else w.iceServers
      iceUsername :=
        if t.iceUsername ≠ [] ∧ w.iceUsername = [] then t.iceUsername else w.iceUsername
      iceCredential :=
        if t.iceCredential ≠ [] ∧ w.iceCredential = [] then t.iceCredential else w.iceCredential
      iceAuthSecret :=
        if t.iceAuthSecret ≠ [] ∧ w.iceAuthSecret = [] then t.iceAuthSecret else w.iceAuthSecret
      iceAuthTTLSec :=
        if 0 < t.iceAuthTTLSec ∧ w.iceAuthTTLSec = 0 then t.iceAuthTTLSec else w.iceAuthTTLSec
      prefersPCMA := w.prefersPCMA || t.prefersPCMA } }

/-- The value of a row, if it has one. -/
def orElse (value old : Bytes) : Bytes :=
  if value ≠ [] then value else old

/-- The first SIP transport of a profile. -/
def applyFirst (cfg : Config F) (first : TransportSpec) : Config F :=
  applyWebRTCToConfig
    { cfg with
      transport := orElse first.transport cfg.transport
      localIP := orElse first.localIP cfg.localIP
      localPort := if first.localPort ≠ 0 then first.localPort else cfg.localPort
      tlsCertFile := orElse first.tlsCertFile cfg.tlsCertFile
      tlsKeyFile := orElse first.tlsKeyFile cfg.tlsKeyFile
      wsPath := orElse first.wsPath cfg.wsPath } first

/-- The transports of a profile: the WebRTC rows, then the first SIP row. -/
def applyTransports (cfg : Config F) (transports : List TransportSpec) : Config F :=
  let (sip, webrtcOnly) := splitWebRTC (enabledTransports transports)
  let cfg := webrtcOnly.foldl applyWebRTCToConfig cfg
  match sip with
  | [] => cfg
  | first :: _ => applyFirst cfg first

/-- `applyServerProfileToConfig`; two SIP rows or more are listeners. -/
def applyServerProfileToConfig (cfg : Config F) (p : ServerProfile) : Config F :=
  let cfg := { cfg with
    serverMode := true
    maxConcurrent := if 0 < p.maxConcurrent then p.maxConcurrent else cfg.maxConcurrent }
  let cfg := applyTransports cfg p.transports
  let sip := (splitWebRTC (enabledTransports p.transports)).1
  if 1 < sip.length then
    { cfg with serverListeners := sip.map fun t => (t.transport, t.localIP, t.localPort) }
  else cfg

/-- `applyClientProfileToConfig`. -/
def applyClientProfileToConfig (cfg : Config F) (p : ClientProfile F) : Config F :=
  applyTransports
    { cfg with
      serverMode := false
      remoteHost := orElse p.remoteIP cfg.remoteHost
      remotePort := if 0 < p.remotePort then p.remotePort else cfg.remotePort
      rate := if Float64.lt Float64.zero p.rate then p.rate else cfg.rate
      maxConcurrent := if 0 < p.maxConcurrent then p.maxConcurrent else cfg.maxConcurrent
      globalTimeout :=
        if 0 < p.durationMs then mulInt p.durationMs millisecond else cfg.globalTimeout }
    p.transports

/-- The scenario of a spec: a stored one is written to a file, a built-in one is named. -/
def resolveScenario (lib : Library) (scenarioID : Bytes) (cfg : Config F) :
    Except BuildError (Config F) :=
  if scenarioID = [] then .ok cfg
  else
    match lib.getScenario scenarioID with
    | .failed => .error (.scenario scenarioID)
    | .notFound =>
      if lib.loadNamed scenarioID then .ok { cfg with scenarioName := scenarioID }
      else .error (.scenario scenarioID)
    | .found xml =>
      if trimSpace xml = [] then .ok cfg
      else
        match lib.preprocess xml with
        | none => .error (.mediaRefs scenarioID)
        | some processed => .ok { cfg with scenarioXML := processed }

/-- A file of the job, unless the configuration has one. -/
def artifact (spec : Spec F) (old name : Bytes) : Bytes :=
  if trimSpace old = [] ∧ trimSpace spec.artifactsDir ≠ [] then joinPath spec.artifactsDir name
  else old

/-- The files of the job. -/
def addArtifacts (spec : Spec F) (cfg : Config F) : Config F :=
  let records := spec.recordWAV && trimSpace spec.artifactsDir ≠ []
  { cfg with
    summaryJSON := artifact spec cfg.summaryJSON (ascii "summary.json")
    summaryHTML := artifact spec cfg.summaryHTML (ascii "report.html")
    callRecordsJSONL := artifact spec cfg.callRecordsJSONL (ascii "call_records.jsonl")
    recordWAVDir :=
      if records then joinPath spec.artifactsDir (ascii "recordings") else cfg.recordWAVDir
    recordWAVDuplex := if records then spec.recordWAVDuplex else cfg.recordWAVDuplex }

/-- `overlayEngineJSON`. -/
def overlayEngineJSON (engine : Engine F) (cfg : Config F) : Config F :=
  { cfg with
    transport := str engine (ascii "transport") cfg.transport
    localIP := str engine (ascii "local_ip") cfg.localIP
    localPort := intg engine (ascii "local_port") cfg.localPort
    remoteHost := str engine (ascii "remote_host") cfg.remoteHost
    remotePort := intg engine (ascii "remote_port") cfg.remotePort
    rate := flt engine (ascii "rate") cfg.rate
    maxConcurrent := intg engine (ascii "max_concurrent") cfg.maxConcurrent
    totalCalls := intg engine (ascii "total_calls") cfg.totalCalls
    totalCallsSetExplicitly :=
      cfg.totalCallsSetExplicitly ||
        ((engine.lookup (ascii "total_calls")).bind Value.asInt).isSome
    globalTimeout :=
      ((intgIf engine (ascii "global_timeout_ms") (0 < ·)).map (mulInt · millisecond)).getD
        cfg.globalTimeout
    sipFrom := str engine (ascii "sip_from") cfg.sipFrom
    sipPAI := str engine (ascii "sip_pai") cfg.sipPAI
    sipProvider := str engine (ascii "sip_provider") cfg.sipProvider
    healthMinSuccessRatio :=
      flt engine (ascii "health_min_success_ratio") cfg.healthMinSuccessRatio
    healthMaxFailedCalls :=
      (intgIf engine (ascii "health_max_failed_calls") (0 ≤ ·)).getD cfg.healthMaxFailedCalls
    healthMaxTimeouts :=
      (intgIf engine (ascii "health_max_timeouts") (0 ≤ ·)).getD cfg.healthMaxTimeouts }

variable [CaseTables]

/-- The profile that a spec refers to: its scenario and the configuration with it. -/
def applyProfile (profiles : Profiles F) (spec : Spec F) :
    Except BuildError (Bytes × Config F) :=
  let kind := toLower (trimSpace spec.profileKind)
  if kind = ascii "server" then
    match profiles.servers.lookup spec.profileID with
    | none => .error (.serverProfile spec.profileID)
    | some p => .ok (p.scenarioRef, applyServerProfileToConfig defaultConfig p)
  else if kind = ascii "client" then
    match profiles.clients.lookup spec.profileID with
    | none => .error (.clientProfile spec.profileID)
    | some p => .ok (p.scenarioRef, applyClientProfileToConfig defaultConfig p)
  else .error (.unsupportedKind spec.profileKind)

/-- `BuildConfigFromSpec`. -/
def buildConfigFromSpec (lib : Library) (profiles : Profiles F) (spec : Spec F) :
    Except BuildError (Config F) :=
  if spec.dataDir = [] then .error .dataDirRequired
  else
    (applyProfile profiles spec).bind fun (scenarioRef, cfg) =>
      let scenarioID := trimSpace spec.scenarioID
      (resolveScenario lib (if scenarioID = [] then scenarioRef else scenarioID) cfg).map
        fun cfg => overlayEngineJSON spec.engine (addArtifacts spec cfg)

end Build

/-! ### The fields that a client profile decides -/

/-- The part of the configuration that a client profile sets beside its transports. -/
structure Target (F : Type) where
  remoteHost : Bytes
  remotePort : Int
  rate : F
  maxConcurrent : Int
  globalTimeout : Int
deriving DecidableEq, Repr

section Targets

variable {F : Type}

def Config.withTarget (target : Target F) (cfg : Config F) : Config F :=
  { cfg with
    remoteHost := target.remoteHost
    remotePort := target.remotePort
    rate := target.rate
    maxConcurrent := target.maxConcurrent
    globalTimeout := target.globalTimeout }

theorem Config.withTarget_injective {first second : Target F} {cfg : Config F}
    (same : cfg.withTarget first = cfg.withTarget second) : first = second := by
  cases first
  cases second
  injection same
  simp_all

theorem foldl_applyWebRTC_withTarget (rows : List TransportSpec) (target : Target F)
    (cfg : Config F) :
    rows.foldl applyWebRTCToConfig (cfg.withTarget target) =
      (rows.foldl applyWebRTCToConfig cfg).withTarget target := by
  induction rows generalizing cfg with
  | nil => rfl
  | cons row rest ih => exact ih (applyWebRTCToConfig cfg row)

theorem applyTransports_withTarget (transports : List TransportSpec) (target : Target F)
    (cfg : Config F) :
    applyTransports (cfg.withTarget target) transports =
      (applyTransports cfg transports).withTarget target := by
  simp only [applyTransports, foldl_applyWebRTC_withTarget]
  split <;> rfl

theorem resolveScenario_withTarget (lib : Library) (scenarioID : Bytes) (target : Target F)
    (cfg : Config F) :
    resolveScenario lib scenarioID (cfg.withTarget target) =
      (resolveScenario lib scenarioID cfg).map (Config.withTarget target) := by
  unfold resolveScenario
  split
  · rfl
  · split
    · rfl
    · split <;> rfl
    · split
      · rfl
      · split <;> rfl

/-- Whether a scenario is found does not depend on the configuration. -/
theorem resolveScenario_isOk (lib : Library) (scenarioID : Bytes) (cfg other : Config F) :
    (resolveScenario lib scenarioID cfg).isOk = (resolveScenario lib scenarioID other).isOk := by
  unfold resolveScenario
  split
  · rfl
  · split
    · rfl
    · split <;> rfl
    · split
      · rfl
      · split <;> rfl

variable [JsonNumber F]

/-- What an overlay makes of the target. -/
def Target.overlay (engine : Engine F) (target : Target F) : Target F where
  remoteHost := str engine (ascii "remote_host") target.remoteHost
  remotePort := intg engine (ascii "remote_port") target.remotePort
  rate := flt engine (ascii "rate") target.rate
  maxConcurrent := intg engine (ascii "max_concurrent") target.maxConcurrent
  globalTimeout :=
    ((intgIf engine (ascii "global_timeout_ms") (0 < ·)).map (mulInt · millisecond)).getD
      target.globalTimeout

/-- The target that a client profile gives a worker. -/
def ClientProfile.target (p : ClientProfile F) : Target F where
  remoteHost := orElse p.remoteIP []
  remotePort := if 0 < p.remotePort then p.remotePort else 0
  rate := if Float64.lt Float64.zero p.rate then p.rate else Float64.one
  maxConcurrent := if 0 < p.maxConcurrent then p.maxConcurrent else 1
  globalTimeout := if 0 < p.durationMs then mulInt p.durationMs millisecond else 0

/-- The configuration without what the target decides. -/
def untargeted (lib : Library) (transports : List TransportSpec) (spec : Spec F) :
    Except BuildError (Config F) :=
  (resolveScenario lib (trimSpace spec.scenarioID) (applyTransports defaultConfig transports)).map
    fun cfg => overlayEngineJSON spec.engine (addArtifacts spec cfg)

/-- A client profile decides its transports and the target; the overlay comes after it. -/
theorem buildConfigFromSpec_client [CaseTables] (lib : Library)
    (spec : Spec F) (dataDir : spec.dataDir ≠ [])
    (kind : toLower (trimSpace spec.profileKind) = ascii "client")
    (found : profiles.clients.lookup spec.profileID = some p)
    (named : trimSpace spec.scenarioID ≠ []) :
    buildConfigFromSpec lib profiles spec =
      (untargeted lib p.transports spec).map (Config.withTarget (p.target.overlay spec.engine)) := by
  have applied : applyProfile profiles spec =
      .ok (p.scenarioRef, (applyTransports defaultConfig p.transports).withTarget p.target) := by
    have different : ascii "client" ≠ ascii "server" := by decide
    simp only [applyProfile, kind, if_neg different, if_true, found,
      ← applyTransports_withTarget]
    rfl
  simp only [buildConfigFromSpec, if_neg dataDir, applied, Except.bind, if_neg named,
    resolveScenario_withTarget, untargeted]
  cases resolveScenario lib (trimSpace spec.scenarioID)
      (applyTransports (defaultConfig : Config F) p.transports) with
  | error err => rfl
  | ok cfg => rfl

end Targets

end Gossipper.Supervisor
