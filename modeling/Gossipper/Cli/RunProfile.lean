/-
Module: Gossipper.Cli.RunProfile
Purpose: The entries of a run profile: how an object of the JSON file becomes a `runSpec`, what
  it changes in the configuration, and how the mode of a flat file is inferred, after
  `internal/cli/run_profile.go` and the parts of `internal/cli/config.go` that it uses.
Trusted boundary: `float64` and `time.ParseDuration` are parameters.  Of the configuration only
  what these functions read or write is there, and error texts are reduced to their kind and
  the value they show.
Main exports: RunSpec, runSpecOf, Config, defaultConfig, applyRunSpec, applyServerModeIfEnabled
-/
import Gossipper.Go.Json
import Gossipper.Go.Bytes
import Gossipper.Scenario.Distribution

namespace Gossipper.Cli

open Go Scenario

/-! ### Entries of a profile -/

/-- `listenerRunSpec`. -/
structure ListenerRunSpec where
  transport : Option Bytes
  localIP : Option Bytes
  localPort : Option Int

/-- `authRunSpec`. -/
structure AuthRunSpec where
  type : Option Bytes
  sqlitePath : Option Bytes
  jwtSecret : Option Bytes

/-- `runSpec`. -/
structure RunSpec (F : Type) where
  scenarioFile : Option Bytes
  scenarioName : Option Bytes
  service : Option Bytes
  transport : Option Bytes
  localIP : Option Bytes
  localPort : Option Int
  remoteAddr : Option Bytes
  authUsername : Option Bytes
  authPassword : Option Bytes
  rate : Option F
  maxConcurrent : Option Int
  totalCalls : Option Int
  users : Option Int
  hepAddr : Option Bytes
  hepCaptureID : Option UInt32
  hepPassword : Option Bytes
  hepRawRTCP : Option Bool
  hepHomerLakeRTCP : Option Bool
  sendMediaReport : Option Bool
  summaryJSON : Option Bytes
  summaryHTML : Option Bytes
  recordWAVDir : Option Bytes
  recordWAVDuplex : Option Bool
  callRecordsJSONL : Option Bytes
  sipFrom : Option Bytes
  sipPAI : Option Bytes
  sipProvider : Option Bytes
  sipExtraHeaders : List Bytes
  traceMessages : Option Bool
  statPrintPeriod : Option Bytes
  injectionFile : Option Bytes
  ipField : Option Int
  healthMaxRTCPFractionLost : Option F
  healthMaxRTCPJitterTS : Option Int
  healthMinRTPPacketsRecv : Option Int
  healthMinRTPPacketsRecvPerCall : Option Int
  logOTELEndpoint : Option Bytes
  logOTELProto : Option Bytes
  logOTELInsecure : Option Bool
  apiAddr : Option Bytes
  apiToken : Option Bytes
  uiDataDir : Option Bytes
  scenarioHistoryKeep : Option Int
  legacyAPIV1 : Option Bool
  auth : Option AuthRunSpec
  server : Option Bool
  extraArgs : List Bytes
  pcapLink : Option Bytes
  listeners : List ListenerRunSpec

section Decode

variable {F : Type} [Float64 F] [CaseTables]

/-- `json.Unmarshal` into a `float64`. -/
def asFloat : Json → Option F
  | .null => some Float64.zero
  | .number literal => Float64.parseFloat literal
  | _ => none

def listenerRunSpecOf (members : List (Bytes × Json)) : Option ListenerRunSpec := do
  return {
    transport := ← Json.pointer members "transport" Json.asString
    localIP := ← Json.pointer members "local_ip" Json.asString
    localPort := ← Json.pointer members "local_port" Json.asInt }

def authRunSpecOf (members : List (Bytes × Json)) : Option AuthRunSpec := do
  return {
    type := ← Json.pointer members "type" Json.asString
    sqlitePath := ← Json.pointer members "sqlite_path" Json.asString
    jwtSecret := ← Json.pointer members "jwt_secret" Json.asString }

/-- `json.Unmarshal` into a `[]listenerRunSpec`. -/
def asListeners : Json → Option (List ListenerRunSpec)
  | .null => some []
  | .array items => items.mapM (Json.asStruct listenerRunSpecOf)
  | _ => none

/-- `json.Unmarshal` of the members of an object into a `runSpec`. -/
def runSpecOf (members : List (Bytes × Json)) : Option (RunSpec F) := do
  return {
    scenarioFile := ← Json.pointer members "scenario_file" Json.asString
    scenarioName := ← Json.pointer members "scenario_name" Json.asString
    service := ← Json.pointer members "service" Json.asString
    transport := ← Json.pointer members "transport" Json.asString
    localIP := ← Json.pointer members "local_ip" Json.asString
    localPort := ← Json.pointer members "local_port" Json.asInt
    remoteAddr := ← Json.pointer members "remote_addr" Json.asString
    authUsername := ← Json.pointer members "auth_username" Json.asString
    authPassword := ← Json.pointer members "auth_password" Json.asString
    rate := ← Json.pointer members "rate" asFloat
    maxConcurrent := ← Json.pointer members "max_concurrent" Json.asInt
    totalCalls := ← Json.pointer members "total_calls" Json.asInt
    users := ← Json.pointer members "users" Json.asInt
    hepAddr := ← Json.pointer members "hep_addr" Json.asString
    hepCaptureID := ← Json.pointer members "hep_capture_id" Json.asUint32
    hepPassword := ← Json.pointer members "hep_password" Json.asString
    hepRawRTCP := ← Json.pointer members "hep_raw_rtcp" Json.asBool
    hepHomerLakeRTCP := ← Json.pointer members "hep_homer_lake_rtcp" Json.asBool
    sendMediaReport := ← Json.pointer members "send_media_report" Json.asBool
    summaryJSON := ← Json.pointer members "summary_json" Json.asString
    summaryHTML := ← Json.pointer members "summary_html" Json.asString
    recordWAVDir := ← Json.pointer members "record_wav_dir" Json.asString
    recordWAVDuplex := ← Json.pointer members "record_wav_duplex" Json.asBool
    callRecordsJSONL := ← Json.pointer members "call_records_jsonl" Json.asString
    sipFrom := ← Json.pointer members "sip_from" Json.asString
    sipPAI := ← Json.pointer members "sip_pai" Json.asString
    sipProvider := ← Json.pointer members "sip_provider" Json.asString
    sipExtraHeaders := ← Json.field members "sip_extra_headers" [] Json.asStrings
    traceMessages := ← Json.pointer members "trace_msg" Json.asBool
    statPrintPeriod := ← Json.pointer members "stat_period" Json.asString
    injectionFile := ← Json.pointer members "injection_file" Json.asString
    ipField := ← Json.pointer members "ip_field" Json.asInt
    healthMaxRTCPFractionLost := ← Json.pointer members "health_max_rtcp_fraction_lost" asFloat
    healthMaxRTCPJitterTS := ← Json.pointer members "health_max_rtcp_jitter_ts" Json.asInt
    healthMinRTPPacketsRecv := ← Json.pointer members "health_min_rtp_packets_recv" Json.asInt
    healthMinRTPPacketsRecvPerCall :=
      ← Json.pointer members "health_min_rtp_packets_recv_per_call" Json.asInt
    logOTELEndpoint := ← Json.pointer members "log_otel_endpoint" Json.asString
    logOTELProto := ← Json.pointer members "log_otel_proto" Json.asString
    logOTELInsecure := ← Json.pointer members "log_otel_insecure" Json.asBool
    apiAddr := ← Json.pointer members "api_addr" Json.asString
    apiToken := ← Json.pointer members "api_token" Json.asString
    uiDataDir := ← Json.pointer members "ui_data_dir" Json.asString
    scenarioHistoryKeep := ← Json.pointer members "scenario_history_keep" Json.asInt
    legacyAPIV1 := ← Json.pointer members "legacy_api_v1" Json.asBool
    auth := ← Json.pointer members "auth" (Json.asStruct authRunSpecOf)
    server := ← Json.pointer members "server" Json.asBool
    extraArgs := ← Json.field members "extra_args" [] Json.asStrings
    pcapLink := ← Json.pointer members "pcap_link" Json.asString
    listeners := ← Json.field members "listeners" [] asListeners }

end Decode

/-! ### The configuration -/

/-- `ServerListener`. -/
structure ServerListener where
  transport : Bytes
  localIP : Bytes
  localPort : Int
deriving DecidableEq, Repr

/-- `AuthConfig`. -/
structure AuthConfig where
  type : Bytes := []
  sqlitePath : Bytes := []
  jwtSecret : Bytes := []
deriving DecidableEq, Repr

/-- `Config`.  The printing period is in nanoseconds. -/
structure Config (F : Type) where
  scenarioFile : Bytes
  scenarioName : Bytes
  service : Bytes
  transport : Bytes
  localIP : Bytes
  localPort : Int
  serverListeners : List ServerListener
  remoteHost : Bytes
  remotePort : Int
  authUsername : Bytes
  authPassword : Bytes
  rate : F
  totalCalls : Int
  totalCallsSetExplicitly : Bool
  maxConcurrent : Int
  users : Int
  hepAddr : Bytes
  hepCaptureID : UInt32
  hepPassword : Bytes
  hepRawRTCP : Bool
  hepHomerLakeRTCP : Bool
  sendMediaReport : Bool
  summaryJSON : Bytes
  summaryHTML : Bytes
  recordWAVDir : Bytes
  recordWAVDuplex : Bool
  callRecordsJSONL : Bytes
  sipFrom : Bytes
  sipPAI : Bytes
  sipProvider : Bytes
  sipExtraHeaders : List Bytes
  traceMessages : Bool
  statPrintPeriod : Int
  injectionFile : Bytes
  ipField : Int
  healthMaxRTCPFractionLost : F
  healthMaxRTCPJitterTS : Int
  healthMinRTPPacketsRecv : Int
  healthMinRTPPacketsRecvPerCall : Int
  logOTELEndpoint : Bytes
  logOTELProto : Bytes
  logOTELInsecure : Bool
  apiAddr : Bytes
  apiToken : Bytes
  uiDataDir : Bytes
  scenarioHistoryKeep : Int
  legacyAPIV1 : Bool
  legacyAPIV1Set : Bool
  auth : AuthConfig
  serverMode : Bool
  serverProfileID : Bytes
  pcapLinkLayer : Bytes
  rtpSend : Bool

section Config

variable {F : Type} [Float64 F]

/-- `DefaultConfig`. -/
def defaultConfig : Config F where
  scenarioFile := []
  scenarioName := ascii "uac"
  service := ascii "service"
  transport := ascii "u1"
  localIP := ascii "0.0.0.0"
  localPort := 0
  serverListeners := []
  remoteHost := []
  remotePort := 0
  authUsername := []
  authPassword := ascii "password"
  rate := Float64.one
  totalCalls := 1
  totalCallsSetExplicitly := false
  maxConcurrent := 1
  users := 1
  hepAddr := []
  hepCaptureID := 0
  hepPassword := []
  hepRawRTCP := false
  hepHomerLakeRTCP := false
  sendMediaReport := false
  summaryJSON := []
  summaryHTML := []
  recordWAVDir := []
  recordWAVDuplex := false
  callRecordsJSONL := []
  sipFrom := []
  sipPAI := []
  sipProvider := []
  sipExtraHeaders := []
  traceMessages := false
  statPrintPeriod := 0
  injectionFile := []
  ipField := -1
  healthMaxRTCPFractionLost := Float64.zero
  healthMaxRTCPJitterTS := 0
  healthMinRTPPacketsRecv := 0
  healthMinRTPPacketsRecvPerCall := 0
  logOTELEndpoint := []
  logOTELProto := ascii "grpc"
  logOTELInsecure := false
  apiAddr := []
  apiToken := []
  uiDataDir := []
  scenarioHistoryKeep := 0
  legacyAPIV1 := false
  legacyAPIV1Set := false
  auth := {}
  serverMode := false
  serverProfileID := []
  pcapLinkLayer := []
  rtpSend := false

/-- The errors of `applyRunSpec` and `applyServerModeIfEnabled`. -/
inductive SpecError where
  | remoteAddr
  | statPeriod
  | authType (type : Bytes)
  | authPath
  | rtpSend
deriving DecidableEq, Repr

/-- `net.SplitHostPort`. -/
def netSplitHostPort (hostport : Bytes) : Option (Bytes × Bytes) :=
  -- the port starts after the last colon
  match lastIndex hostport (ascii ":") with
  | none => none
  | some i =>
    if hasPrefix hostport (ascii "[") then
      match indexByte hostport 0x5D with
      | none => none
      | some closing =>
        -- the first bracket that closes stands right before the colon
        if closing + 1 = i ∧ 0x5B ∉ hostport.drop 1 ∧ 0x5D ∉ hostport.drop (closing + 1) then
          some ((hostport.take closing).drop 1, hostport.drop (i + 1))
        else none
    else if 0x3A ∈ hostport.take i ∨ 0x5B ∈ hostport ∨ 0x5D ∈ hostport then none
    else some (hostport.take i, hostport.drop (i + 1))

/-- `splitHostPort`. -/
def splitHostPort (input : Bytes) : Option (Bytes × Int) :=
  let parts :=
    if input.count 0x3A = 1 ∧ hasPrefix input (ascii "[") = false then cut input 0x3A
    else netSplitHostPort input
  match parts with
  | none => none
  | some (host, portStr) =>
    match atoi portStr with
    | (port, none) => some (host, port)
    | (_, some _) => none

/-- The name of a file, which is relative to the directory of the profile. -/
def fileName (configDir name : Bytes) : Bytes :=
  let p := trimSpace name
  if p = [] then []
  else if isAbs p then clean p
  else clean (joinPath configDir p)

section Auth

variable [CaseTables]

/-- `applyAuthRunSpec` of a spec that is not nil. -/
def applyAuthRunSpec (cfg : Config F) (spec : AuthRunSpec) (configDir : Bytes) :
    Except SpecError (Config F) :=
  let t := toLower (trimSpace (spec.type.getD []))
  if t = [] ∨ t = ascii "none" then .ok { cfg with auth := {} }
  else if t ≠ ascii "internal" then .error (.authType t)
  else
    let path := trimSpace (spec.sqlitePath.getD [])
    let path :=
      if path = [] ∧ trimSpace cfg.uiDataDir ≠ [] then
        joinPath (trimSpace cfg.uiDataDir) (ascii "settings.sqlite")
      else path
    if path = [] then .error .authPath
    else
      .ok { cfg with
        auth :=
          { type := ascii "internal"
            sqlitePath := if isAbs path then clean path else clean (joinPath configDir path)
            jwtSecret := trimSpace (spec.jwtSecret.getD []) } }

end Auth

/-- A text of the spec in place of that of the configuration. -/
def textOr (text : Option Bytes) (old : Bytes) : Bytes :=
  (text.map trimSpace).getD old

/-- A listener, with the values of the configuration for those it lacks. -/
def listenerOf (cfg : Config F) (ls : ListenerRunSpec) : ServerListener :=
  let transport := textOr ls.transport []
  let localIP := textOr ls.localIP []
  let localPort := ls.localPort.getD 0
  { transport := if transport = [] then cfg.transport else transport
    localIP := if localIP = [] then cfg.localIP else localIP
    localPort := if localPort = 0 then cfg.localPort else localPort }

/-- The listeners of the spec; the first one is also the address of the configuration. -/
def applyListeners (cfg : Config F) (listeners : List ListenerRunSpec) : Config F :=
  match listeners.map (listenerOf cfg) with
  | [] => cfg
  | first :: rest =>
    { cfg with
      serverListeners := first :: rest
      transport := first.transport
      localIP := first.localIP
      localPort := first.localPort }

/-- `applyRunSpec`. -/
def applyRunSpec [CaseTables] (parseDuration : Bytes → Option Int) (cfg : Config F)
    (spec : RunSpec F) (configDir : Bytes) : Except SpecError (Config F) := do
  let cfg := { cfg with
    scenarioFile := (spec.scenarioFile.map (fileName configDir)).getD cfg.scenarioFile
    scenarioName := textOr spec.scenarioName cfg.scenarioName
    service := textOr spec.service cfg.service
    transport := textOr spec.transport cfg.transport
    localIP := textOr spec.localIP cfg.localIP
    localPort := spec.localPort.getD cfg.localPort }
  let cfg ← match spec.remoteAddr with
    | none => pure cfg
    | some addr =>
      match splitHostPort (trimSpace addr) with
      | none => .error .remoteAddr
      | some (host, port) => pure { cfg with remoteHost := host, remotePort := port }
  let cfg := { cfg with
    authUsername := textOr spec.authUsername cfg.authUsername
    authPassword := spec.authPassword.getD cfg.authPassword
    rate := spec.rate.getD cfg.rate
    maxConcurrent := spec.maxConcurrent.getD cfg.maxConcurrent
    totalCalls := spec.totalCalls.getD cfg.totalCalls
    totalCallsSetExplicitly := spec.totalCalls.isSome || cfg.totalCallsSetExplicitly
    users := spec.users.getD cfg.users
    hepAddr := textOr spec.hepAddr cfg.hepAddr
    hepCaptureID := spec.hepCaptureID.getD cfg.hepCaptureID
    hepPassword := spec.hepPassword.getD cfg.hepPassword
    hepRawRTCP := spec.hepRawRTCP.getD cfg.hepRawRTCP
    hepHomerLakeRTCP := spec.hepHomerLakeRTCP.getD cfg.hepHomerLakeRTCP
    sendMediaReport := spec.sendMediaReport.getD cfg.sendMediaReport
    summaryJSON := textOr spec.summaryJSON cfg.summaryJSON
    summaryHTML := textOr spec.summaryHTML cfg.summaryHTML
    recordWAVDir := textOr spec.recordWAVDir cfg.recordWAVDir
    recordWAVDuplex := spec.recordWAVDuplex.getD cfg.recordWAVDuplex
    callRecordsJSONL := textOr spec.callRecordsJSONL cfg.callRecordsJSONL
    sipFrom := textOr spec.sipFrom cfg.sipFrom
    sipPAI := textOr spec.sipPAI cfg.sipPAI
    sipProvider := textOr spec.sipProvider cfg.sipProvider
    sipExtraHeaders :=
      if spec.sipExtraHeaders ≠ [] then spec.sipExtraHeaders else cfg.sipExtraHeaders
    traceMessages := spec.traceMessages.getD cfg.traceMessages }
  let cfg ← match spec.statPrintPeriod with
    | none => pure cfg
    | some period =>
      let s := trimSpace period
      if s = [] then pure { cfg with statPrintPeriod := 0 }
      else
        match parseDuration s with
        | none => .error .statPeriod
        | some d => pure { cfg with statPrintPeriod := d }
  let cfg := { cfg with
    injectionFile := (spec.injectionFile.map (fileName configDir)).getD cfg.injectionFile
    ipField := spec.ipField.getD cfg.ipField
    healthMaxRTCPFractionLost :=
      spec.healthMaxRTCPFractionLost.getD cfg.healthMaxRTCPFractionLost
    healthMaxRTCPJitterTS := spec.healthMaxRTCPJitterTS.getD cfg.healthMaxRTCPJitterTS
    healthMinRTPPacketsRecv := spec.healthMinRTPPacketsRecv.getD cfg.healthMinRTPPacketsRecv
    healthMinRTPPacketsRecvPerCall :=
      spec.healthMinRTPPacketsRecvPerCall.getD cfg.healthMinRTPPacketsRecvPerCall
    logOTELEndpoint := textOr spec.logOTELEndpoint cfg.logOTELEndpoint
    logOTELProto := textOr spec.logOTELProto cfg.logOTELProto
    logOTELInsecure := spec.logOTELInsecure.getD cfg.logOTELInsecure
    apiAddr := textOr spec.apiAddr cfg.apiAddr
    uiDataDir := textOr spec.uiDataDir cfg.uiDataDir
    scenarioHistoryKeep := spec.scenarioHistoryKeep.getD cfg.scenarioHistoryKeep
    legacyAPIV1 := spec.legacyAPIV1.getD cfg.legacyAPIV1
    legacyAPIV1Set := spec.legacyAPIV1.isSome || cfg.legacyAPIV1Set
    apiToken := spec.apiToken.getD cfg.apiToken }
  let cfg ← match spec.auth with
    | none => pure cfg
    | some auth => applyAuthRunSpec cfg auth configDir
  let cfg := { cfg with
    serverMode := spec.server.getD cfg.serverMode
    pcapLinkLayer := textOr spec.pcapLink cfg.pcapLinkLayer }
  return applyListeners cfg spec.listeners

/-- `applyServerModeIfEnabled` without flags of the command line. -/
def applyServerModeIfEnabled (cfg : Config F) : Except SpecError (Config F) :=
  if cfg.serverMode = false then .ok cfg
  else if cfg.rtpSend then .error .rtpSend
  else
    .ok { cfg with
      apiAddr := if trimSpace cfg.apiAddr = [] then ascii ":8080" else cfg.apiAddr
      scenarioName :=
        if cfg.scenarioFile = [] ∧ (cfg.scenarioName = [] ∨ cfg.scenarioName = ascii "uac") then
          ascii "management"
        else cfg.scenarioName
      totalCalls := if cfg.totalCallsSetExplicitly then cfg.totalCalls else 0
      totalCallsSetExplicitly := true
      localPort := if cfg.localPort = 0 then 5060 else cfg.localPort }

omit [Float64 F] in
theorem applyServerModeIfEnabled_serverMode {cfg after : Config F}
    (applied : applyServerModeIfEnabled cfg = .ok after) : after.serverMode = cfg.serverMode := by
  unfold applyServerModeIfEnabled at applied
  split at applied
  · cases applied
    rfl
  · split at applied
    · cases applied
    · cases applied
      rfl

end Config

/-! ### The mode of a flat file -/

/-- The errors of `inferServerFlatManagementFromJSON`. -/
inductive FlatError where
  | json
  | aliases
  | invalidRole
  | unknownRole (role : Bytes)
  | cannotInfer
deriving DecidableEq, Repr

/-- A text of the file, trimmed; one of another type counts as empty. -/
def trimmedText (top : Json.Object) (key : String) : Bytes :=
  trimSpace (((top.lookup (ascii key)).bind Json.asString).getD [])

/-- `inferServerFlatManagementFromJSON`. -/
def inferServerFlatManagementFromJSON [CaseTables] (data : Json) : Except FlatError Bool :=
  match data.asMap with
  | none => .error .json
  | some top =>
    if (top.lookup (ascii "aliases")).isSome then .error .aliases
    else if (top.lookup (ascii "server")).isSome then .ok true
    else
      match top.lookup (ascii "role") with
      | some raw =>
        match raw.asString with
        | none => .error .invalidRole
        | some s =>
          let role := toLower (trimSpace s)
          if role ∈ [ascii "management", ascii "server"] then .ok true
          else if role ∈ [ascii "load", ascii "client", ascii "uac"] then .ok false
          else .error (.unknownRole (trimSpace s))
      | none =>
        if ((top.lookup (ascii "listeners")).bind Json.asArray).any (!·.isEmpty) then .ok true
        else if trimmedText top "api_addr" ≠ [] then .ok true
        else
          let scen := trimmedText top "scenario_name"
          let ls := toLower scen
          let rem := trimmedText top "remote_addr"
          if ls = ascii "management" ∨ ls = ascii "uas" then .ok true
          else if ls = ascii "uac" ∧ rem ≠ [] then .ok false
          else if scen = [] ∧ rem ≠ [] then .ok false
          else .error .cannotInfer

end Gossipper.Cli
