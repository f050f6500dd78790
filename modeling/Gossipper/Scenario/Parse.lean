/-
Module: Gossipper.Scenario.Parse
Purpose: From a decoded scenario document to the commands of a scenario: the
  commands and their attributes, the actions, and the labels that a `next`
  attribute refers to, after `internal/scenario/parser.go`.
Trusted boundary: decoding the document (`encoding/xml` behind
  `xmlDecodeScenario`), `regexp.Compile` and `float64` are parameters.  An
  attribute that is absent decodes to the empty text.
Main exports: RawElement, RawScenario, ParsedCommand, Part, ParsedScenario, parseRaw_placed
-/
import Mathlib.Data.List.Forall2
import Gossipper.Go.Bytes
import Gossipper.Scenario.Distribution
import Gossipper.Scenario.Model

namespace Gossipper.Scenario

open Go List

/-! ### The decoded document -/

/-- `rawActionItem`; `name` is `XMLName.Local`. -/
structure RawActionItem where
  name : Bytes
  regexp : Bytes := []
  searchIn : Bytes := []
  header : Bytes := []
  «variable» : Bytes := []
  variable2 : Bytes := []
  assignTo : Bytes := []
  checkIt : Bytes := []
  checkItInverse : Bytes := []
  value : Bytes := []
  compare : Bytes := []
  message : Bytes := []
  file : Bytes := []
  key : Bytes := []
  username : Bytes := []
  password : Bytes := []
  command : Bytes := []
  intCmd : Bytes := []
  rtpStream : Bytes := []
  rtpRecord : Bytes := []
  rtpCheck : Bytes := []
  playPCAPAudio : Bytes := []
  playPCAPVideo : Bytes := []
  playPCAPImage : Bytes := []
  sendDTMF : Bytes := []
  host : Bytes := []
  port : Bytes := []
  protocol : Bytes := []
deriving DecidableEq, Repr

/-- `rawElement`; `name` is `XMLName.Local`, and each member of `actions` holds the
children of one `<action>`. -/
structure RawElement where
  name : Bytes
  text : Bytes := []
  next : Bytes := []
  test : Bytes := []
  chance : Bytes := []
  condExec : Bytes := []
  condExecInverse : Bytes := []
  counter : Bytes := []
  display : Bytes := []
  startRTD : Bytes := []
  rtd : Bytes := []
  retrans : Bytes := []
  request : Bytes := []
  response : Bytes := []
  regexpMatch : Bytes := []
  rrs : Bytes := []
  optional : Bytes := []
  timeout : Bytes := []
  milliseconds : Bytes := []
  id : Bytes := []
  dest : Bytes := []
  src : Bytes := []
  actions : List (List RawActionItem) := []
  distribution : Bytes := []
  mean : Bytes := []
  stdev : Bytes := []
  min : Bytes := []
  max : Bytes := []
deriving DecidableEq, Repr

/-- `rawScenarioItem`: an element that also has `variables` and child elements. -/
structure RawScenarioItem extends RawElement where
  «variables» : Bytes := []
  elements : List RawElement := []
deriving DecidableEq, Repr

/-- `rawScenario`. -/
structure RawScenario where
  name : Bytes
  webRTC : Bytes
  elements : List RawScenarioItem
deriving DecidableEq, Repr

/-! ### The scenario -/

/-- `ActionType`. -/
inductive ActionType where
  | ereg
  | assignStr
  | assign
  | toDouble
  | add
  | subtract
  | multiply
  | divide
  | strCmp
  | test
  | log
  | warning
  | lookup
  | sample
  | insert
  | replace
  | jump
  | getTimeOfDay
  | urlEncode
  | urlDecode
  | verifyAuth
  | exec
  | setDest
deriving DecidableEq, Repr

/-- `Action`. -/
structure Action where
  type : ActionType
  regexp : Bytes
  searchIn : Bytes
  header : Bytes
  «variable» : Bytes
  variable2 : Bytes
  assignTo : List Bytes
  checkIt : Bool
  checkItInverse : Bool
  value : Bytes
  compare : Bytes
  message : Bytes
  file : Bytes
  key : Bytes
  username : Bytes
  password : Bytes
  command : Bytes
  intCmd : Bytes
  rtpStream : Bytes
  rtpRecord : Bytes
  rtpCheck : Bytes
  playPCAPAudio : Bytes
  playPCAPVideo : Bytes
  playPCAPImage : Bytes
  sendDTMF : Bytes
  host : Bytes
  port : Bytes
  protocol : Bytes
deriving DecidableEq, Repr

/-- `Command`, with every field that the parser sets.  `nextIndex` is -1 without a
next label, and durations are in nanoseconds. -/
structure ParsedCommand (F : Type) where
  type : CommandType
  index : Int
  display : Bytes
  counter : Bytes
  startRTD : Bytes
  stopRTD : Bytes
  nextLabel : Bytes
  nextIndex : Int
  test : Bytes
  chance : F
  condExec : Bytes
  condExecInverse : Bool
  sendText : Bytes
  retrans : Int
  recvReq : Bytes
  recvResp : Bytes
  regexpMatch : Bool
  recvReqRegex : Option (Bytes → Bool)
  rrs : Bool
  cmdDest : Bytes
  cmdSrc : Bytes
  optional : Bool
  timeout : Int
  pause : Option Sampler
  labelID : Bytes
  timeWait : Bool
  actions : List Action

/-- The commands of the call or of the init section, and their labels.  `labels`
lists the assignments to the map, the last one first. -/
structure Part (F : Type) where
  commands : List (ParsedCommand F)
  labels : List (Bytes × Nat)

/-- `Mode`. -/
inductive Mode where
  | client
  | server
deriving DecidableEq, Repr

/-- `Scenario`: `main` holds `Commands` and `Labels`, `init` holds `InitCommands`
and `InitLabels`. -/
structure ParsedScenario (F : Type) where
  name : Bytes
  basePath : Bytes
  mode : Mode
  webRTC : Bool
  main : Part F
  init : Part F
  globalVariables : List Bytes
  userVariables : List Bytes
  references : List Bytes

/-- The errors of `ParseString`, with what their texts name. -/
inductive ParseError where
  | decode
  | regexpWithoutRequest (index : Nat)
  | invalidRegexp (index : Nat)
  | pause (index : Nat) (cause : DistributionError)
  | timewait (index : Nat) (cause : DistributionError)
  | unsupportedAction (name : Bytes)
  | invalidChance (chance : Bytes)
  | labelWithoutId (index : Nat)
  | recvWithoutMessage (index : Nat)
  | unknownLabel (index : Nat) (label : Bytes)
  | unknownInitLabel (index : Nat) (label : Bytes)
  | noCommands
deriving DecidableEq, Repr

/-! ### Texts -/

section Texts

variable [CaseTables]

/-- `parseBool`. -/
def parseBool (value : Bytes) : Bool :=
  let lowered := toLower (trimSpace value)
  lowered == ascii "1" || lowered == ascii "true" || lowered == ascii "yes"

/-- `parseDurationMilliseconds`. -/
def parseDurationMilliseconds (value : Bytes) : Int :=
  let value := trimSpace value
  if value = [] then 0
  else
    match atoi value with
    | (_, some _) => 0
    | (ms, none) => mulInt ms millisecond

/-- `parseVariablesList`. -/
def parseVariablesList (value : Bytes) : List Bytes :=
  ((split value (ascii ",")).map trimSpace).filter (· ≠ [])

/-- `normalizeInnerXML`. -/
def normalizeInnerXML (value : Bytes) : Bytes :=
  let value := replaceAll value (ascii "\r\n") (ascii "\n")
  let value := replaceAll value (ascii "<![CDATA[") []
  let value := replaceAll value (ascii "]]>") []
  let value := trimSpace value
  if value = [] then [] else replaceAll value (ascii "\n") (ascii "\r\n") ++ ascii "\r\n"

end Texts

/-! ### Actions -/

/-- The names of the actions. -/
def actionNames : List (Bytes × ActionType) :=
  [(ascii "ereg", .ereg), (ascii "assignstr", .assignStr), (ascii "assign", .assign),
    (ascii "todouble", .toDouble), (ascii "add", .add), (ascii "subtract", .subtract),
    (ascii "multiply", .multiply), (ascii "divide", .divide), (ascii "strcmp", .strCmp),
    (ascii "test", .test), (ascii "log", .log), (ascii "warning", .warning),
    (ascii "lookup", .lookup), (ascii "sample", .sample), (ascii "insert", .insert),
    (ascii "replace", .replace), (ascii "jump", .jump),
    (ascii "gettimeofday", .getTimeOfDay), (ascii "urlencode", .urlEncode),
    (ascii "urldecode", .urlDecode), (ascii "verifyauth", .verifyAuth),
    (ascii "exec", .exec), (ascii "setdest", .setDest)]

/-- `parseActionType`. -/
def parseActionType (name : Bytes) : Option ActionType :=
  actionNames.lookup (trimSpace name)

section Actions

variable [CaseTables]

/-- One child of an `<action>`. -/
def parseAction (child : RawActionItem) : Except ParseError Action :=
  match parseActionType child.name with
  | none => .error (.unsupportedAction child.name)
  | some actionType =>
    .ok
      { type := actionType
        regexp := trimSpace child.regexp
        searchIn := trimSpace child.searchIn
        header := trimSpace child.header
        «variable» := trimSpace child.variable
        variable2 := trimSpace child.variable2
        assignTo := parseVariablesList (trimSpace child.assignTo)
        checkIt := parseBool child.checkIt
        checkItInverse := parseBool child.checkItInverse
        value := trimSpace child.value
        compare := trimSpace child.compare
        message := trimSpace child.message
        file := trimSpace child.file
        key := trimSpace child.key
        username := trimSpace child.username
        password := trimSpace child.password
        command := trimSpace child.command
        intCmd := trimSpace child.intCmd
        rtpStream := trimSpace child.rtpStream
        rtpRecord := trimSpace child.rtpRecord
        rtpCheck := trimSpace child.rtpCheck
        playPCAPAudio := trimSpace child.playPCAPAudio
        playPCAPVideo := trimSpace child.playPCAPVideo
        playPCAPImage := trimSpace child.playPCAPImage
        sendDTMF := trimSpace child.sendDTMF
        host := trimSpace child.host
        port := trimSpace child.port
        protocol := trimSpace child.protocol }

/-- `parseActions`. -/
def parseActions (raw : List (List RawActionItem)) : Except ParseError (List Action) :=
  raw.flatten.mapM parseAction

end Actions

/-! ### Commands -/

/-- The names of the commands; any other element gives none. -/
def CommandType.ofName (name : Bytes) : Option CommandType :=
  if name = ascii "send" then some .send
  else if name = ascii "sendCmd" then some .sendCmd
  else if name = ascii "recv" then some .recv
  else if name = ascii "recvCmd" then some .recvCmd
  else if name = ascii "pause" then some .pause
  else if name = ascii "nop" then some .nop
  else if name = ascii "label" then some .label
  else if name = ascii "timewait" then some .timewait
  else none

section Commands

variable {F : Type} [Float64 F]

/-- The command before the switch: an index, no next command and a chance of one. -/
def ParsedCommand.blank (type : CommandType) (index : Nat) : ParsedCommand F where
  type := type
  index := index
  display := []
  counter := []
  startRTD := []
  stopRTD := []
  nextLabel := []
  nextIndex := -1
  test := []
  chance := Float64.one
  condExec := []
  condExecInverse := false
  sendText := []
  retrans := 0
  recvReq := []
  recvResp := []
  regexpMatch := false
  recvReqRegex := none
  rrs := false
  cmdDest := []
  cmdSrc := []
  optional := false
  timeout := 0
  pause := none
  labelID := []
  timeWait := false
  actions := []

variable [CaseTables] (compile : Bytes → Option (Bytes → Bool))

/-- The case of a `<recv>`. -/
def recvCommand (elem : RawElement) (index : Nat) : Except ParseError (ParsedCommand F) :=
  let recvReq := trimSpace elem.request
  let cmd : ParsedCommand F :=
    { ParsedCommand.blank .recv index with
      recvReq := recvReq
      recvResp := trimSpace elem.response
      regexpMatch := parseBool elem.regexpMatch
      rrs := parseBool elem.rrs
      optional := parseBool elem.optional
      timeout := parseDurationMilliseconds elem.timeout }
  if parseBool elem.regexpMatch then
    if recvReq = [] then .error (.regexpWithoutRequest index)
    else
      match compile recvReq with
      | none => .error (.invalidRegexp index)
      | some regex => .ok { cmd with recvReqRegex := some regex }
  else .ok cmd

/-- The switch of `rawElementToCommand`. -/
def commandOf (type : CommandType) (elem : RawElement) (index : Nat) :
    Except ParseError (ParsedCommand F) :=
  let blank : ParsedCommand F := ParsedCommand.blank type index
  match type with
  | .send =>
    .ok { blank with
      sendText := normalizeInnerXML elem.text
      retrans := parseDurationMilliseconds elem.retrans }
  | .sendCmd =>
    .ok { blank with
      sendText := normalizeInnerXML elem.text
      cmdDest := trimSpace elem.dest }
  | .recv => recvCommand compile elem index
  | .recvCmd =>
    .ok { blank with
      cmdSrc := trimSpace elem.src
      optional := parseBool elem.optional
      timeout := parseDurationMilliseconds elem.timeout }
  | .pause =>
    match newFromXML F elem.distribution elem.milliseconds elem.mean elem.stdev elem.min
        elem.max with
    | .error cause => .error (.pause index cause)
    | .ok sampler => .ok { blank with pause := some sampler }
  | .nop => .ok blank
  | .label => .ok { blank with labelID := trimSpace elem.id }
  | .timewait =>
    match newFromXML F (ascii "fixed") elem.milliseconds [] [] [] [] with
    | .error cause => .error (.timewait index cause)
    | .ok sampler => .ok { blank with timeWait := true, pause := some sampler }

/-- The chance of a next label, cut to the range from zero to one. -/
def parseChance (chance : Bytes) : Except ParseError F :=
  let chance := trimSpace chance
  if chance = [] then .ok Float64.one
  else
    match Float64.parseFloat (F := F) chance with
    | none => .error (.invalidChance chance)
    | some value =>
      if Float64.lt value Float64.zero then .ok Float64.zero
      else if Float64.lt Float64.one value then .ok Float64.one
      else .ok value

/-- The attributes that every command may have, and the checks at the end of
`rawElementToCommand`. -/
def withAttributes (elem : RawElement) (index : Nat) (cmd : ParsedCommand F) :
    Except ParseError (ParsedCommand F) := do
  let actions ← parseActions elem.actions
  let chance ← parseChance elem.chance
  if cmd.type = .label ∧ cmd.labelID = [] then throw (.labelWithoutId index)
  else if cmd.type = .recv ∧ cmd.recvReq = [] ∧ cmd.recvResp = [] then
    throw (.recvWithoutMessage index)
  else
    return { cmd with
      nextLabel := trimSpace elem.next
      test := trimSpace elem.test
      counter := trimSpace elem.counter
      display := trimSpace elem.display
      startRTD := trimSpace elem.startRTD
      stopRTD := trimSpace elem.rtd
      condExec := trimSpace elem.condExec
      condExecInverse := parseBool elem.condExecInverse
      actions := actions
      chance := chance }

/-- `rawElementToCommand`; the empty command that an unknown element gives is `none`. -/
def rawElementToCommand (elem : RawElement) (index : Nat) :
    Except ParseError (Option (ParsedCommand F)) :=
  match CommandType.ofName elem.name with
  | none => .ok none
  | some type => do
      let cmd ← commandOf compile type elem index
      let cmd ← withAttributes elem index cmd
      return some cmd

/-! ### The document -/

namespace Part

/-- No commands and no labels. -/
def empty : Part F := ⟨[], []⟩

/-- Append a command; a label is entered at the position that it gets. -/
def push (part : Part F) (cmd : ParsedCommand F) : Part F where
  commands := part.commands ++ [cmd]
  labels :=
    if cmd.type = .label then (cmd.labelID, part.commands.length) :: part.labels
    else part.labels

/-- The body of the loop over the children of an `<init>`. -/
def add (part : Part F) (elem : RawElement) : Except ParseError (Part F) := do
  match ← rawElementToCommand compile elem part.commands.length with
  | none => return part
  | some cmd => return part.push cmd

/-- The next label of the command at `index` as a position. -/
def resolveLabel (labels : List (Bytes × Nat)) (unknown : Nat → Bytes → ParseError)
    (index : Nat) (cmd : ParsedCommand F) : Except ParseError (ParsedCommand F) :=
  if cmd.nextLabel = [] then .ok cmd
  else
    match labels.lookup cmd.nextLabel with
    | none => .error (unknown index cmd.nextLabel)
    | some next => .ok { cmd with nextIndex := next }

/-- The loop over the commands, from the one at `index`. -/
def resolveFrom (labels : List (Bytes × Nat)) (unknown : Nat → Bytes → ParseError) :
    Nat → List (ParsedCommand F) → Except ParseError (List (ParsedCommand F))
  | _, [] => .ok []
  | index, cmd :: rest => do
      let cmd ← resolveLabel labels unknown index cmd
      let rest ← resolveFrom labels unknown (index + 1) rest
      return cmd :: rest

/-- The next labels as positions. -/
def resolve (part : Part F) (unknown : Nat → Bytes → ParseError) :
    Except ParseError (Part F) := do
  let commands ← resolveFrom part.labels unknown 0 part.commands
  return { part with commands := commands }

end Part

/-- A `<recv>` of a request makes the scenario one of a server. -/
def Mode.after (mode : Mode) (cmd : ParsedCommand F) : Mode :=
  if cmd.type = .recv ∧ cmd.recvReq ≠ [] then .server else mode

/-- The body of the loop over the elements of the document. -/
def ParsedScenario.addItem (sc : ParsedScenario F) (elem : RawScenarioItem) :
    Except ParseError (ParsedScenario F) := do
  if elem.name = ascii "Global" then
    return { sc with globalVariables := sc.globalVariables ++ parseVariablesList elem.variables }
  else if elem.name = ascii "User" then
    return { sc with userVariables := sc.userVariables ++ parseVariablesList elem.variables }
  else if elem.name = ascii "Reference" then
    return { sc with references := sc.references ++ parseVariablesList elem.variables }
  else if elem.name = ascii "init" then
    let init ← elem.elements.foldlM (Part.add compile) sc.init
    return { sc with init := init }
  else
    match ← rawElementToCommand compile elem.toRawElement sc.main.commands.length with
    | none => return sc
    | some cmd => return { sc with main := sc.main.push cmd, mode := sc.mode.after cmd }

/-- The scenario before the elements are read. -/
def ParsedScenario.start (raw : RawScenario) : ParsedScenario F where
  name := raw.name
  basePath := ascii "."
  mode := .client
  webRTC := parseBool raw.webRTC
  main := .empty
  init := .empty
  globalVariables := []
  userVariables := []
  references := []

/-- `ParseString` behind the decoder. -/
def parseRaw (raw : RawScenario) : Except ParseError (ParsedScenario F) := do
  let sc ← raw.elements.foldlM (ParsedScenario.addItem compile) (.start raw)
  let main ← sc.main.resolve .unknownLabel
  let init ← sc.init.resolve .unknownInitLabel
  if main.commands.isEmpty then throw .noCommands
  else return { sc with main := main, init := init }

/-- `ParseString`. -/
def parseString (decode : Bytes → Option RawScenario) (data : Bytes) :
    Except ParseError (ParsedScenario F) :=
  match decode data with
  | none => .error .decode
  | some raw => parseRaw compile raw

end Commands

/-! ### Where the commands come from -/

section Correspondence

variable {F : Type}

/-- What the command at a position keeps of its element. -/
structure ReadFrom (elem : RawElement) (index : Nat) (cmd : ParsedCommand F) : Prop where
  type : CommandType.ofName elem.name = some cmd.type
  index : cmd.index = index
  nextLabel : cmd.nextLabel = trimSpace elem.next
  nextIndex : cmd.nextIndex = -1
  labelID : cmd.type = .label → cmd.labelID = trimSpace elem.id

/-- The element gives a command. -/
def RawElement.isCommand (elem : RawElement) : Bool :=
  (CommandType.ofName elem.name).isSome

/-- The elements of a document that give the commands of the call. -/
def RawScenario.mainElements (elements : List RawScenarioItem) : List RawElement :=
  (elements.map (·.toRawElement)).filter (·.isCommand)

/-- The elements of a document that give the commands of the init section. -/
def RawScenario.initElements (elements : List RawScenarioItem) : List RawElement :=
  ((elements.filter fun elem => elem.name = ascii "init").flatMap (·.elements)).filter
    (·.isCommand)

/-- The label map points at label commands. -/
def PointsAtLabels (labels : List (Bytes × Nat)) (commands : List (ParsedCommand F)) : Prop :=
  ∀ id position, labels.lookup id = some position →
    ∃ cmd, commands[position]? = some cmd ∧ cmd.type = .label ∧ cmd.labelID = id

/-- A part that holds one command for each element, in order, with its labels. -/
structure Part.Collects (elements : List RawElement) (part : Part F) : Prop where
  length : part.commands.length = elements.length
  read : ∀ position elem cmd, elements[position]? = some elem →
    part.commands[position]? = some cmd → ReadFrom elem position cmd
  labels : PointsAtLabels part.labels part.commands

namespace Part

theorem collects_empty : (Part.empty : Part F).Collects [] where
  length := rfl
  read := by simp
  labels := by
    intro id position found
    cases found

theorem push_labels {part : Part F} {cmd : ParsedCommand F}
    (labels : PointsAtLabels part.labels part.commands) :
    PointsAtLabels (part.push cmd).labels (part.push cmd).commands := by
  -- A position that was there stays the position of the same command.
  have earlier : PointsAtLabels part.labels (part.push cmd).commands := by
    intro id position found
    obtain ⟨label, there, isLabel, named⟩ := labels id position found
    have inside := (List.getElem?_eq_some_iff.mp there).1
    exact ⟨label, by rw [push, getElem?_append_left inside, there], isLabel, named⟩
  intro id position found
  simp only [push] at found
  split at found
  · rename_i isLabel
    rw [lookup_cons] at found
    split at found
    · rename_i same
      cases found
      exact ⟨cmd, by simp [push], isLabel, (beq_iff_eq.mp same).symm⟩
    · exact earlier id position found
  · exact earlier id position found

theorem Collects.push {elements : List RawElement} {part : Part F} {elem : RawElement}
    {cmd : ParsedCommand F} (collects : part.Collects elements)
    (read : ReadFrom elem part.commands.length cmd) :
    (part.push cmd).Collects (elements ++ [elem]) where
  length := by simp [Part.push, collects.length]
  labels := push_labels collects.labels
  read := by
    intro position other command fromElement there
    have inside : position < elements.length + 1 := by
      simpa using (List.getElem?_eq_some_iff.mp fromElement).1
    rcases Nat.lt_succ_iff_lt_or_eq.mp inside with before | rfl
    · rw [getElem?_append_left before] at fromElement
      rw [Part.push, getElem?_append_left (collects.length ▸ before)] at there
      exact collects.read position other command fromElement there
    · rw [Part.push, ← collects.length, getElem?_concat_length] at there
      rw [getElem?_concat_length] at fromElement
      cases there
      cases fromElement
      rw [← collects.length]
      exact read

end Part

/-- Both parts of a scenario correspond to the elements read so far. -/
structure ParsedScenario.Collects (seen : List RawScenarioItem) (sc : ParsedScenario F) :
    Prop where
  main : sc.main.Collects (RawScenario.mainElements seen)
  init : sc.init.Collects (RawScenario.initElements seen)

open RawScenario

theorem mainElements_other {seen elem}
    (other : CommandType.ofName elem.name = none) :
    mainElements (seen ++ [elem]) = mainElements seen := by
  simp [mainElements, RawElement.isCommand, other]

theorem initElements_other {seen elem}
    (other : elem.name ≠ ascii "init") :
    initElements (seen ++ [elem]) = initElements seen := by
  simp [initElements, other]

/-! ### Labels as positions -/

/-- What resolving a label does to a command. -/
inductive Resolves (labels : List (Bytes × Nat)) (cmd : ParsedCommand F) :
    ParsedCommand F → Prop where
  | unlabelled : cmd.nextLabel = [] → Resolves labels cmd cmd
  | labelled (next : Nat) : cmd.nextLabel ≠ [] → labels.lookup cmd.nextLabel = some next →
      Resolves labels cmd { cmd with nextIndex := next }

variable {index : Nat}

theorem Part.resolveFrom_resolves {labels : List (Bytes × Nat)}
    {unknown : Nat → Bytes → ParseError} {commands resolved : List (ParsedCommand F)}
    (ended : resolveFrom labels unknown index commands = .ok resolved) :
    List.Forall₂ (Resolves labels) commands resolved := by
  induction commands generalizing index resolved with
  | nil =>
    cases ended
    exact .nil
  | cons cmd rest ih =>
    rw [resolveFrom] at ended
    obtain ⟨first, looked, ended⟩ := bind_ok ended
    obtain ⟨others, followed, ended⟩ := bind_ok ended
    cases ended
    refine .cons ?_ (ih followed)
    unfold resolveLabel at looked
    split at looked
    · cases looked
      exact .unlabelled ‹_›
    · split at looked
      · cases looked
      · cases looked
        exact .labelled _ ‹_› ‹_›

theorem Resolves.kept {labels : List (Bytes × Nat)} {cmd resolved : ParsedCommand F}
    (resolves : Resolves labels cmd resolved) :
    resolved.type = cmd.type ∧ resolved.index = cmd.index ∧ resolved.labelID = cmd.labelID := by
  cases resolves <;> exact ⟨rfl, rfl, rfl⟩

/-- The commands of an accepted part, against the elements that they came from.  A
`next` attribute and the `id` of a label are compared without surrounding blanks. -/
structure Placed (elements : List RawElement) (part : Part F) : Prop where
  length : part.commands.length = elements.length
  index : ∀ (position : Nat) (cmd : ParsedCommand F),
    part.commands[position]? = some cmd → cmd.index = position
  nextIndex : ∀ (position : Nat) (elem : RawElement) (cmd : ParsedCommand F),
    elements[position]? = some elem → part.commands[position]? = some cmd →
      (cmd.nextIndex = -1 ↔ trimSpace elem.next = [])
  next : ∀ (position : Nat) (elem : RawElement) (cmd : ParsedCommand F),
    elements[position]? = some elem → part.commands[position]? = some cmd →
      trimSpace elem.next ≠ [] →
      ∃ (target : Nat) (labelElem : RawElement) (label : ParsedCommand F),
        cmd.nextIndex = target ∧
        elements[target]? = some labelElem ∧ trimSpace labelElem.id = trimSpace elem.next ∧
        part.commands[target]? = some label ∧ label.type = .label ∧
        label.labelID = trimSpace elem.next
  labels : PointsAtLabels part.labels part.commands

theorem Part.Collects.resolved {elements : List RawElement} {part : Part F}
    {commands : List (ParsedCommand F)} (collects : part.Collects elements)
    (resolved : List.Forall₂ (Resolves part.labels) part.commands commands) :
    Placed elements { part with commands := commands } := by
  have sameLength := resolved.length_eq
  -- The command at a position comes from the element and the unresolved command there.
  have origin {position : Nat} {cmd : ParsedCommand F}
      (there : commands[position]? = some cmd) :
      ∃ elem before, elements[position]? = some elem ∧ part.commands[position]? = some before ∧
        ReadFrom elem position before ∧ Resolves part.labels before cmd := by
    obtain ⟨inside, rfl⟩ := List.getElem?_eq_some_iff.mp there
    have insideBefore : position < part.commands.length := by omega
    have insideElements : position < elements.length := collects.length ▸ insideBefore
    refine ⟨elements[position], part.commands[position], getElem?_eq_getElem insideElements,
      getElem?_eq_getElem insideBefore, ?_, ?_⟩
    · exact collects.read position _ _ (getElem?_eq_getElem insideElements)
        (getElem?_eq_getElem insideBefore)
    · exact (forall₂_iff_get.mp resolved).2 position insideBefore inside
  have labels : PointsAtLabels part.labels commands := by
    intro id position found
    obtain ⟨before, there, isLabel, named⟩ := collects.labels id position found
    have inside : position < commands.length :=
      sameLength ▸ (List.getElem?_eq_some_iff.mp there).1
    obtain ⟨_, same, _, again, _, resolves⟩ := origin (getElem?_eq_getElem inside)
    cases there.symm.trans again
    obtain ⟨type, _, labelID⟩ := resolves.kept
    exact ⟨_, getElem?_eq_getElem inside, type.trans isLabel, labelID.trans named⟩
  exact
    { length := sameLength.symm.trans collects.length
      index := by
        intro position cmd there
        obtain ⟨_, _, _, _, read, resolves⟩ := origin there
        exact resolves.kept.2.1.trans read.index
      nextIndex := by
        intro position elem cmd fromElement there
        obtain ⟨_, _, same, _, read, resolves⟩ := origin there
        cases fromElement.symm.trans same
        rw [← read.nextLabel]
        cases resolves with
        | unlabelled none => simp [none, read.nextIndex]
        | labelled next some found => simp [some]
      next := by
        intro position elem cmd fromElement there notBlank
        obtain ⟨_, _, same, _, read, resolves⟩ := origin there
        cases fromElement.symm.trans same
        rw [← read.nextLabel] at notBlank ⊢
        cases resolves with
        | unlabelled none => exact absurd none notBlank
        | labelled next _ found =>
          obtain ⟨label, atTarget, isLabel, named⟩ := labels _ _ found
          obtain ⟨labelElem, _, fromLabel, _, labelRead, labelResolves⟩ := origin atTarget
          obtain ⟨type, _, labelID⟩ := labelResolves.kept
          have carried := labelRead.labelID (type.symm.trans isLabel)
          exact ⟨next, labelElem, label, rfl, fromLabel,
            by rw [← carried, ← labelID, named], atTarget, isLabel, named⟩
      labels := labels }

theorem Part.Collects.resolve {elements : List RawElement} {part after : Part F}
    {unknown : Nat → Bytes → ParseError} (collects : part.Collects elements)
    (ended : part.resolve unknown = .ok after) : Placed elements after := by
  obtain ⟨commands, resolved, ended⟩ := bind_ok ended
  cases ended
  exact collects.resolved (resolveFrom_resolves resolved)

/-! ### Reading the document -/

variable [Float64 F] [CaseTables] (compile : Bytes → Option (Bytes → Bool))

/-- What the switch sets: the type and the index, no next command, and the id of a
label. -/
structure Switched (type : CommandType) (elem : RawElement) (index : Nat)
    (cmd : ParsedCommand F) : Prop where
  labelID : type = .label → cmd.labelID = trimSpace elem.id
  type : cmd.type = type
  index : cmd.index = index
  nextIndex : cmd.nextIndex = -1

variable {elem : RawElement} {cmd : ParsedCommand F}

theorem recvCommand_switched
    (read : recvCommand compile elem index = .ok cmd) : Switched .recv elem index cmd := by
  unfold recvCommand at read
  dsimp only at read
  split at read
  · split at read
    · cases read
    · split at read
      · cases read
      · cases read
        exact ⟨nofun, rfl, rfl, rfl⟩
  · cases read
    exact ⟨nofun, rfl, rfl, rfl⟩

theorem commandOf_switched {type : CommandType}
    (read : commandOf compile type elem index = .ok cmd) :
    Switched type elem index cmd := by
  cases type with
  | recv => exact recvCommand_switched compile read
  | pause | timewait =>
    simp only [commandOf] at read
    split at read
    · cases read
    · cases read
      exact ⟨nofun, rfl, rfl, rfl⟩
  | label =>
    cases read
    exact ⟨fun _ => rfl, rfl, rfl, rfl⟩
  | send | sendCmd | recvCmd | nop =>
    cases read
    exact ⟨nofun, rfl, rfl, rfl⟩

/-- The attributes leave what the switch set. -/
theorem withAttributes_readFrom {type : CommandType}
    {before cmd : ParsedCommand F} (named : CommandType.ofName elem.name = some type)
    (switched : Switched type elem index before)
    (read : withAttributes elem index before = .ok cmd) : ReadFrom elem index cmd := by
  obtain ⟨actions, _, read⟩ := bind_ok read
  obtain ⟨chance, _, read⟩ := bind_ok read
  split at read
  · cases read
  · split at read
    · cases read
    · cases read
      exact
        { type := by rw [named, switched.type]
          index := switched.index
          nextLabel := rfl
          nextIndex := switched.nextIndex
          labelID := fun isLabel => switched.labelID (switched.type ▸ isLabel) }

theorem rawElementToCommand_some (read : rawElementToCommand compile elem index = .ok (some cmd)) :
    ReadFrom elem index cmd := by
  unfold rawElementToCommand at read
  split at read
  · cases read
  · rename_i type named
    obtain ⟨before, switched, read⟩ := bind_ok read
    obtain ⟨after, attributes, read⟩ := bind_ok read
    cases read
    exact withAttributes_readFrom named (commandOf_switched compile switched) attributes

theorem rawElementToCommand_none
    (read : rawElementToCommand (F := F) compile elem index = .ok none) :
    CommandType.ofName elem.name = none := by
  unfold rawElementToCommand at read
  split at read
  · assumption
  · obtain ⟨before, _, read⟩ := bind_ok read
    obtain ⟨after, _, read⟩ := bind_ok read
    cases read

namespace Part

/-- The loop body keeps the correspondence, for the elements that give commands. -/
theorem Collects.read_element {seen : List RawElement} {part after : Part F} {elem : RawElement}
    {result : Option (ParsedCommand F)}
    (collects : part.Collects (seen.filter (·.isCommand)))
    (read : rawElementToCommand compile elem part.commands.length = .ok result)
    (added : after = match result with | none => part | some cmd => part.push cmd) :
    after.Collects ((seen ++ [elem]).filter (·.isCommand)) := by
  subst added
  rw [filter_append]
  cases result with
  | none =>
    have unnamed := rawElementToCommand_none compile read
    simpa [RawElement.isCommand, unnamed] using collects
  | some cmd =>
    have readFrom := rawElementToCommand_some compile read
    have isCommand : elem.isCommand = true := by simp [RawElement.isCommand, readFrom.type]
    simpa [isCommand] using collects.push readFrom

theorem Collects.add {seen : List RawElement} {part after : Part F} {elem : RawElement}
    (added : part.add compile elem = .ok after)
    (collects : part.Collects (seen.filter (·.isCommand))) :
    after.Collects ((seen ++ [elem]).filter (·.isCommand)) := by
  obtain ⟨result, read, ended⟩ := bind_ok added
  refine collects.read_element compile read ?_
  cases result with
  | none | some cmd => cases ended; rfl

end Part

theorem ParsedScenario.Collects.addItem (seen : List RawScenarioItem)
    (sc : ParsedScenario F) (elem : RawScenarioItem) (after : ParsedScenario F)
    (added : sc.addItem compile elem = .ok after) (collects : sc.Collects seen) :
    after.Collects (seen ++ [elem]) := by
  unfold ParsedScenario.addItem at added
  -- A list of variables leaves both parts alone.
  have declares (named : elem.name = ascii "Global" ∨ elem.name = ascii "User" ∨
      elem.name = ascii "Reference") (main : after.main = sc.main) (init : after.init = sc.init) :
      after.Collects (seen ++ [elem]) := by
    constructor
    · rw [main, mainElements_other (by rcases named with h | h | h <;> rw [h] <;> rfl)]
      exact collects.main
    · rw [init, initElements_other (by rcases named with h | h | h <;> rw [h] <;> decide)]
      exact collects.init
  split at added
  · cases added
    exact declares (.inl ‹_›) rfl rfl
  split at added
  · cases added
    exact declares (.inr (.inl ‹_›)) rfl rfl
  split at added
  · cases added
    exact declares (.inr (.inr ‹_›)) rfl rfl
  split at added
  · rename_i named
    obtain ⟨init, folded, added⟩ := bind_ok added
    cases added
    constructor
    · rw [mainElements_other (by rw [named]; rfl)]
      exact collects.main
    · have appended := foldlM_invariant (fun children part =>
          part.Collects ((((seen.filter fun item => item.name = ascii "init").flatMap
            (·.elements)) ++ children).filter (·.isCommand)))
        (fun children part child after added collects => by
          simpa using collects.add compile added)
        folded (by simpa [initElements] using collects.init)
      simpa [initElements, named] using appended
  · rename_i notInit
    obtain ⟨result, read, ended⟩ := bind_ok added
    have main := collects.main.read_element compile read rfl
    rw [← map_singleton (f := fun item : RawScenarioItem => item.toRawElement),
      ← map_append] at main
    cases result with
    | none | some cmd =>
      cases ended
      exact ⟨main, by rw [initElements_other notInit]; exact collects.init⟩

/-- Both parts of a scenario that `ParseString` accepts are placed. -/
theorem parseRaw_placed {raw : RawScenario} {sc : ParsedScenario F}
    (accepted : parseRaw compile raw = .ok sc) :
    Placed (mainElements raw.elements) sc.main ∧
      Placed (initElements raw.elements) sc.init := by
  obtain ⟨read, folded, accepted⟩ := bind_ok accepted
  obtain ⟨main, mainResolved, accepted⟩ := bind_ok accepted
  obtain ⟨init, initResolved, accepted⟩ := bind_ok accepted
  have collects : read.Collects raw.elements :=
    foldlM_invariant ParsedScenario.Collects (ParsedScenario.Collects.addItem compile) folded
      ⟨Part.collects_empty, Part.collects_empty⟩
  split at accepted
  · cases accepted
  · cases accepted
    exact ⟨collects.main.resolve mainResolved, collects.init.resolve initResolved⟩

end Correspondence

end Gossipper.Scenario
