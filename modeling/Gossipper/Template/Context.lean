/-
Module: Gossipper.Template.Context
Purpose: The context of a render and the functions that compute the value of one
  keyword, after `internal/template/render.go`.
Trusted boundary: the clock, the file system, `encoding/csv`, the conversion of a
  floating-point text and the order of map iterations are a parameter.
Main exports: Environment, Context, parseArithmetic, lookupHeader, renderLastHeader
-/
import Gossipper.Go.Bytes
import Gossipper.Sip.Matching

namespace Gossipper.Template

open Go Sip

/-- What a render depends on besides its context.  `order` is the order in which a
`range` visits the header map, `readCSV` is `ReadAll` of a reader with the given
separator, and `parseFloat` is `int(f)` for the result of `strconv.ParseFloat`. -/
structure Environment where
  order : MapOrder
  timestamp : Bytes
  date : Bytes
  readFile : Bytes → Option Bytes
  readCSV : UInt8 → Bytes → Option (List (List Bytes))
  parseFloat : Bytes → Option Int

/-- No clock and no files. -/
def noFiles : Environment where
  order := .insertion
  timestamp := []
  date := []
  readFile _ := none
  readCSV _ _ := none
  parseFloat _ := none

/-- A `map[string]string`; a nil map and an empty one are both `[]`. -/
abbrev Values := List (Bytes × Bytes)

/-- `CSVFieldOverrides`: by file, line and field. -/
abbrev Overrides := List (Bytes × List (Int × List (Int × Bytes)))

/-- `Context`. -/
structure Context where
  service : Bytes
  transport : Bytes
  remoteHost : Bytes
  remoteIP : Bytes
  remotePort : Int
  localIP : Bytes
  serverIP : Bytes
  localIPType : Bytes
  localPort : Int
  mediaIP : Bytes
  mediaIPType : Bytes
  mediaPort : Int
  iceUfrag : Bytes
  icePwd : Bytes
  callID : Bytes
  cseq : Int
  callNumber : Int
  messageIndex : Int
  pid : Int
  users : Int
  userID : Int
  branchBase : Bytes
  lastMessage : Bytes
  lastHeaders : Headers
  bodyLength : Int
  sippVersion : Bytes
  clockTick : Int
  dynamicID : Int
  extraKeywords : Values
  vars : Values
  csvFieldOverrides : Overrides
  basePath : Bytes
  injectionFile : Bytes

/-- `Context{}`. -/
def Context.zero : Context where
  service := []
  transport := []
  remoteHost := []
  remoteIP := []
  remotePort := 0
  localIP := []
  serverIP := []
  localIPType := []
  localPort := 0
  mediaIP := []
  mediaIPType := []
  mediaPort := 0
  iceUfrag := []
  icePwd := []
  callID := []
  cseq := 0
  callNumber := 0
  messageIndex := 0
  pid := 0
  users := 0
  userID := 0
  branchBase := []
  lastMessage := []
  lastHeaders := []
  bodyLength := 0
  sippVersion := []
  clockTick := 0
  dynamicID := 0
  extraKeywords := []
  vars := []
  csvFieldOverrides := []
  basePath := []
  injectionFile := []

/-- `firstLineFromMessage`. -/
def firstLineFromMessage (msg : Bytes) : Bytes :=
  let line := msg.takeWhile (· ≠ lf)
  if lf ∈ msg then trimSuffix line [cr] else line

/-- The sign characters of an offset. -/
abbrev plus : UInt8 := 0x2B
abbrev minus : UInt8 := 0x2D
abbrev equals : UInt8 := 0x3D
abbrev dollar : UInt8 := 0x24
abbrev quote : UInt8 := 0x22

/-- The loop of `parseArithmetic`; `front` is the text before the position, in
reverse. -/
def parseArithmeticFrom : Bytes → Bytes → Option (Bytes × Int)
  | _, [] => none
  | front, b :: rest =>
    if b = plus ∨ b = minus then
      match atoi (b :: rest) with
      | (n, none) => some (front.reverse, n)
      | (_, some _) => parseArithmeticFrom (b :: front) rest
    else parseArithmeticFrom (b :: front) rest

/-- `parseArithmetic`: a keyword and its offset. -/
def parseArithmetic (value : Bytes) : Bytes × Int :=
  match value with
  | [] => ([], 0)
  | b :: rest => (parseArithmeticFrom [b] rest).getD (value, 0)

/-- `resolvePath`. -/
def resolvePath (basePath name : Bytes) : Bytes :=
  if isAbs name ∨ basePath = [] then name else joinPath basePath name

/-- The text between the first `<` and the first `>`, when they stand in that order. -/
def angled (value : Bytes) : Bytes :=
  match indexByte value 0x3C, indexByte value 0x3E with
  | some start, some stop =>
    if start < stop then (value.take stop).drop (start + 1) else value
  | _, _ => value

/-- `fillByPattern`, whose loop writes the seed until there are enough bytes. -/
def fillByPattern (seed : Bytes) (length : Int) : Bytes :=
  if length ≤ 0 then []
  else ((List.replicate length.toNat seed).flatten).take length.toNat

section Keywords

variable [CaseTables]

/-- `transportName`. -/
def transportName (mode : Bytes) : Bytes :=
  let name := toLower (trimSpace mode)
  if name ∈ [ascii "u1", ascii "un", ascii "ui"] then ascii "udp"
  else if name ∈ [ascii "t1", ascii "tn"] then ascii "tcp"
  else if name ∈ [ascii "l1", ascii "ln"] then ascii "tls"
  else if name ∈ [ascii "webrtc", ascii "wss", ascii "ws"] then ascii "wss"
  else mode

/-- `lookupHeader`. -/
def lookupHeader (env : Environment) (headers : Headers) (name : Bytes) :
    Option (List Bytes) :=
  ((env.order.arrange headers).find? fun entry => equalFold entry.1 name).map Prod.snd

/-- `renderLastHeader`. -/
def renderLastHeader (name : Bytes) (values : List Bytes) (includeName : Bool) : Bytes :=
  let start := toLower name ++ [colon]
  join (values.map fun value =>
    if includeName then
      if hasPrefix (toLower (trimSpace value)) start then value
      else name ++ ascii ": " ++ value
    else value) crlf

/-- `extractPeerTag`. -/
def extractPeerTag (env : Environment) (headers : Headers) : Bytes :=
  match (lookupHeader env headers (ascii "To")).bind List.getLast? with
  | none => []
  | some value =>
    ((split value [semicolon]).findSome? fun part =>
      let part := trimSpace part
      if 4 ≤ part.length ∧ hasPrefix (toLower part) (ascii "tag=") then
        some (trimSpace (part.drop 4))
      else none).getD []

/-- `extractCSeqNumber`. -/
def extractCSeqNumber (env : Environment) (headers : Headers) : Bytes :=
  match (lookupHeader env headers (ascii "CSeq")).bind List.head? with
  | none => []
  | some value => ((fields value).head?).getD []

/-- `extractContactURI`. -/
def extractContactURI (env : Environment) (headers : Headers) : Bytes :=
  match (lookupHeader env headers (ascii "Contact")).bind List.head? with
  | none => []
  | some value => angled value

/-- The request URI of the last message, when it is a request. -/
def lastRequestURI (lastMessage : Bytes) : Option Bytes :=
  if trimSpace lastMessage = [] then none
  else
    match fields (trimSpace (firstLineFromMessage lastMessage)) with
    | method :: uri :: _ =>
      if hasPrefix (toUpper method) (ascii "SIP/2.0") then none else some uri
    | _ => none

/-- `extractLastRequestURI`. -/
def extractLastRequestURI (env : Environment) (lastMessage : Bytes) (headers : Headers) :
    Bytes :=
  match lastRequestURI lastMessage with
  | some uri => uri
  | none =>
    match (lookupHeader env headers (ascii "To")).bind List.head? with
    | none => []
    | some value => angled value

/-- `parseKeyParams`, in the order of the text; a later value replaces an earlier
one. -/
def parseKeyParams (value : Bytes) : Values :=
  (fields value).filterMap fun part =>
    (cut part equals).map fun (key, val) =>
      (toLower (trimSpace key), trim (trimSpace val) [quote])

/-- `params[name]`. -/
def param (params : Values) (name : String) : Bytes :=
  (params.reverse.lookup (ascii name)).getD []

/-- `renderFileToken`. -/
def renderFileToken (env : Environment) (key basePath : Bytes) : Option Bytes :=
  let name := param (parseKeyParams key) "name"
  if name = [] then none else env.readFile (resolvePath basePath name)

/-! ### Injection files -/

/-- `isIgnorableInfCSVRow`. -/
def isIgnorableInfCSVRow (record : List Bytes) : Bool :=
  match record with
  | [] => true
  | first :: _ =>
    hasPrefix (trimSpace first) (ascii "#") || record.all fun cell => trimSpace cell = []

/-- The byte order mark. -/
def byteOrderMark : Bytes := [0xEF, 0xBB, 0xBF]

/-- The distribution keywords of an injection file. -/
def distributions : List Bytes :=
  [ascii "SEQUENTIAL", ascii "RANDOM", ascii "USER"]

/-- `isSIPpInfDistributionKeyword`. -/
def isSIPpInfDistributionKeyword (s : Bytes) : Bool :=
  toUpper (trimSpace (trimPrefix s byteOrderMark)) ∈ distributions

/-- `isSIPpDistributionHeaderRecord`. -/
def isSIPpDistributionHeaderRecord (record : List Bytes) : Bool :=
  match record with
  | [] => false
  | first :: rest =>
    isSIPpInfDistributionKeyword first && rest.all fun cell => trimSpace cell = []

/-- `findInfDataRecordsStart`. -/
def findInfDataRecordsStart (records : List (List Bytes)) : Nat :=
  let i := (records.takeWhile isIgnorableInfCSVRow).length
  match records[i]? with
  | none => records.length
  | some record => if isSIPpDistributionHeaderRecord record then i + 1 else i

/-- `sniffFieldCSVCommaFromPeek`. -/
def sniffFieldCSVCommaFromPeek (peek : Bytes) : UInt8 :=
  ((split (trimPrefix peek byteOrderMark) [lf]).findSome? fun raw =>
    let line := trimSpace raw
    if line = [] ∨ hasPrefix line (ascii "#") ∨ toUpper line ∈ distributions then none
    else if 0x2C ∉ line ∧ semicolon ∉ line then none
    else if line.count 0x2C < line.count semicolon then some semicolon
    else some 0x2C).getD 0x2C

/-- `infDelimiterPeekBytes`. -/
def infDelimiterPeekBytes : Nat := 65536

/-- `getCachedCSV`: the records of a file and the index of its first data row. -/
def getCachedCSV (env : Environment) (path : Bytes) : Option (List (List Bytes) × Nat) :=
  (env.readFile path).bind fun content =>
    let comma := sniffFieldCSVCommaFromPeek (content.take infDelimiterPeekBytes)
    (env.readCSV comma content).map fun records => (records, findInfDataRecordsStart records)

omit [CaseTables] in
/-- `applyCSVFieldOverrides`. -/
def applyCSVFieldOverrides (fileKey : Bytes) (lineNumber : Int) (record : List Bytes)
    (overrides : Overrides) : List Bytes :=
  let byLine := ((overrides.lookup fileKey).bind (List.lookup lineNumber)).getD []
  byLine.foldl (fun record entry =>
    if entry.1 < 0 then record else record.set entry.1.toNat entry.2) record

/-- `csvRecordAt`, with `none` for an error and for a missing line. -/
def csvRecordAt (env : Environment) (basePath name : Bytes) (lineNumber : Int)
    (overrides : Overrides) (physicalLine : Bool) : Option (List Bytes) :=
  if lineNumber ≤ 0 then none
  else
    let path := resolvePath basePath name
    match getCachedCSV env path with
    | none => none
    | some (records, start) =>
      let dataRows := records.length - start
      if !physicalLine ∧ dataRows = 0 then none
      else
        let idx :=
          if physicalLine then lineNumber.toNat - 1
          else start + (lineNumber.toNat - 1) % dataRows
        (records[idx]?).map fun record =>
          applyCSVFieldOverrides path (idx + 1 : Nat) record overrides

omit [CaseTables] in
/-- `resolveLineNumber`. -/
def resolveLineNumber (raw : Bytes) (vars : Values) : Option Int :=
  let value := trimSpace raw
  if value = [] then none
  else
    let resolved :=
      if hasPrefix value [dollar] then
        (vars.lookup (trimPrefix value [dollar])).map trimSpace
      else some value
    resolved.bind fun value =>
      match atoi value with
      | (n, none) => if n ≤ 0 then none else some n
      | (_, some _) => none

/-- `renderFieldTokenWithVariables`. -/
def renderFieldTokenWithVariables (env : Environment) (key basePath : Bytes) (callNumber : Int)
    (vars : Values) (overrides : Overrides) (defaultInjectionFile : Bytes) :
    Option Bytes :=
  if !hasPrefix (toLower key) (ascii "field") then none
  else
    let (fieldName, params) := (cut key space).getD (key, [])
    match atoi (trimPrefix (toLower fieldName) (ascii "field")) with
    | (_, some _) => none
    | (fieldIndex, none) =>
      let parsed := parseKeyParams params
      let file := trimSpace (param parsed "file")
      let name := if file = [] then trimSpace defaultInjectionFile else file
      -- The default injection file is relative to the working directory.
      let csvBasePath := if file = [] then [] else basePath
      if name = [] then none
      else
        let rawLine := param parsed "line"
        let line :=
          if rawLine = [] then some (callNumber, false)
          else (resolveLineNumber rawLine vars).map fun n => (n, true)
        line.bind fun (lineNumber, explicitPhysicalLine) =>
          (csvRecordAt env csvBasePath name lineNumber overrides explicitPhysicalLine).bind
            fun record =>
              if fieldIndex < 0 then none
              else some ((record[fieldIndex.toNat]?).getD [])

omit [CaseTables] in
/-- `parseFillLength`. -/
def parseFillLength (env : Environment) (raw : Bytes) : Option Int :=
  let raw := trimSpace raw
  if raw = [] then none
  else
    match atoi raw with
    | (n, none) => some n
    | (_, some _) => env.parseFloat raw

/-- `renderFillToken`. -/
def renderFillToken (env : Environment) (key : Bytes) (vars : Values) : Option Bytes :=
  if !hasPrefix (toLower key) (ascii "fill") then none
  else
    let blanks := key.dropWhile fun b => b ≠ space ∧ b ≠ tab
    let params := parseKeyParams (blanks.drop 1)
    let varName := trimSpace (param params "variable")
    if varName = [] then none
    else
      (vars.lookup (trimPrefix varName [dollar])).bind fun rawLen =>
        (parseFillLength env rawLen).bind fun length =>
          if length < 0 then none
          else
            let text := param params "text"
            some (fillByPattern (if text = [] then ascii "X" else text) length)

end Keywords

end Gossipper.Template
