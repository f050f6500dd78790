/-
Module: Gossipper.Scenario.Distribution
Purpose: How a pause is read from its attributes, after
  `internal/distribution/distribution.go`.
Trusted boundary: `float64` is a parameter: its comparisons, `strconv.ParseFloat`
  and the conversion to a duration.
Main exports: Float64, Sampler, DistributionError, newFromXML
-/
import Gossipper.Go.Number

namespace Gossipper.Scenario

open Go

/-- What the code uses of `float64`.  A comparison is false when one side is not a
number; `milliseconds x` is `time.Duration(x * float64(time.Millisecond))`. -/
class Float64 (F : Type) where
  zero : F
  one : F
  lt : F → F → Bool
  eq : F → F → Bool
  parseFloat : Bytes → Option F
  milliseconds : F → Int

/-- The samplers, with their durations in nanoseconds. -/
inductive Sampler where
  | fixed (value : Int)
  | uniform (min max : Int)
  | normal (mean stdev : Int)
deriving DecidableEq, Repr

/-- The distributions that the attribute can name. -/
inductive DistributionType where
  | fixed
  | uniform
  | normal
deriving DecidableEq, Repr

/-- The errors of `NewFromXML`; an error about one attribute names it. -/
inductive DistributionError where
  | invalid (distribution : DistributionType) (field : Bytes)
  | required (distribution : DistributionType) (field : Bytes)
  | negative (distribution : DistributionType) (field : Bytes)
  | minAboveMax (min max : Int)
  | bothZero
  | unsupported (distType : Bytes)
deriving DecidableEq, Repr

/-- `time.Millisecond`. -/
def millisecond : Int := 1000000

/-- `parseDurationMs`; `none` stands for an error. -/
def parseDurationMs (value : Bytes) : Option Int :=
  let value := trimSpace value
  if value = [] then some 0
  else
    match atoi value with
    | (_, some _) => none
    | (ms, none) => if ms < 0 then none else some (mulInt ms millisecond)

section NewFromXML

variable {F : Type} [Float64 F]

/-- `parseFloat`. -/
def parseFloat (value : Bytes) : Option F :=
  let value := trimSpace value
  if value = [] then some Float64.zero else Float64.parseFloat value

/-- `x < 0`. -/
def isNegative (x : F) : Bool :=
  Float64.lt x Float64.zero

variable (F)

/-- The case of a uniform distribution. -/
def newUniform (min max : Bytes) : Except DistributionError Sampler := do
  if trimSpace min = [] then throw (.required .uniform (ascii "min"))
  if trimSpace max = [] then throw (.required .uniform (ascii "max"))
  let some minFloat := parseFloat (F := F) min | throw (.invalid .uniform (ascii "min"))
  let some maxFloat := parseFloat (F := F) max | throw (.invalid .uniform (ascii "max"))
  if isNegative minFloat then throw (.negative .uniform (ascii "min"))
  if isNegative maxFloat then throw (.negative .uniform (ascii "max"))
  let minMs := Float64.milliseconds minFloat
  let maxMs := Float64.milliseconds maxFloat
  if maxMs < minMs then throw (.minAboveMax minMs maxMs)
  return .uniform minMs maxMs

/-- The case of a normal distribution. -/
def newNormal (mean stdev : Bytes) : Except DistributionError Sampler := do
  if trimSpace mean = [] then throw (.required .normal (ascii "mean"))
  if trimSpace stdev = [] then throw (.required .normal (ascii "stdev"))
  let some meanFloat := parseFloat (F := F) mean | throw (.invalid .normal (ascii "mean"))
  let some stdevFloat := parseFloat (F := F) stdev | throw (.invalid .normal (ascii "stdev"))
  if isNegative meanFloat then throw (.negative .normal (ascii "mean"))
  if isNegative stdevFloat then throw (.negative .normal (ascii "stdev"))
  if Float64.eq meanFloat Float64.zero && Float64.eq stdevFloat Float64.zero then
    throw .bothZero
  return .normal (Float64.milliseconds meanFloat) (Float64.milliseconds stdevFloat)

/-- `NewFromXML`. -/
def newFromXML [CaseTables] (distType milliseconds mean stdev min max : Bytes) :
    Except DistributionError Sampler :=
  let distType := if distType = [] then ascii "fixed" else distType
  let lowered := toLower distType
  if lowered = ascii "fixed" then
    match parseDurationMs milliseconds with
    | some ms => .ok (.fixed ms)
    | none => .error (.invalid .fixed (ascii "milliseconds"))
  else if lowered = ascii "uniform" then newUniform F min max
  else if lowered = ascii "normal" then newNormal F mean stdev
  else .error (.unsupported distType)

end NewFromXML

end Gossipper.Scenario
