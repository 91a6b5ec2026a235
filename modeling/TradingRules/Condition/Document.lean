import TradingRules.Condition.Basic
import TradingRules.Document.Forgiving

namespace TradingRules

def Indicator.names : List (String × Indicator) :=
  all.map fun i ↦ (i.name, i)

def Operator.names : List (String × Operator) :=
  all.map fun o ↦ (o.name, o)

def Parameter.compareName : Parameter → String
  | .period => "comparePeriod"
  | .fastPeriod => "compareFastPeriod"
  | .slowPeriod => "compareSlowPeriod"
  | .signalPeriod => "compareSignalPeriod"
  | .upperBand => "compareUpperBand"
  | .lowerBand => "compareLowerBand"
  | .kPeriod => "compareKPeriod"
  | .dPeriod => "compareDPeriod"

/-- An older spelling of that field. -/
def Parameter.compareAlias : Parameter → List String
  | .period => []
  | .fastPeriod => ["compareFast_period"]
  | .slowPeriod => ["compareSlow_period"]
  | .signalPeriod => ["compareSignal_period"]
  | .upperBand => ["compareUpper_band"]
  | .lowerBand => ["compareLower_band"]
  | .kPeriod => ["compareK_period"]
  | .dPeriod => ["compareD_period"]

namespace Condition

inductive Field
  | id
  | indicator
  | operator
  | value
  | compareIndicator
  | compareValue
  | parameter (side : Side) (p : Parameter)
  deriving DecidableEq

namespace Field

def all : List Field :=
  [.id, .indicator, .operator, .value, .compareIndicator, .compareValue] ++
    Parameter.all.map (.parameter .primary) ++ Parameter.all.map (.parameter .compare)

def spellings : Field → List String
  | .id => ["id"]
  | .indicator => ["indicator"]
  | .operator => ["operator"]
  | .value => ["value"]
  | .compareIndicator => ["compareIndicator"]
  | .compareValue => ["compareValue"]
  | .parameter .primary p => [p.name]
  | .parameter .compare p => p.compareName :: p.compareAlias

end Field

structure Bag where
  id : Option String
  indicator : Option Indicator
  operator : Option Operator
  value : Option String
  compareIndicator : Option Indicator
  compareValue : Option String
  count : Side → Parameter → Option UInt32

namespace Bag

def empty : Bag :=
  ⟨none, none, none, none, none, none, fun _ _ ↦ none⟩

def putCount (b : Bag) (side : Side) (p : Parameter) (n : Option UInt32) : Bag :=
  { b with count := fun s q ↦ if s = side ∧ q = p then n else b.count s q }

def read (origin : Origin) (i : Field) (s : Source) (b : Bag) : Except DocumentError Bag := do
  match i with
  | .id => return { b with id := some (← Decoder.string origin s) }
  | .indicator => return { b with indicator := some (← Decoder.choice Indicator.names origin s) }
  | .operator => return { b with operator := some (← Decoder.choice Operator.names origin s) }
  | .value => return { b with value := ← Forgiving.text origin s }
  | .compareIndicator =>
    return { b with
      compareIndicator := ← Decoder.nullable (Decoder.choice Indicator.names) origin s }
  | .compareValue => return { b with compareValue := ← Forgiving.text origin s }
  | .parameter side p => return b.putCount side p (← Forgiving.count origin s)

def parameter? (b : Bag) (side : Side) (name : String) : Option UInt32 :=
  (Parameter.ofName? name).bind (b.count side)

/-- The rule of a bag with these two fields, made from those of the others that apply. -/
def rule (b : Bag) (indicator : Indicator) (operator : Operator) : Rule where
  series := .ofLookup indicator (b.parameter? .primary)
  operator := operator
  value := b.value.getD ""
  compareSeries :=
    if operator.shape = .cross then
      b.compareIndicator.map fun i ↦ .ofLookup i (b.parameter? .compare)
    else none
  compareValue := if operator.shape = .scalar then none else b.compareValue

def finish (absent : Field → DocumentError) (b : Bag) :
    Except DocumentError (Condition (Option String)) :=
  match b.indicator, b.operator with
  | none, _ => .error (absent .indicator)
  | _, none => .error (absent .operator)
  | some i, some o => .ok ⟨b.id, b.rule i o⟩

end Bag

def record : Decoder.Record Field Bag (Condition (Option String)) where
  title := "struct ConditionDocument"
  fields := Field.all
  spellings := Field.spellings
  start := .empty
  read := Bag.read
  finish := Bag.finish

def decoder : Decoder (Condition (Option String)) :=
  record.decode

def parameterMembers (name : Parameter → String) (s : Series) : List (String × Json) :=
  Parameter.all.filterMap fun p ↦ (s.get? p).map fun n ↦ (name p, .ofNat n.toNat)

def members (c : Condition) : List (String × Json) :=
  [("id", .string c.id), ("indicator", .string c.rule.series.indicator.name),
    ("operator", .string c.rule.operator.name), ("value", .string c.rule.value)] ++
  (match c.rule.usedSeries with
    | some s => [("compareIndicator", .string s.indicator.name)]
    | none => []) ++
  (match c.rule.usedValue with
    | some s => [("compareValue", .string s)]
    | none => []) ++
  parameterMembers Parameter.name c.rule.series ++
  (match c.rule.usedSeries with
    | some s => parameterMembers Parameter.compareName s
    | none => [])

def toJson (c : Condition) : Json :=
  .object c.members

end Condition

end TradingRules
