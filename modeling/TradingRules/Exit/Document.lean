import TradingRules.Exit
import TradingRules.Condition.Document

namespace TradingRules

def ExitKind.names : List (String × ExitKind) :=
  all.map fun k ↦ (k.name, k)

def TimeUnit.names : List (String × TimeUnit) :=
  all.map fun u ↦ (u.name, u)

namespace Exit

inductive Field
  | type
  | value
  | timePeriod
  | timeUnit
  | indicator
  | operator
  | indicatorValue
  deriving DecidableEq

namespace Field

def all : List Field :=
  [.type, .value, .timePeriod, .timeUnit, .indicator, .operator, .indicatorValue]

def spellings : Field → List String
  | .type => ["type"]
  | .value => ["value"]
  | .timePeriod => ["timePeriod"]
  | .timeUnit => ["timeUnit"]
  | .indicator => ["indicator"]
  | .operator => ["operator"]
  | .indicatorValue => ["indicatorValue"]

end Field

structure Bag where
  type : Option ExitKind
  value : Option Binary64
  timePeriod : Option UInt32
  timeUnit : Option TimeUnit
  indicator : Option Indicator
  operator : Option Operator
  indicatorValue : Option String

namespace Bag

def empty : Bag :=
  ⟨none, none, none, none, none, none, none⟩

def read (origin : Origin) (i : Field) (s : Source) (b : Bag) : Except DocumentError Bag := do
  match i with
  | .type => return { b with type := ← Forgiving.choice ExitKind.names origin s }
  | .value => return { b with value := ← Forgiving.number origin s }
  | .timePeriod => return { b with timePeriod := ← Forgiving.count origin s }
  | .timeUnit => return { b with timeUnit := ← Forgiving.choice TimeUnit.names origin s }
  | .indicator => return { b with indicator := ← Forgiving.choice Indicator.names origin s }
  | .operator => return { b with operator := ← Forgiving.choice Operator.names origin s }
  | .indicatorValue => return { b with indicatorValue := ← Forgiving.text origin s }

def exit (b : Bag) : Exit :=
  match standard (b.type.getD Exit.default.kind) with
  | .manual => .manual
  | .profitTarget x => .profitTarget (b.value.getD x)
  | .stopLoss x => .stopLoss (b.value.getD x)
  | .trailingStop x => .trailingStop (b.value.getD x)
  | .timeBased n u => .timeBased (b.timePeriod.getD n) (b.timeUnit.getD u)
  | .indicatorBased i o v =>
    .indicatorBased (b.indicator.getD i) (b.operator.getD o) (b.indicatorValue.getD v)

end Bag

def record : Decoder.Record Field Bag Exit where
  title := "struct ExitDocument"
  fields := Field.all
  spellings := Field.spellings
  start := .empty
  read := Bag.read
  finish := fun _ b ↦ .ok b.exit

def decoder : Decoder Exit :=
  record.decode

def fieldMembers : Exit → List (String × Json)
  | .manual => []
  | .profitTarget x | .stopLoss x | .trailingStop x => [("value", .ofBinary64 x)]
  | .timeBased period unit =>
    [("timePeriod", .ofNat period.toNat), ("timeUnit", .string unit.name)]
  | .indicatorBased indicator operator value =>
    [("indicator", .string indicator.name), ("operator", .string operator.name),
      ("indicatorValue", .string value)]

def toJson (e : Exit) : Json :=
  .object (("type", .string e.kind.name) :: e.fieldMembers)

end Exit

end TradingRules
