import TradingRules.Strategy.Basic
import TradingRules.Exit.Document

namespace TradingRules

def Connective.names : List (String × Connective) :=
  all.map fun c ↦ (c.name, c)

def Direction.names : List (String × Direction) :=
  all.map fun d ↦ (d.name, d)

namespace Strategy

inductive Field
  | conditions
  | connective
  | direction
  | exit
  deriving DecidableEq

def Field.all : List Field :=
  [.conditions, .connective, .direction, .exit]

def Field.spellings : Field → List String
  | .conditions => ["conditions"]
  | .connective => ["logicalOperator"]
  | .direction => ["action"]
  | .exit => ["exitCondition"]

def empty : Strategy (Option String) :=
  ⟨[], .default, .default, .default⟩

def readField (origin : Origin) (i : Field) (s : Source) (st : Strategy (Option String)) :
    Except DocumentError (Strategy (Option String)) := do
  match i with
  | .conditions =>
    let cs ← Decoder.nullable (Decoder.list Condition.decoder) origin s
    return { st with conditions := cs.getD [] }
  | .connective =>
    let c ← Decoder.nullable (Decoder.choice Connective.names) origin s
    return { st with connective := c.getD .default }
  | .direction =>
    let d ← Decoder.nullable (Decoder.choice Direction.names) origin s
    return { st with direction := d.getD .default }
  | .exit =>
    let e ← Decoder.nullable Exit.decoder origin s
    return { st with exit := e.getD .default }

def record : Decoder.Record Field (Strategy (Option String)) (Strategy (Option String)) where
  title := "struct StrategyConfiguration"
  fields := Field.all
  spellings := Field.spellings
  start := .empty
  read := readField
  finish := fun _ st ↦ .ok st

def decoder : Decoder (Strategy (Option String)) :=
  record.decode

def toJson (s : Strategy) : Json :=
  .object [("conditions", .array (s.conditions.map (·.toJson))),
    ("logicalOperator", .string s.connective.name), ("action", .string s.direction.name),
    ("exitCondition", s.exit.toJson)]

end Strategy

def StrategyId.decoder : Decoder StrategyId := fun origin s ↦ do
  return ⟨← Decoder.integer least greatest "i64" origin s⟩

def StrategyId.toJson (id : StrategyId) : Json :=
  .number (.integer id.number)

def Instant.decoder : Decoder Instant := fun _ s ↦
  match s with
  | .string (some t) => (Time.readLoose t).mapError .badTime
  | s => s.refuse "an RFC 3339 formatted date and time string"

namespace SavedStrategy

inductive Field
  | id
  | name
  | strategy
  | createdAt
  | updatedAt
  deriving DecidableEq

def Field.all : List Field :=
  [.id, .name, .strategy, .createdAt, .updatedAt]

def Field.spellings : Field → List String
  | .id => ["id"]
  | .name => ["name"]
  | .strategy => ["configuration"]
  | .createdAt => ["created_at"]
  | .updatedAt => ["updated_at"]

structure Bag where
  id : Option StrategyId
  name : Option String
  strategy : Option (Strategy (Option String))
  createdAt : Option Instant
  updatedAt : Option Instant

namespace Bag

def empty : Bag :=
  ⟨none, none, none, none, none⟩

def read (origin : Origin) (i : Field) (s : Source) (b : Bag) : Except DocumentError Bag := do
  match i with
  | .id => return { b with id := some (← StrategyId.decoder origin s) }
  | .name => return { b with name := some (← Decoder.string origin s) }
  | .strategy => return { b with strategy := some (← Strategy.decoder origin s) }
  | .createdAt => return { b with createdAt := ← Decoder.nullable Instant.decoder origin s }
  | .updatedAt => return { b with updatedAt := ← Decoder.nullable Instant.decoder origin s }

def finish (absent : Field → DocumentError) (b : Bag) :
    Except DocumentError (SavedStrategy (Option String)) :=
  match b.id, b.name, b.strategy with
  | none, _, _ => .error (absent .id)
  | _, none, _ => .error (absent .name)
  | _, _, none => .error (absent .strategy)
  | some id, some name, some strategy => .ok ⟨id, name, strategy, b.createdAt, b.updatedAt⟩

end Bag

def record : Decoder.Record Field Bag (SavedStrategy (Option String)) where
  title := "struct SavedStrategy"
  fields := Field.all
  spellings := Field.spellings
  start := .empty
  read := Bag.read
  finish := Bag.finish

def decoder : Decoder (SavedStrategy (Option String)) :=
  record.decode

def timeMember (name : String) (t : Option Instant) : List (String × Json) :=
  t.toList.map fun t ↦ (name, .string t.text)

def toJson (s : SavedStrategy) : Json :=
  .object ([("id", s.id.toJson), ("name", .string s.name), ("configuration", s.strategy.toJson)] ++
    timeMember "created_at" s.createdAt ++ timeMember "updated_at" s.updatedAt)

end SavedStrategy

namespace Listing

inductive Field
  | id
  | name
  deriving DecidableEq

def Field.spellings : Field → List String
  | .id => ["id"]
  | .name => ["name"]

def readField (origin : Origin) (i : Field) (s : Source)
    (b : Option StrategyId × Option String) :
    Except DocumentError (Option StrategyId × Option String) := do
  match i with
  | .id => return (some (← StrategyId.decoder origin s), b.2)
  | .name => return (b.1, some (← Decoder.string origin s))

def record : Decoder.Record Field (Option StrategyId × Option String) Listing where
  title := "struct StrategySummary"
  fields := [.id, .name]
  spellings := Field.spellings
  start := (none, none)
  read := readField
  finish := fun absent b ↦
    match b with
    | (none, _) => .error (absent .id)
    | (_, none) => .error (absent .name)
    | (some id, some name) => .ok ⟨id, name⟩

def decoder : Decoder Listing :=
  record.decode

def toJson (l : Listing) : Json :=
  .object [("id", l.id.toJson), ("name", .string l.name)]

end Listing

end TradingRules
