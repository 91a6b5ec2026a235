import TradingRules.Condition.Basic
import TradingRules.Exit
import TradingRules.Time.Instant

namespace TradingRules

structure Strategy (Id : Type := String) where
  conditions : List (Condition Id)
  connective : Connective
  direction : Direction
  exit : Exit
  deriving DecidableEq

namespace Strategy

def initial (id : String) : Strategy :=
  ⟨[⟨id, .initial⟩], .and, .long, .manual⟩

def text (s : Strategy) : String :=
  let rules := match s.conditions with
    | [] => "(no conditions)"
    | cs => (" " ++ s.connective.name ++ " ").intercalate (cs.map (·.rule.text))
  "IF " ++ rules ++ " THEN " ++ s.direction.name ++ ", EXIT " ++ s.exit.text

def checkSeries (r : Rule) : Except Violation Unit := do
  r.series.check
  match r.compareSeries with
  | some s => s.check
  | none => .ok ()

def checkedNumber (position : Nat) (value : String) : Except Violation Binary64 :=
  match (Binary64.ofNumeral? (Text.trim value)).filter (·.isFinite) with
  | some x => .ok x
  | none => .error (.nonNumericValue position value)

def checkRule (position : Nat) (r : Rule) : Except Violation Unit := do
  checkSeries r
  match r.operator.shape with
  | .scalar =>
    let _ ← checkedNumber position r.value
  | .range =>
    match Text.isBlankText r.value, r.compareValue.filter (!Text.isBlankText ·) with
    | false, some upper =>
      let least ← checkedNumber position r.value
      let greatest ← checkedNumber position upper
      if greatest.lt least then .error (.invertedRange position least greatest)
    | _, _ => .error (.missingRangeBound position)
  | .cross => return

/-- Checks rules at the positions from `position` on. -/
def checkRules (position : Nat) : List Rule → Except Violation Unit
  | [] => .ok ()
  | r :: rest => do
    checkRule position r
    checkRules (position + 1) rest

def check (s : Strategy) : Except Violation Unit :=
  if s.conditions = [] then .error .noConditions
  else do
    checkRules 1 (s.conditions.map (·.rule))
    s.exit.check

def identify {m : Type → Type} [Monad m] (newId : m String)
    (s : Strategy (Option String)) : m Strategy := do
  return ⟨← s.conditions.mapM (·.identify newId), s.connective, s.direction, s.exit⟩

def stored (s : Strategy) : Strategy (Option String) :=
  ⟨s.conditions.map (·.stored), s.connective, s.direction, s.exit⟩

end Strategy

structure SavedStrategy (Id : Type := String) where
  id : StrategyId
  name : String
  strategy : Strategy Id
  createdAt : Option Instant
  updatedAt : Option Instant
  deriving DecidableEq

structure Listing where
  id : StrategyId
  name : String
  deriving DecidableEq

namespace SavedStrategy

def listing {Id : Type} (s : SavedStrategy Id) : Listing :=
  ⟨s.id, s.name⟩

def identify {m : Type → Type} [Monad m] (newId : m String)
    (s : SavedStrategy (Option String)) : m SavedStrategy := do
  return ⟨s.id, s.name, ← s.strategy.identify newId, s.createdAt, s.updatedAt⟩

def stored (s : SavedStrategy) : SavedStrategy (Option String) :=
  ⟨s.id, s.name, s.strategy.stored, s.createdAt, s.updatedAt⟩

end SavedStrategy

end TradingRules
