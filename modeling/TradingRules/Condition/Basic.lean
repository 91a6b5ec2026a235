import TradingRules.Series

namespace TradingRules

structure Rule where
  series : Series
  operator : Operator
  /-- What was typed in: the constant, or the lower bound of a range. A crossing only shows it. -/
  value : String
  /-- The second series of a crossing; without one it is the price. -/
  compareSeries : Option Series
  /-- The upper bound of a range, or a remark on a crossing. -/
  compareValue : Option String
  deriving DecidableEq

namespace Rule

def ofOperator (indicator : Indicator) (operator : Operator) (value : String) : Rule :=
  ⟨.standard indicator, operator, value, none, none⟩

def crossing (primary compare : Indicator) (value : String) : Rule :=
  ⟨.standard primary, .crossesAbove, value, some (.standard compare), none⟩

def initial : Rule :=
  ofOperator .rsi .lessThan "30"

def added : Rule :=
  ofOperator .macd .crossesAbove "Signal Line"

def compared (r : Rule) : Series :=
  r.compareSeries.getD .close

/-- The second series, of which only a crossing makes use. -/
def usedSeries (r : Rule) : Option Series :=
  if r.operator.shape = .cross then r.compareSeries else none

/-- The second value, of which a comparison with a constant makes no use. -/
def usedValue (r : Rule) : Option String :=
  if r.operator.shape = .scalar then none else r.compareValue

def text (r : Rule) : String :=
  let start := r.series.text ++ " " ++ r.operator.symbol ++ " "
  match r.operator.shape with
  | .scalar => start ++ r.value
  | .range => start ++ r.value ++ " and " ++ r.compareValue.getD "?"
  | .cross => start ++ r.compared.text

/-- Whether the fields for comparison fit the operator: only a crossing has a second series, and a
comparison with a constant has no second value. -/
def Fits (r : Rule) : Prop :=
  (r.operator.shape ≠ .cross → r.compareSeries = none) ∧
    (r.operator.shape = .scalar → r.compareValue = none)

end Rule

/-- A rule with an identity. In a document the identity may be missing. -/
structure Condition (Id : Type := String) where
  id : Id
  rule : Rule
  deriving DecidableEq

def Condition.identify {m : Type → Type} [Monad m] (newId : m String)
    (c : Condition (Option String)) : m Condition :=
  match c.id with
  | some id => return ⟨id, c.rule⟩
  | none => return ⟨← newId, c.rule⟩

def Condition.stored (c : Condition) : Condition (Option String) :=
  ⟨some c.id, c.rule⟩

end TradingRules
