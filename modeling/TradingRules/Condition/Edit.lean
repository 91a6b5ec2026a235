import TradingRules.Condition.Basic

namespace TradingRules

inductive Edit
  /-- A new indicator, with the values its parameters start from. -/
  | indicator (i : Indicator)
  /-- A new operator; what it does not compare with is dropped. -/
  | operator (o : Operator)
  | value (s : String)
  | compareIndicator (i : Indicator)
  | compareValue (s : Option String)
  | parameter (side : Side) (name : String) (n : UInt32)
  deriving DecidableEq

namespace Rule

def withOperator (r : Rule) (o : Operator) : Rule :=
  { r with
    operator := o
    compareSeries := if o.shape = .cross then r.compareSeries else none
    compareValue := if o.shape = .scalar then none else r.compareValue }

def edit (r : Rule) : Edit → Except Violation Rule
  | .indicator i => .ok { r with series := .standard i }
  | .operator o => .ok (r.withOperator o)
  | .value s => .ok { r with value := s }
  | .compareIndicator i =>
    if r.operator.shape = .cross then .ok { r with compareSeries := some (.standard i) }
    else .error (.compareIndicatorRequiresCross r.operator)
  | .compareValue s =>
    if r.operator.shape = .scalar then .error (.compareValueNotApplicable r.operator)
    else .ok { r with compareValue := s }
  | .parameter .primary name n => do
    return { r with series := ← r.series.set name n }
  | .parameter .compare name n =>
    if r.operator.shape = .cross then do
      return { r with compareSeries := some (← r.compared.set name n) }
    else .error (.compareIndicatorRequiresCross r.operator)

end Rule

def Condition.edit (c : Condition) (e : Edit) : Except Violation Condition := do
  return { c with rule := ← c.rule.edit e }

end TradingRules
