import TradingRules.Vocabulary
import TradingRules.Binary64.Layout

namespace TradingRules

inductive ExitKind
  | manual
  | profitTarget
  | stopLoss
  | trailingStop
  | timeBased
  | indicatorBased
  deriving DecidableEq

def ExitKind.all : List ExitKind :=
  [.manual, .profitTarget, .stopLoss, .trailingStop, .timeBased, .indicatorBased]

def ExitKind.name : ExitKind → String
  | .manual => "manual"
  | .profitTarget => "profit_target"
  | .stopLoss => "stop_loss"
  | .trailingStop => "trailing_stop"
  | .timeBased => "time_based"
  | .indicatorBased => "indicator_based"

def leastParameter : Nat := 1

def greatestParameter : Nat := 200

def greatestPercent : Binary64 := .ofNat 50

/-- Positions of conditions count from one. -/
inductive Violation
  | missingNameOrConditions
  | noConditions
  | unknownParameter (indicator : Indicator) (name : String)
  | parameterOutOfRange (name : String) (value : UInt32)
  | compareIndicatorRequiresCross (operator : Operator)
  | compareValueNotApplicable (operator : Operator)
  | nonNumericValue (position : Nat) (value : String)
  | missingRangeBound (position : Nat)
  | invertedRange (position : Nat) (least greatest : Binary64)
  | exitValueOutOfRange (kind : ExitKind) (value : Binary64)
  | timePeriodOutOfRange (unit : TimeUnit) (value : UInt32)
  | unsupportedExitOperator (operator : Operator)
  | nonNumericExitValue (value : String)
  deriving DecidableEq

namespace Violation

def number (x : Binary64) : String :=
  x.text Binary64.messageLayout

def message : Violation → String
  | .missingNameOrConditions => "Please provide a name and add at least one condition."
  | .noConditions => "At least one condition is required"
  | .unknownParameter indicator name => s!"{indicator.name} has no parameter named '{name}'"
  | .parameterOutOfRange name value =>
    s!"{name} must be between {leastParameter} and {greatestParameter}, got {value}"
  | .compareIndicatorRequiresCross operator =>
    s!"a compare indicator only applies to crossing operators, not {operator.name}"
  | .compareValueNotApplicable operator => s!"operator {operator.name} takes no second value"
  | .nonNumericValue position value => s!"condition {position}: value '{value}' is not a number"
  | .missingRangeBound position =>
    s!"condition {position}: a range needs both a minimum and a maximum"
  | .invertedRange position least greatest =>
    s!"condition {position}: minimum ({number least}) is greater than maximum ({number greatest})"
  | .exitValueOutOfRange kind value =>
    s!"{kind.name} percentage must be between 0 and {number greatestPercent}, got {number value}"
  | .timePeriodOutOfRange unit value =>
    s!"{unit.name} must be between 1 and {unit.longest}, got {value}"
  | .unsupportedExitOperator operator =>
    s!"indicator-based exit does not support operator {operator.name}"
  | .nonNumericExitValue value => s!"indicator-based exit value '{value}' is not a number"

end Violation

end TradingRules
