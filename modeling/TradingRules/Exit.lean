import TradingRules.Violation
import TradingRules.Binary64.Numeral

namespace TradingRules

inductive Exit
  /-- The position is closed when the conditions reverse. -/
  | manual
  | profitTarget (percent : Binary64)
  | stopLoss (percent : Binary64)
  | trailingStop (percent : Binary64)
  | timeBased (period : UInt32) (unit : TimeUnit)
  | indicatorBased (indicator : Indicator) (operator : Operator) (value : String)
  deriving DecidableEq

namespace Exit

def default : Exit := .manual

def kind : Exit → ExitKind
  | .manual => .manual
  | .profitTarget _ => .profitTarget
  | .stopLoss _ => .stopLoss
  | .trailingStop _ => .trailingStop
  | .timeBased _ _ => .timeBased
  | .indicatorBased _ _ _ => .indicatorBased

def percent? : Exit → Option Binary64
  | .profitTarget x | .stopLoss x | .trailingStop x => some x
  | _ => none

def withPercent : Exit → Binary64 → Exit
  | .profitTarget _, x => .profitTarget x
  | .stopLoss _, x => .stopLoss x
  | .trailingStop _, x => .trailingStop x
  | e, _ => e

def standard : ExitKind → Exit
  | .manual => .manual
  | .profitTarget => .profitTarget (.ofNat 10)
  | .stopLoss => .stopLoss (.ofNat 5)
  | .trailingStop => .trailingStop (.ofNat 5)
  | .timeBased => .timeBased 7 .default
  | .indicatorBased => .indicatorBased .rsi .greaterThan "70"

/-- An exit of another kind, which keeps the percentage if both have one. -/
def withKind (e : Exit) (k : ExitKind) : Exit :=
  if e.kind = k then e
  else match e.percent? with
    | some x => (standard k).withPercent x
    | none => standard k

def checkPercent (kind : ExitKind) (x : Binary64) : Except Violation Unit :=
  if Binary64.zero.lt x && x.le greatestPercent then .ok ()
  else .error (.exitValueOutOfRange kind x)

def check (e : Exit) : Except Violation Unit :=
  match e with
  | .manual => .ok ()
  | .profitTarget x | .stopLoss x | .trailingStop x => checkPercent e.kind x
  | .timeBased period unit =>
    if 1 ≤ period.toNat ∧ period.toNat ≤ unit.longest then .ok ()
    else .error (.timePeriodOutOfRange unit period)
  | .indicatorBased _ operator value =>
    if operator = .lessThan ∨ operator = .greaterThan ∨ operator = .equals then
      if (Binary64.ofNumeral? (Text.trim value)).isSome then .ok ()
      else .error (.nonNumericExitValue value)
    else .error (.unsupportedExitOperator operator)

def text : Exit → String
  | .manual => "manual"
  | .profitTarget x => Violation.number x ++ "% profit target"
  | .stopLoss x => Violation.number x ++ "% stop loss"
  | .trailingStop x => Violation.number x ++ "% trailing stop"
  | .timeBased period unit => s!"hold {period} {unit.name}"
  | .indicatorBased indicator operator value =>
    indicator.label ++ " " ++ operator.symbol ++ " " ++ value

end Exit

inductive ExitPreset
  | manual
  | trailingStop5
  | profitTarget10
  | hold7Days
  deriving DecidableEq

namespace ExitPreset

def all : List ExitPreset :=
  [.manual, .trailingStop5, .profitTarget10, .hold7Days]

def label : ExitPreset → String
  | .manual => "Manual Exit"
  | .trailingStop5 => "5% Trailing Stop"
  | .profitTarget10 => "10% Profit Target"
  | .hold7Days => "7 Days Hold"

def description : ExitPreset → String
  | .manual => "Exit when conditions reverse"
  | .trailingStop5 => "Dynamic trailing stop to protect profits"
  | .profitTarget10 => "Exit at 10% profit"
  | .hold7Days => "Hold position for 7 days"

def exit : ExitPreset → Exit
  | .manual => .manual
  | .trailingStop5 => .trailingStop (.ofNat 5)
  | .profitTarget10 => .profitTarget (.ofNat 10)
  | .hold7Days => .timeBased 7 .days

end ExitPreset

def Exit.preset? (e : Exit) : Option ExitPreset :=
  ExitPreset.all.find? (·.exit = e)

end TradingRules
