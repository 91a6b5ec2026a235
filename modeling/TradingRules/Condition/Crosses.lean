import TradingRules.Condition.Basic

namespace TradingRules

structure Crossing where
  label : String
  primary : Indicator
  compare : Indicator
  value : String
  deriving DecidableEq

namespace Crossing

def common : List Crossing := [
  ⟨"SMA crosses EMA", .sma, .ema, ""⟩,
  ⟨"EMA crosses SMA", .ema, .sma, ""⟩,
  ⟨"Price crosses SMA", .close, .sma, ""⟩,
  ⟨"Price crosses EMA", .close, .ema, ""⟩,
  ⟨"RSI crosses 30", .rsi, .close, "30"⟩,
  ⟨"RSI crosses 70", .rsi, .close, "70"⟩,
  ⟨"MACD crosses Signal", .macd, .macd, "Signal Line"⟩,
  ⟨"Stochastic crosses 20", .stochastic, .close, "20"⟩,
  ⟨"Stochastic crosses 80", .stochastic, .close, "80"⟩]

def rule (c : Crossing) : Rule :=
  .crossing c.primary c.compare c.value

end Crossing

end TradingRules
