import TradingRules.Violation

namespace TradingRules

def Indicator.schema : Indicator → List (Parameter × UInt32)
  | .rsi => [(.period, 14)]
  | .macd => [(.fastPeriod, 12), (.slowPeriod, 26), (.signalPeriod, 9)]
  | .sma => [(.period, 20)]
  | .ema => [(.period, 20)]
  | .bollingerBands => [(.period, 20), (.upperBand, 2), (.lowerBand, 2)]
  | .stochastic => [(.kPeriod, 14), (.dPeriod, 3)]
  | .williamsR => [(.period, 14)]
  | .atr => [(.period, 14)]
  | .volume => []
  | .close => []

inductive Series
  | rsi (period : UInt32)
  | macd (fast slow signal : UInt32)
  | sma (period : UInt32)
  | ema (period : UInt32)
  | bollingerBands (period upper lower : UInt32)
  | stochastic (k d : UInt32)
  | williamsR (period : UInt32)
  | atr (period : UInt32)
  | volume
  | close
  deriving DecidableEq

namespace Series

def standard : Indicator → Series
  | .rsi => .rsi 14
  | .macd => .macd 12 26 9
  | .sma => .sma 20
  | .ema => .ema 20
  | .bollingerBands => .bollingerBands 20 2 2
  | .stochastic => .stochastic 14 3
  | .williamsR => .williamsR 14
  | .atr => .atr 14
  | .volume => .volume
  | .close => .close

def indicator : Series → Indicator
  | .rsi _ => .rsi
  | .macd _ _ _ => .macd
  | .sma _ => .sma
  | .ema _ => .ema
  | .bollingerBands _ _ _ => .bollingerBands
  | .stochastic _ _ => .stochastic
  | .williamsR _ => .williamsR
  | .atr _ => .atr
  | .volume => .volume
  | .close => .close

def get? : Series → Parameter → Option UInt32
  | .rsi n, .period | .sma n, .period | .ema n, .period => some n
  | .williamsR n, .period | .atr n, .period => some n
  | .macd n _ _, .fastPeriod => some n
  | .macd _ n _, .slowPeriod => some n
  | .macd _ _ n, .signalPeriod => some n
  | .bollingerBands n _ _, .period => some n
  | .bollingerBands _ n _, .upperBand => some n
  | .bollingerBands _ _ n, .lowerBand => some n
  | .stochastic n _, .kPeriod => some n
  | .stochastic _ n, .dPeriod => some n
  | _, _ => none

/-- Gives a parameter a value; a parameter that is not the indicator's own changes nothing. -/
def put : Series → Parameter → UInt32 → Series
  | .rsi _, .period, n => .rsi n
  | .sma _, .period, n => .sma n
  | .ema _, .period, n => .ema n
  | .williamsR _, .period, n => .williamsR n
  | .atr _, .period, n => .atr n
  | .macd _ b c, .fastPeriod, n => .macd n b c
  | .macd a _ c, .slowPeriod, n => .macd a n c
  | .macd a b _, .signalPeriod, n => .macd a b n
  | .bollingerBands _ b c, .period, n => .bollingerBands n b c
  | .bollingerBands a _ c, .upperBand, n => .bollingerBands a n c
  | .bollingerBands a b _, .lowerBand, n => .bollingerBands a b n
  | .stochastic _ b, .kPeriod, n => .stochastic n b
  | .stochastic a _, .dPeriod, n => .stochastic a n
  | s, _, _ => s

/-- The series of an indicator with the values that are known by name; the others keep those they
start from. Only the indicator's own parameters are looked up. -/
def ofLookup (indicator : Indicator) (lookup : String → Option UInt32) : Series :=
  indicator.schema.foldl (fun s p ↦ ((lookup p.1.name).map (s.put p.1)).getD s) (standard indicator)

def named? (s : Series) (name : String) : Option UInt32 :=
  (Parameter.ofName? name).bind s.get?

def parameters (s : Series) : List (Parameter × UInt32) :=
  s.indicator.schema.filterMap fun p ↦ (s.get? p.1).map (p.1, ·)

def checkRange (name : String) (value : UInt32) : Except Violation Unit :=
  if leastParameter ≤ value.toNat ∧ value.toNat ≤ greatestParameter then .ok ()
  else .error (.parameterOutOfRange name value)

def set (s : Series) (name : String) (value : UInt32) : Except Violation Series := do
  checkRange name value
  match (Parameter.ofName? name).filter fun p ↦ (s.get? p).isSome with
  | some p => .ok (s.put p value)
  | none => .error (.unknownParameter s.indicator name)

def check (s : Series) : Except Violation Unit :=
  s.parameters.forM fun p ↦ checkRange p.1.name p.2

def text (s : Series) : String :=
  match s.parameters with
  | [] => s.indicator.label
  | ps => s.indicator.label ++ "(" ++ ",".intercalate (ps.map fun p ↦ toString p.2) ++ ")"

end Series

end TradingRules
