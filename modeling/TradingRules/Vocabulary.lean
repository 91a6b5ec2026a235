import TradingRules.Text.LowerCase

namespace TradingRules

inductive UnknownWord
  | indicator (word : String)
  | operator (word : String)
  deriving DecidableEq

def UnknownWord.message : UnknownWord → String
  | .indicator word => s!"unknown indicator: {word}"
  | .operator word => s!"unknown operator: {word}"

inductive Indicator
  | rsi
  | macd
  | sma
  | ema
  | bollingerBands
  | stochastic
  | williamsR
  | atr
  | volume
  | close
  deriving DecidableEq

namespace Indicator

def all : List Indicator :=
  [.rsi, .macd, .sma, .ema, .bollingerBands, .stochastic, .williamsR, .atr, .volume, .close]

def name : Indicator → String
  | .rsi => "RSI"
  | .macd => "MACD"
  | .sma => "SMA"
  | .ema => "EMA"
  | .bollingerBands => "Bollinger_Bands"
  | .stochastic => "Stochastic"
  | .williamsR => "Williams_R"
  | .atr => "ATR"
  | .volume => "Volume"
  | .close => "Close"

def label : Indicator → String
  | .bollingerBands => "Bollinger Bands"
  | .williamsR => "Williams %R"
  | .close => "Price"
  | other => other.name

/-- The indicator of a name written in letters of any case. -/
def find (word : String) : Except UnknownWord Indicator :=
  match all.find? fun i ↦ Text.sameIgnoringAsciiCase i.name word with
  | some i => .ok i
  | none => .error (.indicator word)

end Indicator

inductive Parameter
  | period
  | fastPeriod
  | slowPeriod
  | signalPeriod
  | upperBand
  | lowerBand
  | kPeriod
  | dPeriod
  deriving DecidableEq

namespace Parameter

def all : List Parameter :=
  [.period, .fastPeriod, .slowPeriod, .signalPeriod, .upperBand, .lowerBand, .kPeriod, .dPeriod]

def name : Parameter → String
  | .period => "period"
  | .fastPeriod => "fast_period"
  | .slowPeriod => "slow_period"
  | .signalPeriod => "signal_period"
  | .upperBand => "upper_band"
  | .lowerBand => "lower_band"
  | .kPeriod => "k_period"
  | .dPeriod => "d_period"

def ofName? (s : String) : Option Parameter :=
  all.find? (·.name = s)

end Parameter

/-- What a comparison is made with: one constant, two bounds or another series. -/
inductive Shape
  | scalar
  | range
  | cross
  deriving DecidableEq

def Shape.name : Shape → String
  | .scalar => "Scalar"
  | .range => "Range"
  | .cross => "Cross"

inductive Operator
  | lessThan
  | greaterThan
  | equals
  | notEquals
  | crossesAbove
  | crossesBelow
  | between
  | outside
  deriving DecidableEq

namespace Operator

def all : List Operator :=
  [.lessThan, .greaterThan, .equals, .notEquals, .crossesAbove, .crossesBelow, .between, .outside]

def shape : Operator → Shape
  | .lessThan | .greaterThan | .equals | .notEquals => .scalar
  | .between | .outside => .range
  | .crossesAbove | .crossesBelow => .cross

def name : Operator → String
  | .lessThan => "less_than"
  | .greaterThan => "greater_than"
  | .equals => "equals"
  | .notEquals => "not_equals"
  | .crossesAbove => "crosses_above"
  | .crossesBelow => "crosses_below"
  | .between => "between"
  | .outside => "outside"

def symbol : Operator → String
  | .lessThan => "<"
  | .greaterThan => ">"
  | .equals => "="
  | .notEquals => "!="
  | .crossesAbove => "crosses above"
  | .crossesBelow => "crosses below"
  | .between => "between"
  | .outside => "outside"

def find (word : String) : Except UnknownWord Operator :=
  match all.find? (·.name = word) with
  | some o => .ok o
  | none => .error (.operator word)

end Operator

inductive Connective
  | and
  | or
  deriving DecidableEq

def Connective.all : List Connective :=
  [.and, .or]

def Connective.default : Connective := .and

def Connective.name : Connective → String
  | .and => "AND"
  | .or => "OR"

inductive Direction
  | long
  | short
  deriving DecidableEq

def Direction.all : List Direction :=
  [.long, .short]

def Direction.default : Direction := .long

def Direction.name : Direction → String
  | .long => "LONG"
  | .short => "SHORT"

inductive TimeUnit
  | minutes
  | hours
  | days
  deriving DecidableEq

namespace TimeUnit

def all : List TimeUnit :=
  [.minutes, .hours, .days]

def default : TimeUnit := .days

def name : TimeUnit → String
  | .minutes => "minutes"
  | .hours => "hours"
  | .days => "days"

def longest : TimeUnit → Nat
  | .minutes => 1440
  | .hours => 8760
  | .days => 365

end TimeUnit

inductive Side
  | primary
  | compare
  deriving DecidableEq

/-- The number of a stored strategy. Stores count from one. -/
structure StrategyId where
  number : Int
  deriving DecidableEq

namespace StrategyId

def isSet (id : StrategyId) : Bool :=
  0 < id.number

def least : Int :=
  -0x8000000000000000

def greatest : Int :=
  0x7FFFFFFFFFFFFFFF

end StrategyId

end TradingRules
