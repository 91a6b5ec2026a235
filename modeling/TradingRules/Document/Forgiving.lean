import TradingRules.Document.Decoder
import TradingRules.Json.Writer
import TradingRules.Binary64.Numeral

namespace TradingRules.Forgiving

variable {α : Type}

def present : Decoder (Option Json) := fun origin s ↦ do
  match ← Decoder.json origin s with
  | .null => return none
  | v => return some v

def optional (use : Json → Option α) : Decoder (Option α) := fun origin s ↦ do
  return (← present origin s).bind use

/-- A whole number of 32 bits written in decimal digits, perhaps after a plus sign. -/
def digits? (s : String) : Option UInt32 := do
  let cs := match s.toList with
    | '+' :: rest => rest
    | cs => cs
  if cs = [] then none
  else
    let n ← Binary64.digitsValue? cs
    if n < UInt32.size then some (.ofNat n) else none

def wholeNumber? : Number → Option Nat
  | .integer n => if 0 ≤ n then some n.toNat else none
  | .real x => x.toNat?

def countOf : Json → Option UInt32
  | .number n => do
    let n ← wholeNumber? n
    if n < UInt32.size then some (.ofNat n) else none
  | .string s => digits? (Text.trim s)
  | _ => none

def numberOf (v : Json) : Option Binary64 :=
  let x? := match v with
    | .number n => some n.toBinary64
    | .string s => Binary64.ofNumeral? (Text.trim s)
    | _ => none
  x?.filter (·.isFinite)

/-- A string as it is, any other value in its JSON spelling. -/
def textOf : Json → String
  | .string s => s
  | v => v.compact

/-- A whole number that is not negative and has 32 bits, as a number or as a string. -/
def count : Decoder (Option UInt32) :=
  optional countOf

def number : Decoder (Option Binary64) :=
  optional numberOf

def text : Decoder (Option String) :=
  optional fun v ↦ some (textOf v)

def choice (names : List (String × α)) : Decoder (Option α) :=
  optional fun v ↦ (Decoder.ofJson (Decoder.choice names) v).toOption

end TradingRules.Forgiving
