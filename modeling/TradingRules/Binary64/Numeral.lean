import TradingRules.Binary64.Basic
import TradingRules.Text.Blank
import TradingRules.Text.LowerCase

namespace TradingRules.Binary64

def digitsValue? (cs : List Char) : Option Nat :=
  if cs.all Char.isDigit then
    some (cs.foldl (fun n c ↦ 10 * n + (c.toNat - 48)) 0)
  else none

def signedDigits? (cs : List Char) : Option Int :=
  match cs with
  | [] => none
  | '-' :: rest => if rest = [] then none else (digitsValue? rest).map (-·)
  | '+' :: rest => if rest = [] then none else (digitsValue? rest).map (·)
  | _ => (digitsValue? cs).map (·)

def splitExponent? (cs : List Char) : Option (List Char × Int) :=
  let isMark := fun c ↦ c = 'e' || c = 'E'
  match cs.dropWhile (!isMark ·) with
  | [] => some (cs, 0)
  | _ :: rest => (signedDigits? rest).map fun e ↦ (cs.takeWhile (!isMark ·), e)

/-- An unsigned decimal: digits, at least one of them, around an optional point. -/
def decimal? (cs : List Char) : Option (Nat × Int) := do
  let (body, exponent) ← splitExponent? cs
  let whole := body.takeWhile (· ≠ '.')
  let fraction := (body.dropWhile (· ≠ '.')).drop 1
  if whole = [] ∧ fraction = [] then none
  else
    let digits ← digitsValue? (whole ++ fraction)
    some (digits, exponent - fraction.length)

def unsigned? (negative : Bool) (cs : List Char) : Option Binary64 :=
  let name := cs.map Char.toLower
  if name = ['n', 'a', 'n'] then some .nan
  else if name = ['i', 'n', 'f'] ∨ name = ['i', 'n', 'f', 'i', 'n', 'i', 't', 'y'] then
    some (.infinite negative)
  else (decimal? cs).map fun (digits, exponent) ↦ ofDecimal negative digits exponent

def ofNumeral? (s : String) : Option Binary64 :=
  match s.toList with
  | '-' :: rest => unsigned? true rest
  | '+' :: rest => unsigned? false rest
  | cs => unsigned? false cs

end TradingRules.Binary64
