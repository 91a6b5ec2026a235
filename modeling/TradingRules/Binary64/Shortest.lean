import TradingRules.Binary64.Basic

namespace TradingRules.Binary64

inductive Tie
  | even
  | up
  deriving DecidableEq

structure Decimal where
  digits : Nat
  exponent : Int
  deriving DecidableEq

def Decimal.scaled (d : Decimal) : Nat × Nat :=
  if 0 ≤ d.exponent then (d.digits * Nat.pow 10 d.exponent.toNat * unitsOfOne, 1)
  else (d.digits * unitsOfOne, Nat.pow 10 (-d.exponent).toNat)

/-- Whether a decimal lies between the midpoints to the neighbours of a rank, the midpoints
included where rounding to even takes them to the rank. -/
def readsBack (rank : Nat) (d : Decimal) : Bool :=
  let (num, den) := d.scaled
  let twice := 2 * num
  let low := (units (rank - 1) + units rank) * den
  let high := (units rank + units (rank + 1)) * den
  if rank % 2 = 0 then low ≤ twice && twice ≤ high else low < twice && twice < high

/-- The place of the leading digit of a magnitude, searched upward from `10 ^ (n - 330)`. -/
def leadingPlace (magnitude : Nat) : Nat → Nat → Int
  | 0, n => n - 330
  | fuel + 1, n =>
    if magnitude * Nat.pow 10 330 < Nat.pow 10 (n + 1) * unitsOfOne then n - 330
    else leadingPlace magnitude fuel (n + 1)

/-- The digits of the magnitude cut off at `10 ^ exponent`, and how the next decimal of that grid
compares in distance. -/
def cut (magnitude : Nat) (exponent : Int) : Nat × Ordering :=
  let (num, den) :=
    if 0 ≤ exponent then (magnitude, Nat.pow 10 exponent.toNat * unitsOfOne)
    else (magnitude * Nat.pow 10 (-exponent).toNat, unitsOfOne)
  (num / den, compare (2 * (num % den)) den)

def onGrid (tie : Tie) (rank : Nat) (exponent : Int) : Option Decimal :=
  let (d, nearer) := cut (units rank) exponent
  let below : Decimal := ⟨d, exponent⟩
  let above : Decimal := ⟨d + 1, exponent⟩
  match readsBack rank below, readsBack rank above with
  | false, false => none
  | true, false => some below
  | false, true => some above
  | true, true =>
    match nearer with
    | .lt => some below
    | .gt => some above
    | .eq => if tie = .even ∧ d % 2 = 0 then some below else some above

/-- The first hit on the grids with `count` digits and more. -/
def search (tie : Tie) (rank : Nat) (place : Int) : Nat → Nat → Decimal
  | 0, count => ⟨(cut (units rank) (place - count)).1, place - count⟩
  | fuel + 1, count =>
    match onGrid tie rank (place - count) with
    | some d => d
    | none => search tie rank place fuel (count + 1)

def shortest (tie : Tie) (rank : Nat) : Decimal :=
  let d := search tie rank (leadingPlace (units rank) 660 0) 18 0
  if d.digits = 10 then ⟨1, d.exponent + 1⟩ else d

end TradingRules.Binary64
