import TradingRules.Binary64.Shortest

namespace TradingRules.Binary64

structure Layout where
  tie : Tie
  /-- Whether a number whose leading digit stands at this power of ten is written positionally. -/
  positional : Int → Bool
  wholeMark : String

/-- Numbers in documents: positional from `0.00001` up to sixteen digits before the point, and
never without a point or an exponent. -/
def documentLayout : Layout :=
  ⟨.even, fun place ↦ -5 ≤ place && place < 16, ".0"⟩

/-- Numbers in messages: always positional, and a whole number has no point. -/
def messageLayout : Layout :=
  ⟨.up, fun _ ↦ true, ""⟩

def zeros (n : Int) : List Char :=
  .replicate n.toNat '0'

def positionalText (wholeMark : String) (digits : List Char) (place : Int) : List Char :=
  if place < 0 then '0' :: '.' :: zeros (-place - 1) ++ digits
  else
    let whole := place.toNat + 1
    if digits.length ≤ whole then digits ++ zeros (whole - digits.length) ++ wholeMark.toList
    else digits.take whole ++ '.' :: digits.drop whole

def exponentText (digits : List Char) (place : Int) : List Char :=
  let mantissa := match digits with
    | d :: e :: rest => d :: '.' :: e :: rest
    | ds => ds
  let sign := if place < 0 then '-' else '+'
  mantissa ++ 'e' :: sign :: Nat.toDigits 10 place.natAbs

def magnitudeText (layout : Layout) (rank : Nat) : List Char :=
  if rank = 0 then '0' :: layout.wholeMark.toList
  else
    let d := shortest layout.tie rank
    let digits := Nat.toDigits 10 d.digits
    let place := d.exponent + digits.length - 1
    if layout.positional place then positionalText layout.wholeMark digits place
    else exponentText digits place

def text (layout : Layout) : Binary64 → String
  | .finite false rank => .ofList (magnitudeText layout rank)
  | .finite true rank => .ofList ('-' :: magnitudeText layout rank)
  | .infinite false => "inf"
  | .infinite true => "-inf"
  | .nan => "NaN"

end TradingRules.Binary64
