namespace TradingRules

/-- How many magnitudes lie between a power of two and the next one, which is 2 ^ 52. -/
abbrev Binary64.binade : Nat :=
  0x10000000000000

abbrev Binary64.rankCount : Nat :=
  2047 * Binary64.binade

inductive Binary64
  | finite (negative : Bool) (rank : Fin Binary64.rankCount)
  | infinite (negative : Bool)
  | nan
  deriving DecidableEq

namespace Binary64

def units (rank : Nat) : Nat :=
  if rank < binade then rank
  else (binade + rank % binade) * Nat.pow 2 (rank / binade - 1)

def unitsOfOne : Nat :=
  Nat.pow 2 1074

/-- The quotient as a whole number, the nearer one, of two equally near ones the even one. -/
def roundQuotient (num den : Nat) : Nat :=
  let q := num / den
  let twice := 2 * (num % den)
  if twice < den then q else if den < twice then q + 1 else q + q % 2

/-- The rank nearest to the fraction `num / den`; it is beyond all finite ones on overflow. -/
def rankOfQuotient (num den : Nat) : Nat :=
  let n := num * unitsOfOne
  let u := n / den
  let scale := if u < 2 * binade then 0 else u.log2 - 52
  scale * binade + roundQuotient n (den * Nat.pow 2 scale)

def ofRank (negative : Bool) (rank : Nat) : Binary64 :=
  if h : rank < rankCount then .finite negative ⟨rank, h⟩ else .infinite negative

def ofQuotient (negative : Bool) (num den : Nat) : Binary64 :=
  ofRank negative (rankOfQuotient num den)

def zero : Binary64 :=
  .finite false ⟨0, by decide⟩

def ofNat (n : Nat) : Binary64 :=
  ofQuotient false n 1

def ofInt : Int → Binary64
  | .ofNat n => ofNat n
  | .negSucc n => ofQuotient true (n + 1) 1

def ofDecimal (negative : Bool) (digits : Nat) (exponent : Int) : Binary64 :=
  if digits = 0 then ofRank negative 0
  else
    let size := exponent + (Nat.toDigits 10 digits).length
    if 400 < size then .infinite negative
    else if size < -400 then ofRank negative 0
    else if 0 ≤ exponent then ofQuotient negative (digits * Nat.pow 10 exponent.toNat) 1
    else ofQuotient negative digits (Nat.pow 10 (-exponent).toNat)

def isFinite : Binary64 → Bool
  | .finite _ _ => true
  | _ => false

def negate : Binary64 → Binary64
  | .finite s rank => .finite (!s) rank
  | .infinite s => .infinite (!s)
  | .nan => .nan

/-- The place on the number line in units, which a NaN does not have. -/
def place? : Binary64 → Option Int
  | .finite false rank => some (units rank)
  | .finite true rank => some (-units rank)
  | .infinite false => some (units rankCount)
  | .infinite true => some (-units rankCount)
  | .nan => none

def lt (a b : Binary64) : Bool :=
  match a.place?, b.place? with
  | some x, some y => x < y
  | _, _ => false

def le (a b : Binary64) : Bool :=
  match a.place?, b.place? with
  | some x, some y => x ≤ y
  | _, _ => false

def mulRank (a b : Nat) : Nat :=
  rankOfQuotient (units a * units b) (unitsOfOne * unitsOfOne)

def divRank (a b : Nat) : Nat :=
  rankOfQuotient (units a) (units b)

def toNat? : Binary64 → Option Nat
  | .finite s rank =>
    let u := units rank
    if (s = false ∨ u = 0) ∧ u % unitsOfOne = 0 then some (u / unitsOfOne) else none
  | _ => none

end Binary64

end TradingRules
