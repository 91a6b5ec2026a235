import TradingRules.Json.Basic
import TradingRules.Binary64.Numeral

namespace TradingRules.Json

/-- The parts of a numeral; without a point there is no fraction, without a mark no exponent. -/
structure Numeral where
  negative : Bool
  whole : List Char
  fraction : Option (List Char)
  exponent : Option Int

def splitDigits (cs : List Char) : List Char × List Char :=
  (cs.takeWhile Char.isDigit, cs.dropWhile Char.isDigit)

def readFraction? : List Char → Option (Option (List Char) × List Char)
  | '.' :: rest =>
    match splitDigits rest with
    | ([], _) => none
    | (digits, rest) => some (some digits, rest)
  | cs => some (none, cs)

def takeMinus : List Char → Bool × List Char
  | '-' :: rest => (true, rest)
  | cs => (false, cs)

def takeSign : List Char → Bool × List Char
  | '+' :: rest => (false, rest)
  | cs => takeMinus cs

def readExponent? : List Char → Option (Option Int × List Char)
  | c :: rest =>
    if c = 'e' ∨ c = 'E' then
      let (negative, rest) := takeSign rest
      match splitDigits rest with
      | ([], _) => none
      | (digits, rest) =>
        (Binary64.digitsValue? digits).map fun n : Nat ↦
          (some (if negative then -(n : Int) else n), rest)
    else some (none, c :: rest)
  | [] => some (none, [])

/-- The numeral at the front of a text and what follows it. A leading zero stands alone. -/
def Numeral.read? (cs : List Char) : Option (Numeral × List Char) := do
  let (negative, cs) := takeMinus cs
  let (whole, cs) := splitDigits cs
  if whole = [] ∨ (whole.head? = some '0' ∧ whole.length ≠ 1) then none
  else
    let (fraction, cs) ← readFraction? cs
    let (exponent, cs) ← readExponent? cs
    some (⟨negative, whole, fraction, exponent⟩, cs)

def wordLimit : Nat :=
  UInt64.size

/-- Takes digits to the end of a whole number as long as it stays within 64 bits; also the digits
left over. -/
def takeDigits (n : Nat) : List Char → Nat × List Char
  | [] => (n, [])
  | c :: rest =>
    let next := 10 * n + (c.toNat - 48)
    if next < wordLimit then takeDigits next rest else (n, c :: rest)

/-- A whole number times a power of ten, by one rounded multiplication or by divisions. Only an
exponent beyond the powers of ten that are finite is taken in several steps. -/
def scaleByTen (rank : Nat) : Nat → Int → Option Nat
  | 0, _ => none
  | fuel + 1, exponent =>
    let power := fun n ↦ Binary64.rankOfQuotient (Nat.pow 10 n) 1
    if exponent.natAbs ≤ 308 then
      if 0 ≤ exponent then
        let product := Binary64.mulRank rank (power exponent.toNat)
        if product < Binary64.rankCount then some product else none
      else some (Binary64.divRank rank (power exponent.natAbs))
    else if rank = 0 then some 0
    else if 0 ≤ exponent then none
    else scaleByTen (Binary64.divRank rank (power 308)) fuel (exponent + 308)

def Numeral.real? (n : Numeral) : Option Binary64 :=
  let (significand, dropped) := takeDigits 0 n.whole
  let (significand, unused) := takeDigits significand (n.fraction.getD [])
  let places := (n.fraction.getD []).length - unused.length
  let exponent := n.exponent.getD 0 + dropped.length - places
  (scaleByTen (Binary64.rankOfQuotient significand 1) 5 exponent).map (.ofRank n.negative)

def Numeral.number? (n : Numeral) : Option Number :=
  match n.fraction, n.exponent, Binary64.digitsValue? n.whole with
  | none, none, some value =>
    if n.negative then
      if value ≠ 0 ∧ 2 * value ≤ wordLimit then some (.integer (-value))
      else if value < wordLimit then some (.real (Binary64.ofNat value).negate)
      else n.real?.map .real
    else if value < wordLimit then some (.integer value)
    else n.real?.map .real
  | _, _, _ => n.real?.map .real

end TradingRules.Json
