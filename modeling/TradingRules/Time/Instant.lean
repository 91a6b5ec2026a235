import TradingRules.Time.Calendar

namespace TradingRules

/-- Seconds since the beginning of 1970 and the nanoseconds that follow. During a leap second there
are more than a thousand million of these. -/
structure Instant where
  seconds : Int
  nanos : Nat
  deriving DecidableEq

namespace Instant

def padded (width n : Nat) : List Char :=
  let digits := Nat.toDigits 10 n
  .replicate (width - digits.length) '0' ++ digits

/-- A year of four digits, with a sign where that is not enough. -/
def yearText (year : Int) : List Char :=
  if 0 ≤ year ∧ year ≤ 9999 then padded 4 year.toNat
  else (if year < 0 then '-' else '+') :: padded 4 year.natAbs

def fractionText (nanos : Nat) : List Char :=
  if nanos = 0 then []
  else if nanos % 1000000 = 0 then '.' :: padded 3 (nanos / 1000000)
  else if nanos % 1000 = 0 then '.' :: padded 6 (nanos / 1000)
  else '.' :: padded 9 nanos

def localText (t : Instant) : List Char :=
  let date := Time.Date.ofDays (t.seconds / 86400)
  let second := (t.seconds % 86400).toNat
  let leap := t.nanos / 1000000000
  yearText date.year ++ '-' :: padded 2 date.month ++ '-' :: padded 2 date.day ++
    'T' :: padded 2 (second / 3600) ++ ':' :: padded 2 (second / 60 % 60) ++
    ':' :: padded 2 (second % 60 + leap) ++ fractionText (t.nanos % 1000000000)

def text (t : Instant) : String :=
  .ofList (t.localText ++ ['Z'])

/-- A point in time as rows of a store and backups hold it. -/
def rowText (t : Instant) : String :=
  .ofList (t.localText ++ ['+', '0', '0', ':', '0', '0'])

end Instant

end TradingRules
