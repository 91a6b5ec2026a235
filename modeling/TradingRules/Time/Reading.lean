import TradingRules.Time.Instant
import TradingRules.Text.Blank

namespace TradingRules.Time

inductive Fault
  | premature
  | invalid
  | outOfRange
  | trailing
  | impossible
  deriving DecidableEq

def Fault.message : Fault → String
  | .premature => "premature end of input"
  | .invalid => "input contains invalid characters"
  | .outOfRange => "input is out of range"
  | .trailing => "trailing input"
  | .impossible => "no possible date and time matching input"

abbrev Reader := StateT (List Char) (Except Fault)

def fail {α : Type} (fault : Fault) : Reader α :=
  fun _ ↦ .error fault

def readNumber (least most : Nat) : Reader Nat := fun cs ↦
  let digits := (cs.take most).takeWhile Char.isDigit
  if digits.length < least then
    .error (if (String.ofList cs).utf8ByteSize < least then .premature else .invalid)
  else .ok (digits.foldl (fun n c ↦ 10 * n + (c.toNat - 48)) 0, cs.drop digits.length)

def readMark (marks : List Char) : Reader Char
  | [] => .error .premature
  | c :: rest => if c ∈ marks then .ok (c, rest) else .error .invalid

def skipBlanks : Reader Unit :=
  modify Text.dropBlanks

def readField (least low high : Nat) : Reader Nat := do
  let n ← readNumber least 2
  if low ≤ n ∧ n ≤ high then return n else fail .outOfRange

/-- A year of up to four digits, or of any length after a sign. -/
def readYear : Reader Int := do
  let cs ← get
  let sign := cs.head?
  let signed := sign = some '-' ∨ sign = some '+'
  if signed then set cs.tail
  let n ← readNumber 1 (if signed then cs.length else 4)
  let year : Int := if sign = some '-' then -n else n
  if year < -0x80000000 ∨ 0x80000000 ≤ year then fail .outOfRange else return year

/-- The nanoseconds of a fraction; digits after the ninth are skipped. -/
def readNanos : Reader Nat := do
  match ← get with
  | '.' :: cs =>
    set cs
    let n ← readNumber 1 9
    let places := cs.length - (← get).length
    modify (·.dropWhile Char.isDigit)
    return n * Nat.pow 10 (9 - places)
  | _ => return 0

def readTwoDigits : Reader Nat
  | a :: b :: rest =>
    if a.isDigit && b.isDigit then .ok (10 * (a.toNat - 48) + (b.toNat - 48), rest)
    else .error .invalid
  | [a] => .error (if 1 < a.utf8Size then .invalid else .premature)
  | [] => .error .premature

def readOffset (separator : Reader Unit) : Reader Int := do
  let mark ← readMark ['Z', 'z', '+', '-', Char.ofNat 0x2212]
  if mark = 'Z' ∨ mark = 'z' then return 0
  else
    let hours ← readTwoDigits
    separator
    let minutes ← readTwoDigits
    if 60 ≤ minutes then fail .outOfRange
    else
      let seconds : Int := hours * 3600 + minutes * 60
      return if mark = '+' then seconds else -seconds

structure Parts where
  date : Date
  hour : Nat
  minute : Nat
  second : Nat
  nanos : Nat
  offset : Int

def Parts.toInstant (p : Parts) : Except Fault Instant :=
  if p.date.year < firstYear ∨ lastYear < p.date.year ∨ !p.date.isValid then .error .outOfRange
  else if p.offset ≤ -86400 ∨ 86400 ≤ p.offset then .error .outOfRange
  else
    let leap := if p.second = 60 then 1 else 0
    let seconds := p.date.toDays * 86400 + p.hour * 3600 + p.minute * 60 + (p.second - leap : Nat)
    let seconds := seconds - p.offset
    let year := (Date.ofDays (seconds / 86400)).year
    if year < firstYear ∨ lastYear < year then .error .impossible
    else .ok ⟨seconds, p.nanos + leap * 1000000000⟩

def readStoredParts : Reader Parts := do
  let year ← readNumber 4 4
  let _ ← readMark ['-']
  let month ← readField 2 1 12
  let _ ← readMark ['-']
  let day ← readField 2 1 31
  let _ ← readMark ['t', 'T', ' ']
  let hour ← readField 2 0 23
  let _ ← readMark [':']
  let minute ← readField 2 0 59
  let _ ← readMark [':']
  let second ← readField 2 0 60
  let nanos ← readNanos
  let offset ← readOffset (discard (readMark [':']))
  return ⟨⟨year, month, day⟩, hour, minute, second, nanos, offset⟩

def readUniversal : Reader Bool := do
  let cs ← get
  if (cs.take 3).map Char.toLower = ['u', 't', 'c'] then
    set (cs.drop 3)
    return true
  else return false

def readLooseParts : Reader Parts := do
  skipBlanks
  let year ← readYear
  skipBlanks
  let _ ← readMark ['-']
  skipBlanks
  let month ← readField 1 1 12
  skipBlanks
  let _ ← readMark ['-']
  skipBlanks
  let day ← readField 1 1 31
  let _ ← readMark ['t', 'T', ' ']
  skipBlanks
  let hour ← readField 1 0 23
  skipBlanks
  let _ ← readMark [':']
  skipBlanks
  let minute ← readField 1 0 59
  skipBlanks
  let _ ← readMark [':']
  skipBlanks
  let second ← readField 1 0 60
  let nanos ← readNanos
  skipBlanks
  let offset ← if ← readUniversal then pure 0
    else readOffset (modify (·.dropWhile fun c ↦ c = ':' || Text.isBlank c))
  return ⟨⟨year, month, day⟩, hour, minute, second, nanos, offset⟩

/-- The point in time a stored row holds. -/
def readStored (s : String) : Except Fault Instant := do
  let (parts, rest) ← readStoredParts s.toList
  if rest ≠ [] then .error .trailing else parts.toInstant

/-- The point in time a document holds. -/
def readLoose (s : String) : Except Fault Instant := do
  let (parts, rest) ← readLooseParts s.toList
  if Text.dropBlanks rest ≠ [] then .error .trailing else parts.toInstant

end TradingRules.Time
