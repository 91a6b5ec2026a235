import TradingRules.Json.Numeral
import TradingRules.Json.Source

namespace TradingRules.Json

def skipBlanks (cs : List Char) : List Char :=
  cs.dropWhile fun c ↦ c = ' ' || c = '\t' || c = '\n' || c = '\r'

def hexValue? (c : Char) : Option Nat :=
  if c.isDigit then some (c.toNat - 48)
  else if 'a' ≤ c ∧ c ≤ 'f' then some (c.toNat - 87)
  else if 'A' ≤ c ∧ c ≤ 'F' then some (c.toNat - 55)
  else none

def readHex? : List Char → Option (Nat × List Char)
  | a :: b :: c :: d :: rest => do
    let a ← hexValue? a
    let b ← hexValue? b
    let c ← hexValue? c
    let d ← hexValue? d
    some (((a * 16 + b) * 16 + c) * 16 + d, rest)
  | _ => none

def simpleEscape? (c : Char) : Option Char :=
  match c with
  | '"' | '\\' | '/' => some c
  | 'b' => some (Char.ofNat 8)
  | 'f' => some (Char.ofNat 12)
  | 'n' => some '\n'
  | 'r' => some '\r'
  | 't' => some '\t'
  | _ => none

def isHighSurrogate (n : Nat) : Bool :=
  0xD800 ≤ n && n ≤ 0xDBFF

def isLowSurrogate (n : Nat) : Bool :=
  0xDC00 ≤ n && n ≤ 0xDFFF

def readLowSurrogate? : List Char → Option (Nat × List Char)
  | '\\' :: 'u' :: rest =>
    match readHex? rest with
    | some (n, rest) => if isLowSurrogate n then some (n, rest) else none
    | none => none
  | _ => none

/-- The rest of a string after its opening quote. The characters so far are `done`, last one first,
and there are none once half of a surrogate pair stood alone. -/
def readString : Nat → Option (List Char) → List Char → Option (Option String × List Char)
  | 0, _, _ => none
  | _, _, [] => none
  | fuel + 1, done, c :: rest =>
    if c = '"' then some (done.map fun cs ↦ .ofList cs.reverse, rest)
    else if c.toNat < 0x20 then none
    else if c = '\\' then
      match rest with
      | 'u' :: rest =>
        match readHex? rest with
        | none => none
        | some (n, rest) =>
          if isHighSurrogate n then
            match readLowSurrogate? rest with
            | some (low, rest) =>
              let code := 0x10000 + (n - 0xD800) * 0x400 + (low - 0xDC00)
              readString fuel (done.map (Char.ofNat code :: ·)) rest
            | none => readString fuel none rest
          else if isLowSurrogate n then readString fuel none rest
          else readString fuel (done.map (Char.ofNat n :: ·)) rest
      | e :: rest =>
        match simpleEscape? e with
        | some d => readString fuel (done.map (d :: ·)) rest
        | none => none
      | [] => none
    else readString fuel (done.map (c :: ·)) rest

def readWord (word : List Char) (value : Source) (cs : List Char) :
    Source × Option (List Char) :=
  if word.isPrefixOf cs then (value, some (cs.drop word.length)) else (.defect, none)

def nested (levels : Nat) (container : Source) : Source :=
  if levels = 0 then .deep container else container

mutual

/-- A value and the text after it, which is missing after a defect. -/
def readValue : Nat → Nat → List Char → Source × Option (List Char)
  | 0, _, _ => (.defect, none)
  | fuel + 1, levels, cs =>
    match skipBlanks cs with
    | [] => (.defect, none)
    | '"' :: rest =>
      match readString (rest.length + 1) (some []) rest with
      | some (s, rest) => (.string s, some rest)
      | none => (.defect, none)
    | '[' :: rest =>
      match skipBlanks rest with
      | ']' :: rest => (nested levels (.array [] true), some rest)
      | rest =>
        let (items, rest) := readItems fuel (levels - 1) rest
        (nested levels (.array items rest.isSome), rest)
    | '\x7b' :: rest =>
      match skipBlanks rest with
      | '\x7d' :: rest => (nested levels (.object [] true), some rest)
      | rest =>
        let (members, rest) := readMembers fuel (levels - 1) rest
        (nested levels (.object members rest.isSome), rest)
    | 'n' :: rest => readWord ['u', 'l', 'l'] .null rest
    | 't' :: rest => readWord ['r', 'u', 'e'] (.bool true) rest
    | 'f' :: rest => readWord ['a', 'l', 's', 'e'] (.bool false) rest
    | cs =>
      match Numeral.read? cs with
      | some (n, rest) => (.number n.number?, some rest)
      | none => (.defect, none)

def readItems : Nat → Nat → List Char → List Source × Option (List Char)
  | 0, _, _ => ([.defect], none)
  | fuel + 1, levels, cs =>
    match readValue fuel levels cs with
    | (v, none) => ([v], none)
    | (v, some rest) =>
      match skipBlanks rest with
      | ',' :: rest =>
        let (items, rest) := readItems fuel levels rest
        (v :: items, rest)
      | ']' :: rest => ([v], some rest)
      | _ => ([v], none)

def readMembers : Nat → Nat → List Char → List (Option String × Source) × Option (List Char)
  | 0, _, _ => ([], none)
  | fuel + 1, levels, cs =>
    match skipBlanks cs with
    | '"' :: rest =>
      match readString (rest.length + 1) (some []) rest with
      | none => ([], none)
      | some (name, rest) =>
        match skipBlanks rest with
        | ':' :: rest =>
          match readValue fuel levels rest with
          | (v, none) => ([(name, v)], none)
          | (v, some rest) =>
            match skipBlanks rest with
            | ',' :: rest =>
              let (members, rest) := readMembers fuel levels rest
              ((name, v) :: members, rest)
            | '\x7d' :: rest => ([(name, v)], some rest)
            | _ => ([(name, v)], none)
        | _ => ([(name, .defect)], none)
    | _ => ([], none)

end

/-- A text as a reader meets it: the value at its front, and whether nothing but blanks follows. -/
structure Reading where
  root : Source
  ended : Bool

def readText (s : String) : Reading :=
  let cs := s.toList
  match readValue (2 * cs.length + 2) 127 cs with
  | (root, some rest) => ⟨root, skipBlanks rest = []⟩
  | (root, none) => ⟨root, false⟩

def parse? (s : String) : Option Json :=
  let reading := readText s
  if reading.ended then reading.root.toJson? else none

end TradingRules.Json
