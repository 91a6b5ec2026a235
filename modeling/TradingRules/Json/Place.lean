import TradingRules.Json.Reader

namespace TradingRules.Json

/-- Lines count from one, columns are the bytes of the line that were passed. -/
structure Place where
  line : Nat
  column : Nat
  deriving DecidableEq

def Place.text (p : Place) : String :=
  s!" at line {p.line} column {p.column}"

def Place.after (cs : List Char) : Place :=
  ⟨cs.count '\n' + 1, (String.ofList (cs.reverse.takeWhile (· ≠ '\n'))).utf8ByteSize⟩

def beginsValue (c : Char) : Bool :=
  c.isDigit || c ∈ ['"', '[', '\x7b', 'n', 't', 'f', '-']

inductive Misfit
  | nothing
  | noValue
  | otherValue
  deriving DecidableEq

def Misfit.text? : Misfit → Option String
  | .nothing => some "EOF while parsing a value"
  | .noValue => some "expected value"
  | .otherValue => none

structure ListFault where
  misfit : Misfit
  place : Place
  deriving DecidableEq

/-- Where a text turns out to hold no list: at its end, at the first character that begins no value,
before an object, or after any other value. -/
def listFault? (s : String) : Option ListFault :=
  let cs := s.toList
  let found := skipBlanks cs
  let start := Place.after (cs.take (cs.length - found.length))
  match found with
  | [] => some ⟨.nothing, start⟩
  | c :: _ =>
    if !beginsValue c then some ⟨.noValue, start.line, start.column + 1⟩
    else match readValue (2 * cs.length + 2) 127 cs with
      | (.array _ _, _) => none
      | (.object _ _, _) => some ⟨.otherValue, start⟩
      | (_, some rest) => some ⟨.otherValue, .after (cs.take (cs.length - rest.length))⟩
      | (_, none) => none

end TradingRules.Json
