import TradingRules.Json.Basic
import TradingRules.Binary64.Layout

namespace TradingRules.Json

def lowHex (n : Nat) : List Char :=
  Nat.toDigits 16 (n / 16) ++ Nat.toDigits 16 (n % 16)

/-- A character inside a string: quotes, backslashes and controls are escaped. -/
def writeChar (c : Char) : List Char :=
  match c with
  | '"' => ['\\', '"']
  | '\\' => ['\\', '\\']
  | '\n' => ['\\', 'n']
  | '\r' => ['\\', 'r']
  | '\t' => ['\\', 't']
  | c =>
    if c.toNat = 8 then ['\\', 'b']
    else if c.toNat = 12 then ['\\', 'f']
    else if c.toNat < 0x20 then ['\\', 'u', '0', '0'] ++ lowHex c.toNat
    else [c]

def writeString (s : String) : List Char :=
  '"' :: s.toList.flatMap writeChar ++ ['"']

def writeNumber : Number → List Char
  | .integer n => (toString n).toList
  | .real x =>
    if x.isFinite then (Binary64.text Binary64.documentLayout x).toList else ['n', 'u', 'l', 'l']

def writeBool (b : Bool) : List Char :=
  if b then ['t', 'r', 'u', 'e'] else ['f', 'a', 'l', 's', 'e']

/-- How a text is laid out: what stands before an item of a level and before the end of a list or an
object, and what stands after a colon. -/
structure Spacing where
  lineAt : Nat → List Char
  gap : List Char

def Spacing.none : Spacing :=
  ⟨fun _ ↦ [], []⟩

def Spacing.lines : Spacing :=
  ⟨fun level ↦ '\n' :: .replicate (2 * level) ' ', [' ']⟩

mutual

def write (y : Spacing) (level : Nat) : Json → List Char
  | .null => ['n', 'u', 'l', 'l']
  | .bool b => writeBool b
  | .number n => writeNumber n
  | .string s => writeString s
  | .array [] => ['[', ']']
  | .array items => '[' :: writeItems y (level + 1) items ++ y.lineAt level ++ [']']
  | .object [] => ['\x7b', '\x7d']
  | .object members =>
    '\x7b' :: writeMembers y (level + 1) members ++ y.lineAt level ++ ['\x7d']

def writeItems (y : Spacing) (level : Nat) : List Json → List Char
  | [] => []
  | [v] => y.lineAt level ++ write y level v
  | v :: rest => y.lineAt level ++ write y level v ++ ',' :: writeItems y level rest

def writeMembers (y : Spacing) (level : Nat) : List (String × Json) → List Char
  | [] => []
  | [(n, v)] => y.lineAt level ++ writeString n ++ ':' :: y.gap ++ write y level v
  | (n, v) :: rest =>
    y.lineAt level ++ writeString n ++ ':' :: y.gap ++ write y level v ++
      ',' :: writeMembers y level rest

end

def compact (v : Json) : String :=
  .ofList (write .none 0 v)

def indented (v : Json) : String :=
  .ofList (write .lines 0 v)

end TradingRules.Json
