import TradingRules.Host
import TradingRules.Text.Blank
import TradingRules.Text.LetterTable
import TradingRules.Text.Ranges

namespace TradingRules.EnvFile

/-- A stretch of a value: text as it stands, or the value of a variable. -/
inductive Piece
  | text (c : Char)
  | variable (name : String)
  deriving DecidableEq

inductive Naming
  | none
  | bare (name : List Char)
  | braced (name : List Char)

structure State where
  strong : Bool
  weak : Bool
  escaped : Bool
  ended : Bool
  naming : Naming

def State.start : State :=
  ⟨false, false, false, false, .none⟩

def isNameChar (c : Char) : Bool :=
  Text.inRanges Text.alphanumericRanges c

def escape? (c : Char) : Option Char :=
  if c = 'n' then some '\n'
  else if c ∈ ['\\', '\'', '"', '$', ' '] then some c
  else none

def named (name : List Char) : Piece :=
  .variable (.ofList name.reverse)

def readValue? (s : State) (done : List Piece) : List Char → Option (List Piece)
  | [] =>
    match s.naming with
    | .braced _ => none
    | .bare name => if s.strong || s.weak then none else some (named name :: done).reverse
    | .none => if s.strong || s.weak then none else some done.reverse
  | c :: rest =>
    if s.ended then
      if c = ' ' ∨ c = '\t' then readValue? s done rest
      else if c = '#' then some done.reverse
      else none
    else if s.escaped then
      match escape? c with
      | some d => readValue? { s with escaped := false } (.text d :: done) rest
      | none => none
    else if s.strong then
      if c = '\'' then readValue? { s with strong := false } done rest
      else readValue? s (.text c :: done) rest
    else match s.naming with
      | .bare name =>
        if isNameChar c then readValue? { s with naming := .bare (c :: name) } done rest
        else if c = '\x7b' ∧ name = [] then readValue? { s with naming := .braced [] } done rest
        else if c = '$' then
          readValue? { s with naming := .bare [] } (named name :: done) rest
        else readValue? { s with naming := .none } (.text c :: named name :: done) rest
      | .braced name =>
        if c = '\x7d' then readValue? { s with naming := .none } (named name :: done) rest
        else readValue? { s with naming := .braced (c :: name) } done rest
      | .none =>
        if c = '$' then readValue? { s with naming := .bare [] } done rest
        else if c = '"' then readValue? { s with weak := !s.weak } done rest
        else if c = '\\' then readValue? { s with escaped := true } done rest
        else if s.weak then readValue? s (.text c :: done) rest
        else if c = '\'' then readValue? { s with strong := true } done rest
        else if c = ' ' ∨ c = '\t' then readValue? { s with ended := true } done rest
        else readValue? s (.text c :: done) rest

def isLetter (c : Char) : Bool :=
  c.isAlpha || c = '_'

def readKey? (cs : List Char) : Option (List Char × List Char) :=
  match cs with
  | c :: _ =>
    if isLetter c then
      let isKey := fun c : Char ↦ c.isAlphanum || c = '_' || c = '.'
      some (cs.takeWhile isKey, Text.dropBlanks (cs.dropWhile isKey))
    else none
  | [] => none

def afterEquals? : List Char → Option (List Char)
  | '=' :: rest => some (Text.dropBlanks rest)
  | _ => none

/-- A line: nothing, or an assignment; none if it makes no sense. -/
def readLine? (line : List Char) : Option (Option (String × List Piece)) :=
  let cs := Text.dropBlanks (Text.dropBlanksEnd line)
  if cs = [] ∨ cs.head? = some '#' then some none
  else do
    let (key, rest) ← readKey? cs
    let (key, value) ← match afterEquals? rest with
      | some value => some (key, value)
      | none =>
        if key = ['e', 'x', 'p', 'o', 'r', 't'] then do
          let (key, rest) ← readKey? rest
          some (key, ← afterEquals? rest)
        else none
    let pieces ← if value = [] ∨ value.head? = some '#' then some []
      else readValue? .start [] value
    some (some (.ofList key, pieces))

def linesOf (cs : List Char) : List (List Char) :=
  match cs with
  | [] => []
  | c :: rest =>
    if c = '\n' then [] :: linesOf rest
    else match linesOf rest with
      | line :: lines => (c :: line) :: lines
      | [] => [[c]]

open Program (ask)

/-- The value of a variable, of the environment or of those set by a file. -/
def lookup (extra : List (String × String)) (name : String) : Program (Option String) := do
  let known : Option String ← ask (.variable name)
  return known.or (extra.lookup name)

def expand (extra : List (String × String)) : List Piece → Program (List Char)
  | [] => return []
  | .text c :: rest => do return c :: (← expand extra rest)
  | .variable name :: rest => do
    let value ← if name = "" then pure none else lookup extra name
    return (value.getD "").toList ++ (← expand extra rest)

def set (extra : List (String × String)) : List (List Char) → Program (List (String × String))
  | [] => return extra
  | line :: lines => do
    match readLine? line with
    | none => return extra
    | some none => set extra lines
    | some (some (key, pieces)) =>
      let value ← expand extra pieces
      match ← lookup extra key with
      | some _ => set extra lines
      | none => set (extra ++ [(key, .ofList value)]) lines

def load : Program (List (String × String)) := do
  match (← ask (.read ".env") : Host.Content) with
  | .text s => set [] (linesOf s.toList)
  | _ => return []

end TradingRules.EnvFile
