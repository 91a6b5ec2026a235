import TradingRules.Binary64.Basic

namespace TradingRules

inductive Number
  | integer (n : Int)
  | real (x : Binary64)
  deriving DecidableEq

def Number.toBinary64 : Number → Binary64
  | .integer n => .ofInt n
  | .real x => x

inductive Json
  | null
  | bool (b : Bool)
  | number (n : Number)
  | string (s : String)
  | array (items : List Json)
  | object (members : List (String × Json))

namespace Json

instance : Inhabited Json := ⟨.null⟩

def ofNat (n : Nat) : Json :=
  .number (.integer n)

/-- A binary64 number as a value; JSON has no numeral for an infinity or a NaN. -/
def ofBinary64 (x : Binary64) : Json :=
  if x.isFinite then .number (.real x) else .null

/-- Puts a member at its place in ascending order; the last of several values of a name stays. -/
def insertMember (name : String) (value : Json) : List (String × Json) → List (String × Json)
  | [] => [(name, value)]
  | (n, v) :: rest =>
    if name < n then (name, value) :: (n, v) :: rest
    else if name = n then (name, value) :: rest
    else (n, v) :: insertMember name value rest

mutual

def sorted : Json → Json
  | .array items => .array (sortedItems items)
  | .object members => .object (sortedMembers members [])
  | other => other

def sortedItems : List Json → List Json
  | [] => []
  | v :: rest => sorted v :: sortedItems rest

def sortedMembers : List (String × Json) → List (String × Json) → List (String × Json)
  | [], done => done
  | (n, v) :: rest, done => sortedMembers rest (insertMember n (sorted v) done)

end

def member? (name : String) : Json → Option Json
  | .object members => members.lookup name
  | _ => none

def string? : Json → Option String
  | .string s => some s
  | _ => none

def array? : Json → Option (List Json)
  | .array items => some items
  | _ => none

end Json

end TradingRules
