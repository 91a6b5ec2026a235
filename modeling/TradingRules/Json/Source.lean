import TradingRules.Json.Basic

namespace TradingRules

inductive Source
  | null
  | bool (b : Bool)
  /-- A numeral, with its value if it is in range. -/
  | number (n : Option Number)
  /-- A string, with its value if all escapes in it stand for characters. -/
  | string (s : Option String)
  /-- The items up to the first defect; the list is closed if there is none. -/
  | array (items : List Source) (closed : Bool)
  | object (members : List (Option String × Source)) (closed : Bool)
  /-- A list or object nested deeper than a reader follows. -/
  | deep (container : Source)
  | defect

namespace Source

/-- Whether the text of this value is complete, so that it can be skipped. -/
def isWhole : Source → Bool
  | .array _ closed => closed
  | .object _ closed => closed
  | .deep container => isWhole container
  | .defect => false
  | _ => true

mutual

def toJson? : Source → Option Json
  | .null => some .null
  | .bool b => some (.bool b)
  | .number n => n.map .number
  | .string s => s.map .string
  | .array items closed => if closed then (itemsToJson? items).map .array else none
  | .object members closed =>
    if closed then (membersToJson? members []).map .object else none
  | .deep _ => none
  | .defect => none

def itemsToJson? : List Source → Option (List Json)
  | [] => some []
  | v :: rest =>
    match toJson? v with
    | some v => (itemsToJson? rest).map (v :: ·)
    | none => none

def membersToJson? :
    List (Option String × Source) → List (String × Json) → Option (List (String × Json))
  | [], done => some done
  | (name, v) :: rest, done =>
    match name, toJson? v with
    | some name, some v => membersToJson? rest (Json.insertMember name v done)
    | _, _ => none

end

mutual

def ofJson : Json → Source
  | .null => .null
  | .bool b => .bool b
  | .number n => .number (some n)
  | .string s => .string (some s)
  | .array items => .array (ofItems items) true
  | .object members => .object (ofMembers members) true

def ofItems : List Json → List Source
  | [] => []
  | v :: rest => ofJson v :: ofItems rest

def ofMembers : List (String × Json) → List (Option String × Source)
  | [] => []
  | (name, v) :: rest => (some name, ofJson v) :: ofMembers rest

end

end Source

end TradingRules
