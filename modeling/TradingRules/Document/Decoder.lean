import TradingRules.Document.Error
import TradingRules.Json.Reader

namespace TradingRules

inductive Origin
  | value
  | text
  deriving DecidableEq

abbrev Decoder (α : Type) := Origin → Source → Except DocumentError α

namespace Source

def found : Source → Except DocumentError Found
  | .null => .ok .null
  | .bool b => .ok (.bool b)
  | .number (some (.integer n)) => .ok (.integer n)
  | .number (some (.real x)) => .ok (.real x)
  | .number none => .error .malformed
  | .string (some s) => .ok (.string s)
  | .string none => .error .malformed
  | .array _ _ => .ok .sequence
  | .object _ _ => .ok .map
  | .deep container => found container
  | .defect => .error .malformed

def refuse {α : Type} (expected : String) (s : Source) : Except DocumentError α := do
  .error (.wrongType (← s.found) expected)

end Source

namespace Decoder

variable {α β ι σ : Type}

def json : Decoder Json := fun _ s ↦
  match s.toJson? with
  | some v => .ok v
  | none => .error .malformed

def string : Decoder String := fun _ s ↦
  match s with
  | .string (some s) => .ok s
  | s => s.refuse "a string"

def integer (low high : Int) (type : String) : Decoder Int := fun _ s ↦
  match s with
  | .number (some (.integer n)) =>
    if low ≤ n ∧ n ≤ high then .ok n else .error (.wrongValue (.integer n) type)
  | s => s.refuse type

def nullable (d : Decoder α) : Decoder (Option α) := fun origin s ↦
  match s with
  | .null => .ok none
  | s => some <$> d origin s

def variantOf (names : List (String × α)) (name : String) : Except DocumentError α :=
  match names.lookup name with
  | some a => .ok a
  | none => .error (.unknownVariant name (names.map Prod.fst))

def unit (s : Source) : Except DocumentError Unit :=
  match s with
  | .null => .ok ()
  | s => s.refuse "unit"

/-- One of several names, as a string or as the only name of an object that holds null. -/
def choice (names : List (String × α)) : Decoder α := fun origin s ↦
  match origin, s with
  | _, .string (some name) => variantOf names name
  | .value, .object [(some name, v)] _ => do
    let a ← variantOf names name
    unit v
    return a
  | .value, .object _ _ => .error (.wrongValue .map "map with a single key")
  | .value, s => s.refuse "string or map"
  | .text, .object ((some name, v) :: rest) closed => do
    let a ← variantOf names name
    unit v
    if rest.isEmpty && closed then return a else .error .malformed
  | .text, _ => .error .malformed

def items (d : Decoder α) (origin : Origin) : List Source → Except DocumentError (List α)
  | [] => .ok []
  | s :: rest => do
    let a ← d origin s
    let as ← items d origin rest
    return a :: as

def list (d : Decoder α) : Decoder (List α) := fun origin s ↦
  match s with
  | .array sources closed => do
    let as ← items d origin sources
    if closed then return as else .error .malformed
  | .deep (.array _ _) => .error .malformed
  | s => s.refuse "a sequence"

/-- How a record of named fields is read. The fields are `ι`, in the order in which they are
declared; what was read so far is a `σ`. A name may have several spellings, of which the first is
the one reported. -/
structure Record (ι σ α : Type) where
  title : String
  fields : List ι
  spellings : ι → List String
  start : σ
  read : Origin → ι → Source → σ → Except DocumentError σ
  /-- The result, with the complaint about a field that has to be there and is not. -/
  finish : (ι → DocumentError) → σ → Except DocumentError α

namespace Record

variable [DecidableEq ι] (r : Record ι σ α) (origin : Origin)

def name (i : ι) : String :=
  (r.spellings i).headD ""

def field? (name : String) : Option ι :=
  r.fields.find? (name ∈ r.spellings ·)

def readMembers (seen : List ι) (st : σ) :
    List (Option String × Source) → Except DocumentError σ
  | [] => .ok st
  | (none, _) :: _ => .error .malformed
  | (some name, v) :: rest =>
    match r.field? name with
    | some i =>
      if i ∈ seen then .error (.duplicateField (r.name i))
      else do readMembers (i :: seen) (← r.read origin i v st) rest
    | none => if v.isWhole then readMembers seen st rest else .error .malformed

def readItems (st : σ) : List ι → List Source → Except DocumentError (σ × List Source)
  | i :: is, v :: vs => do readItems (← r.read origin i v st) is vs
  | _, vs => .ok (st, vs)

def position (i : ι) : Nat :=
  r.fields.idxOf i

def decode : Decoder α := fun origin s ↦
  match s with
  | .object members closed => do
    let st ← r.readMembers origin [] r.start members
    if closed then r.finish (fun i ↦ .missingField (r.name i)) st else .error .malformed
  | .array items closed => do
    let (st, extra) ← r.readItems origin r.start r.fields items
    if !closed && extra.isEmpty then .error .malformed
    else
      let a ← r.finish (fun i ↦ .wrongLength (r.position i)
        s!"{r.title} with {r.fields.length} elements") st
      if extra.isEmpty then return a
      else match origin with
        | .value => .error (.wrongLength items.length "fewer elements in array")
        | .text => .error .malformed
  | .deep _ => .error .malformed
  | s => s.refuse r.title

end Record

def ofText (d : Decoder α) (text : String) : Except DocumentError α := do
  let reading := Json.readText text
  let a ← d .text reading.root
  if reading.ended then return a else .error .malformed

def ofJson (d : Decoder α) (v : Json) : Except DocumentError α :=
  d .value (.ofJson v)

end Decoder

end TradingRules
