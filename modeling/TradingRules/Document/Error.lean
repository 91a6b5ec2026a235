import TradingRules.Binary64.Layout
import TradingRules.Text.Quoted
import TradingRules.Time.Reading

namespace TradingRules

inductive Found
  | null
  | bool (b : Bool)
  | integer (n : Int)
  | real (x : Binary64)
  | string (s : String)
  | sequence
  | map
  deriving DecidableEq

def Found.description : Found → String
  | .null => "null"
  | .bool b => s!"boolean `{b}`"
  | .integer n => s!"integer `{n}`"
  | .real x => s!"floating point `{x.text Binary64.documentLayout}`"
  | .string s => s!"string {Text.quote s}"
  | .sequence => "sequence"
  | .map => "map"

inductive DocumentError
  | malformed
  | wrongType (found : Found) (expected : String)
  | wrongValue (found : Found) (expected : String)
  | wrongLength (length : Nat) (expected : String)
  | missingField (name : String)
  | duplicateField (name : String)
  | unknownVariant (name : String) (known : List String)
  | badTime (fault : Time.Fault)
  deriving DecidableEq

namespace DocumentError

def ticked (s : String) : String :=
  s!"`{s}`"

def alternatives : List String → String
  | [] => "there are no variants"
  | [a] => s!"expected {ticked a}"
  | [a, b] => s!"expected {ticked a} or {ticked b}"
  | names => "expected one of " ++ ", ".intercalate (names.map ticked)

def message : DocumentError → String
  | .malformed => "<syntax>"
  | .wrongType found expected => s!"invalid type: {found.description}, expected {expected}"
  | .wrongValue found expected => s!"invalid value: {found.description}, expected {expected}"
  | .wrongLength length expected => s!"invalid length {length}, expected {expected}"
  | .missingField name => s!"missing field {ticked name}"
  | .duplicateField name => s!"duplicate field {ticked name}"
  | .unknownVariant name known => s!"unknown variant {ticked name}, {alternatives known}"
  | .badTime fault => fault.message

end DocumentError

end TradingRules
