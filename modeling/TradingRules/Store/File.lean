import TradingRules.Store.Table

namespace TradingRules

def Row.toJson (r : Row) : Json :=
  .array [.string (toString r.id), .string r.owner, .string r.name, .string r.configuration,
    .string r.createdAt, .string r.updatedAt]

def Row.ofJson? : Json → Option Row
  | .array [.string id, .string owner, .string name, .string configuration, .string createdAt,
      .string updatedAt] => do
    some ⟨← Binary64.digitsValue? id.toList, owner, name, configuration, createdAt, updatedAt⟩
  | _ => none

namespace Table

def toJson (t : Table) : Json :=
  .object [("lastId", .string (toString t.lastId)), ("rows", .array (t.rows.map (·.toJson)))]

def ofJson? : Json → Option Table
  | .object [("lastId", .string lastId), ("rows", .array rows)] => do
    some ⟨← rows.mapM Row.ofJson?, ← Binary64.digitsValue? lastId.toList⟩
  | _ => none

def fileText : Option Table → String
  | some t => t.toJson.compact
  | none => Json.null.compact

/-- The table in the text of a file. An empty file holds none yet. -/
def ofFileText? (s : String) : Option (Option Table) :=
  if s = "" then some none
  else match Json.parse? s with
    | some .null => some none
    | some v => (ofJson? v).map some
    | none => none

end Table

end TradingRules
