import TradingRules.Proofs.Json.Sorted
import TradingRules.Proofs.Json.Values
import TradingRules.Store.File

namespace TradingRules

namespace Json

theorem parse?_compact {v : Json} (hv : v.Legible 127) : parse? v.compact = some v.sorted := by
  simp [parse?, readText_compact hv, toJson?_ofJson]

theorem compact_ne_empty {v : Json} {levels : Nat} (hv : v.Legible levels) : v.compact ≠ "" := by
  obtain ⟨c, cs, hcs, -⟩ := write_head (y := .none) (hv.mono fun _ ↦ Number.Legible.readable) 0
  simp [compact, hcs]

end Json

namespace Row

theorem sorted_toJson (r : Row) : r.toJson.sorted = r.toJson := rfl

theorem ofJson?_toJson (r : Row) : ofJson? r.toJson = some r := by
  simp [toJson, ofJson?, Json.digitsValue?_toDigits]

end Row

namespace Table

theorem legible_toJson (t : Table) : t.toJson.Legible 127 := by
  simp [toJson, Row.toJson, Json.Within, Json.WithinMembers, Json.withinItems_iff,
    Json.WithinItems]

theorem sorted_toJson (t : Table) : t.toJson.sorted = t.toJson := by
  have hrows : (t.rows.map (·.toJson)).map Json.sorted = t.rows.map (·.toJson) := by
    simp [Row.sorted_toJson]
  have hlt : ¬ "rows" < "lastId" := by decide
  have hne : "rows" ≠ "lastId" := by decide
  simp only [toJson, Json.sorted, Json.sortedMembers, Json.insertMember, Json.sortedItems_eq_map,
    hrows, if_neg hlt, if_neg hne]

theorem ofJson?_toJson (t : Table) : ofJson? t.toJson = some t := by
  have hrows : (t.rows.map (·.toJson)).mapM Row.ofJson? = some t.rows := by
    induction t.rows with
    | nil => rfl
    | cons r rows ih => simp [Row.ofJson?_toJson, ih]
  simp [toJson, ofJson?, hrows, Json.digitsValue?_toDigits]

theorem ofFileText?_fileText (t : Table) : ofFileText? (fileText (some t)) = some (some t) := by
  have hne := Json.compact_ne_empty t.legible_toJson
  simp only [ofFileText?, fileText, if_neg hne, Json.parse?_compact t.legible_toJson,
    sorted_toJson]
  exact congrArg (Option.map some) t.ofJson?_toJson

end Table

end TradingRules
