import TradingRules.Strategy.Document

namespace TradingRules

theorem Indicator.lookup_name (i : Indicator) : names.lookup i.name = some i := by
  cases i <;> decide

theorem Operator.lookup_name (o : Operator) : names.lookup o.name = some o := by
  cases o <;> decide

theorem ExitKind.lookup_name (k : ExitKind) : names.lookup k.name = some k := by
  cases k <;> decide

theorem TimeUnit.lookup_name (u : TimeUnit) : names.lookup u.name = some u := by
  cases u <;> decide

theorem Connective.lookup_name (c : Connective) : names.lookup c.name = some c := by
  cases c <;> decide

theorem Direction.lookup_name (d : Direction) : names.lookup d.name = some d := by
  cases d <;> decide

theorem Parameter.mem_all (p : Parameter) : p ∈ all := by
  cases p <;> decide

theorem Series.ofLookup_named? (s : Series) : ofLookup s.indicator s.named? = s := by
  cases s <;> rfl

end TradingRules
