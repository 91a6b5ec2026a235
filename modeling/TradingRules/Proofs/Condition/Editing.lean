import TradingRules.Condition.Edit
import TradingRules.Proofs.Series

namespace TradingRules

namespace Rule

/-- The series on a side; it is the price on the right-hand side if no second one was picked. -/
def seriesOn (r : Rule) : Side → Series
  | .primary => r.series
  | .compare => r.compared

def Refuses (r : Rule) : Edit → Prop
  | .indicator _ | .operator _ | .value _ => False
  | .compareIndicator _ => r.operator.shape ≠ .cross
  | .compareValue _ => r.operator.shape = .scalar
  | .parameter side name n =>
    (side = .compare ∧ r.operator.shape ≠ .cross) ∨ ¬ (1 ≤ n.toNat ∧ n.toNat ≤ 200) ∨
      name ∉ (r.seriesOn side).indicator.parameterNames

/-- What an edit that is not refused makes of a rule. A parameter on the right-hand side is one of a
second series that was picked before. -/
def Becomes (r r' : Rule) : Edit → Prop
  | .indicator i => r' = { r with series := .standard i }
  | .operator o => ∃ second upper,
    r' = { r with operator := o, compareSeries := second, compareValue := upper } ∧
      (o.shape = .cross → second = r.compareSeries) ∧ (o.shape ≠ .cross → second = none) ∧
      (o.shape ≠ .scalar → upper = r.compareValue) ∧ (o.shape = .scalar → upper = none)
  | .value s => r' = { r with value := s }
  | .compareIndicator i => r' = { r with compareSeries := some (.standard i) }
  | .compareValue s => r' = { r with compareValue := s }
  | .parameter .primary name n => ∃ s,
    r' = { r with series := s } ∧ r.series.ChangedAt name n s
  | .parameter .compare name n => ∃ second s, r.compareSeries = some second ∧
    r' = { r with compareSeries := some s } ∧ second.ChangedAt name n s

variable (r : Rule)

theorem compareSeries_of_parameter {r : Rule} {name : String}
    (h : name ∈ r.compared.indicator.parameterNames) : r.compareSeries = some r.compared := by
  unfold compared at h ⊢
  cases hsecond : r.compareSeries with
  | some s => rfl
  | none =>
    rw [hsecond] at h
    cases h

theorem edit_primary_cases (name : String) (n : UInt32) :
    (r.Refuses (.parameter .primary name n) ∧
      ∃ v, r.edit (.parameter .primary name n) = .error v) ∨
    (¬ r.Refuses (.parameter .primary name n) ∧
      ∃ r', r.edit (.parameter .primary name n) = .ok r' ∧
        r.Becomes r' (.parameter .primary name n)) := by
  rw [edit]
  obtain ⟨hrefused, v, hv⟩ | ⟨hn, hname, s, hs, hchanged⟩ := r.series.set_cases name n
  · rw [hv]
    exact .inl ⟨.inr hrefused, v, rfl⟩
  · rw [hs]
    refine .inr ⟨?_, { r with series := s }, rfl, s, rfl, hchanged⟩
    rintro (⟨hside, -⟩ | hrange | hother)
    · cases hside
    · exact hrange hn
    · exact hother hname

theorem edit_compare_cases (name : String) (n : UInt32) :
    (r.Refuses (.parameter .compare name n) ∧
      ∃ v, r.edit (.parameter .compare name n) = .error v) ∨
    (¬ r.Refuses (.parameter .compare name n) ∧
      ∃ r', r.edit (.parameter .compare name n) = .ok r' ∧
        r.Becomes r' (.parameter .compare name n)) := by
  rw [edit]
  by_cases hcross : r.operator.shape = .cross
  · rw [if_pos hcross]
    obtain ⟨hrefused, v, hv⟩ | ⟨hn, hname, s, hs, hchanged⟩ := r.compared.set_cases name n
    · rw [hv]
      exact .inl ⟨.inr hrefused, v, rfl⟩
    · rw [hs]
      have hsecond := compareSeries_of_parameter hname
      refine .inr ⟨?_, { r with compareSeries := some s }, rfl, r.compared, s, hsecond, rfl,
        hchanged⟩
      rintro (⟨-, hother⟩ | hrange | hother)
      · exact hother hcross
      · exact hrange hn
      · exact hother hname
  · rw [if_neg hcross]
    exact .inl ⟨.inl ⟨rfl, hcross⟩, _, rfl⟩

theorem edit_cases (e : Edit) :
    (r.Refuses e ∧ ∃ v, r.edit e = .error v) ∨
      (¬ r.Refuses e ∧ ∃ r', r.edit e = .ok r' ∧ r.Becomes r' e) := by
  cases e with
  | indicator i => exact .inr ⟨not_false, _, rfl, rfl⟩
  | operator o =>
    refine .inr ⟨not_false, r.withOperator o, rfl, _, _, rfl, ?_⟩
    exact ⟨fun h ↦ if_pos h, fun h ↦ if_neg h, fun h ↦ if_neg h, fun h ↦ if_pos h⟩
  | value s => exact .inr ⟨not_false, _, rfl, rfl⟩
  | compareIndicator i =>
    by_cases hcross : r.operator.shape = .cross
    · exact .inr ⟨not_not_intro hcross, _, if_pos hcross, rfl⟩
    · exact .inl ⟨hcross, _, if_neg hcross⟩
  | compareValue s =>
    by_cases hscalar : r.operator.shape = .scalar
    · exact .inl ⟨hscalar, _, if_pos hscalar⟩
    · exact .inr ⟨hscalar, _, if_neg hscalar, rfl⟩
  | parameter side name n =>
    cases side with
    | primary => exact r.edit_primary_cases name n
    | compare => exact r.edit_compare_cases name n

theorem becomes_of_edit {r r' : Rule} {e : Edit} (h : r.edit e = .ok r') :
    ¬ r.Refuses e ∧ r.Becomes r' e := by
  obtain ⟨-, v, hv⟩ | ⟨hrefuses, r'', hr, hbecomes⟩ := r.edit_cases e
  · cases h.symm.trans hv
  · obtain rfl := Except.ok.inj (h.symm.trans hr)
    exact ⟨hrefuses, hbecomes⟩

end Rule

namespace Condition

/-- A change from outside: an edit, which may be refused, or a new value of an open field. -/
inductive Change
  | edit (e : Edit)
  | id (s : String)
  | series (s : Series)
  | value (s : String)
  deriving DecidableEq

def change (c : Condition) : Change → Condition
  | .edit e =>
    match c.edit e with
    | .ok c' => c'
    | .error _ => c
  | .id s => { c with id := s }
  | .series s => { c with rule.series := s }
  | .value s => { c with rule.value := s }

/-- An edit that is refused leaves a condition as it was. Any other gives its own aspect a new value
and keeps the rest, except that an operator drops what it does not compare with. -/
theorem edits_change_their_own_aspect (c : Condition) (e : Edit) :
    let after := c.change (.edit e)
    ((∃ v, c.edit e = .error v) ↔ c.rule.Refuses e) ∧
      (c.rule.Refuses e → after = c) ∧
      (¬ c.rule.Refuses e → c.edit e = .ok after ∧ after.id = c.id ∧
        c.rule.Becomes after.rule e) := by
  obtain ⟨hrefuses, v, hv⟩ | ⟨hrefuses, r, hr, hbecomes⟩ := c.rule.edit_cases e
  · have hedit : c.edit e = .error v := by
      rw [Condition.edit, hv]
      rfl
    have hafter : c.change (.edit e) = c := by
      rw [change, hedit]
    exact ⟨iff_of_true ⟨v, hedit⟩ hrefuses, fun _ ↦ hafter, fun h ↦ absurd hrefuses h⟩
  · have hedit : c.edit e = .ok { c with rule := r } := by
      rw [Condition.edit, hr]
      rfl
    have hafter : c.change (.edit e) = { c with rule := r } := by
      rw [change, hedit]
    rw [hafter]
    refine ⟨iff_of_false ?_ hrefuses, fun h ↦ absurd h hrefuses, fun _ ↦ ⟨hedit, rfl, hbecomes⟩⟩
    rintro ⟨v, hv⟩
    cases hedit.symm.trans hv

end Condition

end TradingRules
