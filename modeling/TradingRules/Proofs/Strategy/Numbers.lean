import TradingRules.Proofs.Binary64.Overflow
import TradingRules.Proofs.Strategy.Verdict

namespace TradingRules

open Binary64 (Typed TypedFinite SpellsBeyond)

theorem Binary64.exists_typedFinite_iff {v : String} (h : ∃ x, Typed v x) :
    (∃ x, TypedFinite v x) ↔ ¬ SpellsBeyond (Text.trim v).toList := by
  obtain ⟨x, hx⟩ := h
  rw [spellsBeyond_iff]
  constructor
  · intro hfinite hbeyond
    obtain ⟨y, hy, hyfinite⟩ := hfinite
    obtain ⟨z, hz, hzinfinite⟩ := hbeyond
    obtain rfl := Spells.unique hy hz
    cases hyfinite.symm.trans hzinfinite
  · intro hbeyond
    refine ⟨x, hx, ?_⟩
    by_contra hinfinite
    exact hbeyond ⟨x, hx, Bool.eq_false_iff.mpr hinfinite⟩

namespace Strategy

theorem Testable.withExit {st : Strategy} (h : st.Testable) {e : Exit} (he : e.Sound) :
    Testable { st with exit := e } :=
  ⟨h.conditions, h.rules, he⟩

/-- A strategy that passes its check has finite numbers in its conditions. The number in the place
of its exit is finite unless it is spelled as one that is not, and no such spelling is refused. -/
theorem numbers_of_checked_strategy {st : Strategy} (h : st.check = .ok ()) :
    (∀ c ∈ st.conditions,
      (c.rule.operator.shape = .scalar → ∃ x, TypedFinite c.rule.value x) ∧
      (c.rule.operator.shape = .range → ∃ upper, c.rule.compareValue = some upper ∧
        (∃ x, TypedFinite c.rule.value x) ∧ ∃ y, TypedFinite upper y)) ∧
    ∀ i o v, st.exit = .indicatorBased i o v →
      (∃ x, Typed v x) ∧ ((∃ x, TypedFinite v x) ↔ ¬ SpellsBeyond (Text.trim v).toList) ∧
        ∀ v', SpellsBeyond (Text.trim v').toList →
          check { st with exit := .indicatorBased i o v' } = .ok () := by
  have htestable := st.verdict_check.ok_iff.mp h
  constructor
  · intro c hc
    have hrule := htestable.rules c hc
    refine ⟨hrule.scalar, ?_⟩
    intro hshape
    obtain ⟨upper, least, greatest, hbounds, hleast, hgreatest, -⟩ := hrule.range hshape
    exact ⟨upper, hbounds.given, ⟨least, hleast⟩, greatest, hgreatest⟩
  · intro i o v hexit
    have hsound := htestable.exit
    rw [hexit] at hsound
    obtain ⟨hoperator, hv⟩ := hsound
    refine ⟨hv, Binary64.exists_typedFinite_iff hv, ?_⟩
    intro v' hbeyond
    obtain ⟨x, hx, -⟩ := Binary64.spellsBeyond_iff.mp hbeyond
    apply (verdict_check _).ok_iff.mpr
    exact htestable.withExit ⟨hoperator, x, hx⟩

theorem large_exit_passes :
    let st : Strategy := ⟨[⟨"a", .initial⟩, ⟨"b", ⟨.rsi 14, .between, " 3e1 ", none, some "+70."⟩⟩],
      .or, .short, .indicatorBased .macd .lessThan " 1.7e308 "⟩
    st.check = .ok () ∧ (∃ x, TypedFinite "30" x) ∧ (∃ x, TypedFinite " 3e1 " x) ∧
      (∃ x, TypedFinite "+70." x) ∧ ¬ SpellsBeyond (Text.trim " 1.7e308 ").toList ∧
      check { st with exit := .indicatorBased .macd .lessThan "-1.8e308" } = .ok () := by
  intro st
  have hcheck : st.check = .ok () := by decide +kernel
  obtain ⟨hrules, hexit⟩ := numbers_of_checked_strategy hcheck
  obtain ⟨-, hlarge, hbeyond⟩ := hexit _ _ _ rfl
  obtain ⟨upper, hupper, hleast, hgreatest⟩ :=
    (hrules ⟨"b", ⟨.rsi 14, .between, " 3e1 ", none, some "+70."⟩⟩ (by simp [st])).2 rfl
  obtain rfl := Option.some.inj hupper
  have hspelled : Binary64.ofNumeral? (Text.trim " 1.7e308 ") =
      some (.ofDecimal false 17 307) := by decide +kernel
  have hoverflow : Binary64.ofNumeral? (Text.trim "-1.8e308") = some (.infinite true) := by
    decide +kernel
  refine ⟨hcheck, (hrules ⟨"a", .initial⟩ (by simp [st])).1 rfl, hleast, hgreatest, hlarge.mp ?_,
    hbeyond _ ?_⟩
  · exact ⟨_, Binary64.ofNumeral?_eq_some_iff.mp hspelled, by decide +kernel⟩
  · exact Binary64.spellsBeyond_iff.mpr ⟨_, Binary64.ofNumeral?_eq_some_iff.mp hoverflow, rfl⟩

/-- An exit above NaN passes, though it never comes. -/
theorem exit_at_nan_passes :
    let st : Strategy := ⟨[⟨"a", .initial⟩], .and, .long, .indicatorBased .rsi .greaterThan "NaN"⟩
    st.check = .ok () ∧ Typed "NaN" .nan ∧ ¬ ∃ x, TypedFinite "NaN" x := by
  have htyped : Typed "NaN" .nan := Binary64.ofNumeral?_eq_some_iff.mp (by decide +kernel)
  refine ⟨by decide +kernel, htyped, ?_⟩
  intro h
  obtain ⟨x, hx, hfinite⟩ := h
  obtain rfl := Binary64.Spells.unique htyped hx
  cases hfinite

end Strategy

end TradingRules
