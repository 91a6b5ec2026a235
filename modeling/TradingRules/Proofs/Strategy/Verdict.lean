import TradingRules.Proofs.Binary64.Spelling
import TradingRules.Proofs.Strategy.Limits
import TradingRules.Proofs.Verdict

namespace TradingRules

def Binary64.Typed (s : String) (x : Binary64) : Prop :=
  Spells (Text.trim s).toList x

def Binary64.TypedFinite (s : String) (x : Binary64) : Prop :=
  Typed s x ∧ x.isFinite

def Binary64.IsPercent (x : Binary64) : Prop :=
  ∃ p, x.place? = some p ∧ 0 < p ∧ p ≤ 50 * unitsOfOne

def Operator.ClosesPosition (o : Operator) : Prop :=
  o = .lessThan ∨ o = .greaterThan ∨ o = .equals

namespace Rule

open Binary64 (TypedFinite)

structure Bounded (r : Rule) (upper : String) : Prop where
  shape : r.operator.shape = .range
  lower : Text.isBlankText r.value = false
  given : r.compareValue = some upper
  upper : Text.isBlankText upper = false

/-- What a rule has to be like to be tested. -/
structure Testable (r : Rule) : Prop where
  inRange : r.InRange
  scalar : r.operator.shape = .scalar → ∃ x, TypedFinite r.value x
  range : r.operator.shape = .range → ∃ upper least greatest, r.Bounded upper ∧
    TypedFinite r.value least ∧ TypedFinite upper greatest ∧ greatest.lt least = false

def SeriesBlames (r : Rule) (v : Violation) : Prop :=
  r.series.Blames v ∨ r.series.InRange ∧ ∃ s, r.compareSeries = some s ∧ s.Blames v

/-- What is wrong with a rule first, at a position among others. -/
inductive Blames (position : Nat) (r : Rule) : Violation → Prop
  | series {v : Violation} (h : r.SeriesBlames v) : Blames position r v
  | scalar (hr : r.InRange) (hshape : r.operator.shape = .scalar)
      (h : ∀ x, ¬ TypedFinite r.value x) : Blames position r (.nonNumericValue position r.value)
  | missing (hr : r.InRange) (hshape : r.operator.shape = .range) (h : ∀ upper, ¬ r.Bounded upper) :
      Blames position r (.missingRangeBound position)
  | lower {upper : String} (hr : r.InRange) (hbounds : r.Bounded upper)
      (h : ∀ x, ¬ TypedFinite r.value x) : Blames position r (.nonNumericValue position r.value)
  | upper {upper : String} {least : Binary64} (hr : r.InRange) (hbounds : r.Bounded upper)
      (hlower : TypedFinite r.value least) (h : ∀ x, ¬ TypedFinite upper x) :
      Blames position r (.nonNumericValue position upper)
  | inverted {upper : String} {least greatest : Binary64} (hr : r.InRange)
      (hbounds : r.Bounded upper) (hlower : TypedFinite r.value least)
      (hupper : TypedFinite upper greatest) (h : greatest.lt least) :
      Blames position r (.invertedRange position least greatest)

theorem verdict_checkSeries (r : Rule) :
    Verdict (Strategy.checkSeries r) r.InRange r.SeriesBlames := by
  unfold Strategy.checkSeries
  cases hs : r.compareSeries with
  | none =>
    refine (r.series.verdict_check.bind .ok).congr ?_ fun v ↦ ?_
    · exact ⟨fun h ↦ .of_none h.1 hs, fun h ↦ ⟨h.series, trivial⟩⟩
    · simp [SeriesBlames, hs]
  | some s =>
    refine (r.series.verdict_check.bind s.verdict_check).congr ?_ fun v ↦ ?_
    · exact ⟨fun h ↦ .of_some h.1 hs h.2, fun h ↦ ⟨h.series, h.compareSeries s hs⟩⟩
    · simp [SeriesBlames, hs]

theorem finite_eq_some_iff {value : String} {x : Binary64} :
    (Binary64.ofNumeral? (Text.trim value)).filter (·.isFinite) = some x ↔ TypedFinite value x := by
  rw [Option.filter_eq_some_iff, Binary64.ofNumeral?_eq_some_iff]
  rfl

theorem checkedNumber_eq_ok_iff {position : Nat} {value : String} {x : Binary64} :
    Strategy.checkedNumber position value = .ok x ↔ TypedFinite value x := by
  rw [← finite_eq_some_iff, Strategy.checkedNumber]
  cases (Binary64.ofNumeral? (Text.trim value)).filter (·.isFinite) <;> simp

theorem checkedNumber_eq_error_iff {position : Nat} {value : String} {v : Violation} :
    Strategy.checkedNumber position value = .error v ↔
      (∀ x, ¬ TypedFinite value x) ∧ .nonNumericValue position value = v := by
  simp only [← finite_eq_some_iff, Strategy.checkedNumber]
  cases (Binary64.ofNumeral? (Text.trim value)).filter (·.isFinite) <;> simp

theorem verdict_number (position : Nat) (value : String) {f : Binary64 → Except Violation Unit}
    {P : Binary64 → Prop} {Q : Binary64 → Violation → Prop} (hf : ∀ x, Verdict (f x) (P x) (Q x)) :
    Verdict (Strategy.checkedNumber position value >>= f) (∃ x, TypedFinite value x ∧ P x) fun v ↦
      ((∀ x, ¬ TypedFinite value x) ∧ .nonNumericValue position value = v) ∨
        ∃ x, TypedFinite value x ∧ Q x v where
  ok_iff := by
    simp only [bind_eq_ok_iff, checkedNumber_eq_ok_iff, (hf _).ok_iff]
  error_iff v := by
    simp only [bind_eq_error_iff, checkedNumber_eq_ok_iff, checkedNumber_eq_error_iff,
      (hf _).error_iff]

theorem verdict_of_cross {position : Nat} {r : Rule} (hshape : r.operator.shape = .cross) :
    Verdict (Strategy.checkRule position r) r.Testable (r.Blames position) := by
  unfold Strategy.checkRule
  rw [hshape]
  refine (r.verdict_checkSeries.bind .ok).congr ?_ fun v ↦ ?_
  · constructor
    · rintro ⟨hr, -⟩
      exact ⟨hr, by simp [hshape], by simp [hshape]⟩
    · exact fun h ↦ ⟨h.inRange, trivial⟩
  · constructor
    · rintro (h | ⟨-, h⟩)
      · exact .series h
      · exact h.elim
    · intro h
      cases h with
      | series h => exact .inl h
      | scalar _ h | missing _ h => cases hshape.symm.trans h
      | lower _ h | upper _ h | inverted _ h => cases hshape.symm.trans h.shape

theorem verdict_of_scalar {position : Nat} {r : Rule} (hshape : r.operator.shape = .scalar) :
    Verdict (Strategy.checkRule position r) r.Testable (r.Blames position) := by
  unfold Strategy.checkRule
  rw [hshape]
  have hnumber := verdict_number position r.value fun _ ↦ Verdict.ok
  refine (r.verdict_checkSeries.bind hnumber).congr ?_ fun v ↦ ?_
  · constructor
    · rintro ⟨hr, x, hx, -⟩
      exact ⟨hr, fun _ ↦ ⟨x, hx⟩, by simp [hshape]⟩
    · intro h
      obtain ⟨x, hx⟩ := h.scalar hshape
      exact ⟨h.inRange, x, hx, trivial⟩
  · constructor
    · rintro (h | ⟨hr, ⟨h, rfl⟩ | ⟨x, hx, h⟩⟩)
      · exact .series h
      · exact .scalar hr hshape h
      · exact h.elim
    · intro h
      cases h with
      | series h => exact .inl h
      | scalar hr _ h => exact .inr ⟨hr, .inl ⟨h, rfl⟩⟩
      | missing _ h => cases hshape.symm.trans h
      | lower _ h | upper _ h | inverted _ h => cases hshape.symm.trans h.shape

theorem Bounded.eq {r : Rule} {s s' : String} (h : r.Bounded s) (h' : r.Bounded s') : s = s' :=
  Option.some.inj (h.given.symm.trans h'.given)

theorem verdict_of_bounded {position : Nat} {r : Rule} {upper : String} (hr : r.Bounded upper) :
    Verdict (Strategy.checkRule position r) r.Testable (r.Blames position) := by
  unfold Strategy.checkRule
  have hfilter : r.compareValue.filter (!Text.isBlankText ·) = some upper :=
    Option.filter_eq_some_iff.mpr ⟨hr.given, by simp [hr.upper]⟩
  rw [hr.shape, hr.lower, hfilter]
  have hnumbers := verdict_number position r.value fun least ↦
    verdict_number position upper fun greatest ↦ Verdict.ite_not (greatest.lt least)
      (.invertedRange position least greatest)
  refine (r.verdict_checkSeries.bind hnumbers).congr ?_ fun v ↦ ?_
  · constructor
    · rintro ⟨hrange, least, hleast, greatest, hgreatest, h⟩
      refine ⟨hrange, by simp [hr.shape], fun _ ↦ ?_⟩
      exact ⟨upper, least, greatest, hr, hleast, hgreatest, Bool.eq_false_iff.mpr h⟩
    · intro h
      obtain ⟨upper', least, greatest, hr', hleast, hgreatest, hlt⟩ := h.range hr.shape
      obtain rfl := hr.eq hr'
      exact ⟨h.inRange, least, hleast, greatest, hgreatest, Bool.eq_false_iff.mp hlt⟩
  · constructor
    · rintro (h | ⟨hrange, ⟨h, rfl⟩ | ⟨least, hleast, ⟨h, rfl⟩ | ⟨greatest, hgreatest, h, rfl⟩⟩⟩)
      · exact .series h
      · exact .lower hrange hr h
      · exact .upper hrange hr hleast h
      · exact .inverted hrange hr hleast hgreatest h
    · intro h
      cases h with
      | series h => exact .inl h
      | scalar _ h => cases hr.shape.symm.trans h
      | missing _ _ h => exact absurd hr (h upper)
      | lower hrange _ h => exact .inr ⟨hrange, .inl ⟨h, rfl⟩⟩
      | upper hrange hr' hleast h =>
        obtain rfl := hr.eq hr'
        exact .inr ⟨hrange, .inr ⟨_, hleast, .inl ⟨h, rfl⟩⟩⟩
      | inverted hrange hr' hleast hgreatest h =>
        obtain rfl := hr.eq hr'
        exact .inr ⟨hrange, .inr ⟨_, hleast, .inr ⟨_, hgreatest, h, rfl⟩⟩⟩

theorem checkRule_of_unbounded {r : Rule} (hshape : r.operator.shape = .range)
    (hr : ∀ upper, ¬ r.Bounded upper) (position : Nat) : Strategy.checkRule position r =
      (Strategy.checkSeries r >>= fun _ ↦ .error (.missingRangeBound position)) := by
  unfold Strategy.checkRule
  rw [hshape]
  cases hlower : Text.isBlankText r.value with
  | true => rfl
  | false =>
    have hnone : r.compareValue.filter (!Text.isBlankText ·) = none := by
      rw [Option.filter_eq_none_iff]
      intro upper hgiven hupper
      exact hr upper ⟨hshape, hlower, hgiven, by simpa using hupper⟩
    rw [hnone]

theorem verdict_of_unbounded {position : Nat} {r : Rule} (hshape : r.operator.shape = .range)
    (hr : ∀ upper, ¬ r.Bounded upper) :
    Verdict (Strategy.checkRule position r) r.Testable (r.Blames position) := by
  rw [checkRule_of_unbounded hshape hr]
  refine (r.verdict_checkSeries.bind (.error _)).congr ?_ fun v ↦ ?_
  · refine iff_of_false And.right fun h ↦ ?_
    obtain ⟨upper, _, _, hbounds, -⟩ := h.range hshape
    exact hr upper hbounds
  · constructor
    · rintro (h | ⟨hrange, rfl⟩)
      · exact .series h
      · exact .missing hrange hshape hr
    · intro h
      cases h with
      | series h => exact .inl h
      | scalar _ h => cases hshape.symm.trans h
      | missing hrange => exact .inr ⟨hrange, rfl⟩
      | lower _ h | upper _ h | inverted _ h => exact absurd h (hr _)

theorem verdict_checkRule (position : Nat) (r : Rule) :
    Verdict (Strategy.checkRule position r) r.Testable (r.Blames position) := by
  cases hshape : r.operator.shape with
  | cross => exact verdict_of_cross hshape
  | scalar => exact verdict_of_scalar hshape
  | range =>
    by_cases hbounds : ∃ upper, r.Bounded upper
    · obtain ⟨upper, hr⟩ := hbounds
      exact verdict_of_bounded hr
    · exact verdict_of_unbounded hshape (not_exists.mp hbounds)

end Rule

namespace Exit

def Sound : Exit → Prop
  | .manual => True
  | .profitTarget x | .stopLoss x | .trailingStop x => x.IsPercent
  | .timeBased period unit => 1 ≤ period.toNat ∧ period.toNat ≤ unit.longest
  | .indicatorBased _ operator value => operator.ClosesPosition ∧ ∃ x, Binary64.Typed value x

inductive Blames : Exit → Violation → Prop
  | percent {e : Exit} {x : Binary64} (hx : e.percent? = some x) (h : ¬ x.IsPercent) :
      Blames e (.exitValueOutOfRange e.kind x)
  | period {period : UInt32} {unit : TimeUnit}
      (h : ¬ (1 ≤ period.toNat ∧ period.toNat ≤ unit.longest)) :
      Blames (.timeBased period unit) (.timePeriodOutOfRange unit period)
  | operator {indicator : Indicator} {operator : Operator} {value : String}
      (h : ¬ operator.ClosesPosition) :
      Blames (.indicatorBased indicator operator value) (.unsupportedExitOperator operator)
  | value {indicator : Indicator} {operator : Operator} {value : String}
      (hoperator : operator.ClosesPosition) (h : ∀ x, ¬ Binary64.Typed value x) :
      Blames (.indicatorBased indicator operator value) (.nonNumericExitValue value)

theorem place?_greatestPercent :
    greatestPercent.place? = some (50 * Binary64.unitsOfOne : Int) := by
  decide +kernel

theorem verdict_checkPercent (k : ExitKind) (x : Binary64) :
    Verdict (checkPercent k x) x.IsPercent fun v ↦
      ¬ x.IsPercent ∧ .exitValueOutOfRange k x = v := by
  have hiff : (Binary64.zero.lt x && x.le greatestPercent) = true ↔ x.IsPercent := by
    have hzero : Binary64.zero.place? = some 0 := by decide
    rw [Binary64.lt, Binary64.le, hzero, place?_greatestPercent, Binary64.IsPercent]
    generalize (50 * Binary64.unitsOfOne : Int) = greatest
    cases x.place? <;> simp
  exact (Verdict.ite _ _).congr hiff fun v ↦ by rw [hiff]

theorem verdict_of_percent {e : Exit} {x : Binary64} (hx : e.percent? = some x) :
    Verdict (checkPercent e.kind x) x.IsPercent e.Blames := by
  refine (verdict_checkPercent e.kind x).congr Iff.rfl fun v ↦ ?_
  constructor
  · rintro ⟨h, rfl⟩
    exact .percent hx h
  · intro h
    cases h with
    | percent hx' h =>
      obtain rfl := Option.some.inj (hx.symm.trans hx')
      exact ⟨h, rfl⟩
    | period | operator | value => cases hx

theorem verdict_check (e : Exit) : Verdict e.check e.Sound e.Blames := by
  cases e with
  | manual =>
    refine Verdict.ok.congr Iff.rfl fun v ↦ iff_of_false not_false ?_
    intro h
    cases h with
    | percent hx => cases hx
  | profitTarget x | stopLoss x | trailingStop x => exact verdict_of_percent rfl
  | timeBased period unit =>
    refine (Verdict.ite _ _).congr Iff.rfl fun v ↦ ?_
    constructor
    · rintro ⟨h, rfl⟩
      exact .period h
    · intro h
      cases h with
      | percent hx => cases hx
      | period h => exact ⟨h, rfl⟩
  | indicatorBased indicator operator value =>
    rw [check]
    have hvalue : (Binary64.ofNumeral? (Text.trim value)).isSome ↔ ∃ x, Binary64.Typed value x := by
      simp only [Option.isSome_iff_exists, Binary64.ofNumeral?_eq_some_iff]
      rfl
    split
    · next hoperator =>
      refine (Verdict.ite _ _).congr ?_ fun v ↦ ?_
      · exact hvalue.trans (and_iff_right hoperator).symm
      · rw [hvalue]
        constructor
        · rintro ⟨h, rfl⟩
          exact .value hoperator (not_exists.mp h)
        · intro h
          cases h with
          | percent hx => cases hx
          | operator h => exact absurd hoperator h
          | value _ h => exact ⟨not_exists.mpr h, rfl⟩
    · next hoperator =>
      refine (Verdict.error _).congr ?_ fun v ↦ ?_
      · exact iff_of_false not_false fun h ↦ hoperator h.1
      · constructor
        · rintro rfl
          exact .operator hoperator
        · intro h
          cases h with
          | percent hx => cases hx
          | operator => rfl
          | value h => exact absurd h hoperator

end Exit

namespace Strategy

structure Testable (st : Strategy) : Prop where
  conditions : st.conditions ≠ []
  rules : ∀ c ∈ st.conditions, c.rule.Testable
  exit : st.exit.Sound

inductive Blames (st : Strategy) : Violation → Prop
  | noConditions (h : st.conditions = []) : Blames st .noConditions
  | condition {before after : List Condition} {c : Condition} {v : Violation}
      (h : st.conditions = before ++ c :: after) (hbefore : ∀ b ∈ before, b.rule.Testable)
      (hc : c.rule.Blames (before.length + 1) v) : Blames st v
  | exit {v : Violation} (hne : st.conditions ≠ []) (hrules : ∀ c ∈ st.conditions, c.rule.Testable)
      (h : st.exit.Blames v) : Blames st v

theorem checkRules_eq_forM (position : Nat) (rs : List Rule) :
    checkRules position rs = (rs.zipIdx position).forM fun r ↦ checkRule r.2 r.1 := by
  induction rs generalizing position with
  | nil => rfl
  | cons r rs ih =>
    rw [checkRules, ih]
    rfl

theorem zipIdx_eq_append_cons_iff {α : Type} {as : List α} {k : Nat} {before after : List (α × Nat)}
    {p : α × Nat} : as.zipIdx k = before ++ p :: after ↔
      ∃ xs a ys, as = xs ++ a :: ys ∧ before = xs.zipIdx k ∧ p = (a, k + xs.length) ∧
        after = ys.zipIdx (k + xs.length + 1) := by
  rw [List.zipIdx_eq_append_iff]
  constructor
  · rintro ⟨xs, rest, rfl, rfl, hrest⟩
    obtain ⟨a, ys, rfl, rfl, rfl⟩ := List.zipIdx_eq_cons_iff.mp hrest.symm
    exact ⟨xs, a, ys, rfl, rfl, rfl, rfl⟩
  · rintro ⟨xs, a, ys, rfl, rfl, rfl, rfl⟩
    exact ⟨xs, a :: ys, rfl, rfl, rfl⟩

theorem forall_mem_zipIdx_iff {α : Type} {P : α → Prop} (as : List α) (k : Nat) :
    (∀ p ∈ as.zipIdx k, P p.1) ↔ ∀ a ∈ as, P a := by
  rw [← List.forall_mem_map, List.zipIdx_map_fst]

theorem verdict_checkRules (position : Nat) (rs : List Rule) :
    Verdict (checkRules position rs) (∀ r ∈ rs, r.Testable) fun v ↦
      ∃ before r after, rs = before ++ r :: after ∧ (∀ b ∈ before, b.Testable) ∧
        r.Blames (position + before.length) v := by
  rw [checkRules_eq_forM]
  refine (Verdict.forM (fun p ↦ p.1.verdict_checkRule p.2) _).congr (forall_mem_zipIdx_iff ..) ?_
  intro v
  constructor
  · rintro ⟨before, p, after, hcut, hbefore, hp⟩
    obtain ⟨xs, r, ys, rfl, rfl, rfl, -⟩ := zipIdx_eq_append_cons_iff.mp hcut
    exact ⟨xs, r, ys, rfl, (forall_mem_zipIdx_iff ..).mp hbefore, hp⟩
  · rintro ⟨xs, r, ys, rfl, hxs, hr⟩
    refine ⟨_, _, _, zipIdx_eq_append_cons_iff.mpr ⟨xs, r, ys, rfl, rfl, rfl, rfl⟩, ?_, hr⟩
    exact (forall_mem_zipIdx_iff ..).mpr hxs

theorem verdict_conditions (cs : List Condition) :
    Verdict (checkRules 1 (cs.map (·.rule))) (∀ c ∈ cs, c.rule.Testable) fun v ↦
      ∃ before c after, cs = before ++ c :: after ∧ (∀ b ∈ before, b.rule.Testable) ∧
        c.rule.Blames (before.length + 1) v := by
  refine (verdict_checkRules 1 _).congr List.forall_mem_map fun v ↦ ?_
  constructor
  · rintro ⟨before, r, after, hcut, hbefore, hr⟩
    obtain ⟨xs, rest, rfl, rfl, hrest⟩ := List.map_eq_append_iff.mp hcut
    obtain ⟨c, ys, rfl, rfl, rfl⟩ := List.map_eq_cons_iff.mp hrest
    rw [List.length_map, Nat.add_comm] at hr
    exact ⟨xs, c, ys, rfl, List.forall_mem_map.mp hbefore, hr⟩
  · rintro ⟨xs, c, ys, rfl, hxs, hc⟩
    refine ⟨xs.map (·.rule), c.rule, ys.map (·.rule), by simp, List.forall_mem_map.mpr hxs, ?_⟩
    rwa [List.length_map, Nat.add_comm]

theorem verdict_check (st : Strategy) : Verdict st.check st.Testable st.Blames := by
  unfold check
  split
  · next hnil =>
    refine (Verdict.error _).congr (iff_of_false not_false fun h ↦ h.conditions hnil) fun v ↦ ?_
    constructor
    · rintro rfl
      exact .noConditions hnil
    · intro h
      cases h with
      | noConditions => rfl
      | condition h => exact absurd (hnil.symm.trans h) (by simp)
      | exit hne => exact absurd hnil hne
  · next hne =>
    refine ((verdict_conditions _).bind st.exit.verdict_check).congr ?_ fun v ↦ ?_
    · exact ⟨fun h ↦ ⟨hne, h.1, h.2⟩, fun h ↦ ⟨h.rules, h.exit⟩⟩
    · constructor
      · rintro (⟨before, c, after, h, hbefore, hc⟩ | ⟨hrules, h⟩)
        · exact .condition h hbefore hc
        · exact .exit hne hrules h
      · intro h
        cases h with
        | noConditions hnil => exact absurd hnil hne
        | condition h hbefore hc => exact .inl ⟨_, _, _, h, hbefore, hc⟩
        | exit _ hrules h => exact .inr ⟨hrules, h⟩

/-- A strategy passes its check exactly if it has conditions, all of them can be tested and its exit
is sound; and otherwise the check reports exactly what is wrong first. -/
theorem check_reports_the_first_fault (st : Strategy) :
    (st.check = .ok () ↔ st.Testable) ∧ ∀ v, st.check = .error v ↔ st.Blames v :=
  ⟨st.verdict_check.ok_iff, st.verdict_check.error_iff⟩

/-- The upper bound of the second rule is blank. The exit is not looked at. -/
example : check ⟨[⟨"a", .initial⟩, ⟨"b", ⟨.rsi 14, .between, " 3e1 ", none, some " "⟩⟩], .and,
    .long, .stopLoss .nan⟩ = .error (.missingRangeBound 2) := by
  decide +kernel

end Strategy

end TradingRules
