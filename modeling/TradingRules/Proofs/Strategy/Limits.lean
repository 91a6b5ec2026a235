import TradingRules.Proofs.Condition.Editing
import TradingRules.Proofs.Strategy.Identities

namespace TradingRules

theorem forM_eq_ok_iff {ε α : Type} {f : α → Except ε Unit} {as : List α} :
    as.forM f = .ok () ↔ ∀ a ∈ as, f a = .ok () := by
  induction as with
  | nil => exact ⟨fun _ _ h ↦ absurd h List.not_mem_nil, fun _ ↦ rfl⟩
  | cons a as ih =>
    rw [List.forall_mem_cons, ← ih]
    refine bind_eq_ok_iff.trans ⟨?_, fun h ↦ ⟨(), h⟩⟩
    rintro ⟨_, h⟩
    exact h

namespace Rule

structure InRange (r : Rule) : Prop where
  series : r.series.InRange
  compareSeries : ∀ s, r.compareSeries = some s → s.InRange

variable {r : Rule}

theorem InRange.of_none (hseries : r.series.InRange) (h : r.compareSeries = none) : r.InRange :=
  ⟨hseries, fun s hs ↦ by simp [h] at hs⟩

theorem InRange.of_some (hseries : r.series.InRange) {s : Series} (h : r.compareSeries = some s)
    (hs : s.InRange) : r.InRange :=
  ⟨hseries, fun _ ht ↦ Option.some.inj (h.symm.trans ht) ▸ hs⟩

theorem inRange_ofOperator (i : Indicator) (o : Operator) (value : String) :
    (ofOperator i o value).InRange :=
  .of_none (Series.inRange_standard i) rfl

theorem inRange_crossing (primary compare : Indicator) (value : String) :
    (crossing primary compare value).InRange :=
  .of_some (Series.inRange_standard primary) rfl (Series.inRange_standard compare)

theorem InRange.edit {r' : Rule} {e : Edit} (hr : r.InRange) (h : r.edit e = .ok r') :
    r'.InRange := by
  obtain ⟨hadmitted, hbecomes⟩ := becomes_of_edit h
  cases e with
  | indicator i =>
    obtain rfl := hbecomes
    exact ⟨Series.inRange_standard i, hr.compareSeries⟩
  | operator o =>
    obtain ⟨second, upper, rfl, hkept, hdropped, -, -⟩ := hbecomes
    refine ⟨hr.series, fun s hs ↦ ?_⟩
    by_cases hcross : o.shape = .cross
    · exact hr.compareSeries s ((hkept hcross).symm.trans hs)
    · cases (hdropped hcross).symm.trans hs
  | value s =>
    obtain rfl := hbecomes
    exact ⟨hr.series, hr.compareSeries⟩
  | compareIndicator i =>
    obtain rfl := hbecomes
    exact .of_some hr.series rfl (Series.inRange_standard i)
  | compareValue s =>
    obtain rfl := hbecomes
    exact ⟨hr.series, hr.compareSeries⟩
  | parameter side name n =>
    have hn : 1 ≤ n.toNat ∧ n.toNat ≤ 200 := not_not.mp fun h ↦ hadmitted (.inr (.inl h))
    cases side with
    | primary =>
      obtain ⟨s, rfl, hchanged⟩ := hbecomes
      exact ⟨hchanged.inRange hn hr.series, hr.compareSeries⟩
    | compare =>
      obtain ⟨second, s, hsecond, rfl, hchanged⟩ := hbecomes
      exact .of_some hr.series rfl (hchanged.inRange hn (hr.compareSeries second hsecond))

theorem InRange.of_checkSeries (h : Strategy.checkSeries r = .ok ()) : r.InRange := by
  obtain ⟨_, hseries, h⟩ := bind_eq_ok_iff.mp h
  refine ⟨.of_check hseries, fun s hs ↦ .of_check ?_⟩
  simpa [hs] using h

end Rule

theorem Condition.inRange_edit {c c' : Condition} {e : Edit} (hc : c.rule.InRange)
    (h : c.edit e = .ok c') : c'.rule.InRange := by
  obtain ⟨r, hr, h⟩ := bind_eq_ok_iff.mp h
  exact Except.ok.inj h ▸ hc.edit hr

namespace Exit

theorem checkPercent_ofNat {n : Nat} (h : n ∈ [5, 10]) (k : ExitKind) :
    checkPercent k (.ofNat n) = .ok () := by
  have hn : ∀ n ∈ [5, 10],
      (Binary64.zero.lt (.ofNat n) && (Binary64.ofNat n).le greatestPercent) = true := by
    decide +kernel
  exact if_pos (hn n h)

theorem checkPercent_eq_ok {k k' : ExitKind} {x : Binary64} (h : checkPercent k x = .ok ()) :
    checkPercent k' x = .ok () := by
  unfold checkPercent at h ⊢
  split at h
  · next hx => exact if_pos hx
  · cases h

theorem check_standard (k : ExitKind) : (standard k).check = .ok () := by
  cases k with
  | profitTarget | stopLoss | trailingStop => exact checkPercent_ofNat (by decide) _
  | manual | timeBased | indicatorBased => rfl

theorem check_preset (p : ExitPreset) : p.exit.check = .ok () := by
  cases p with
  | trailingStop5 => exact check_standard .trailingStop
  | profitTarget10 => exact check_standard .profitTarget
  | manual | hold7Days => rfl

theorem check_withKind {e : Exit} (he : e.check = .ok ()) (k : ExitKind) :
    (e.withKind k).check = .ok () := by
  unfold withKind
  split
  · exact he
  split
  · next x hx =>
    have hpercent : ∀ k, checkPercent k x = .ok () := by
      intro k
      cases e with
      | profitTarget y | stopLoss y | trailingStop y =>
        exact checkPercent_eq_ok (Option.some.inj hx ▸ he)
      | _ => cases hx
    cases k with
    | profitTarget | stopLoss | trailingStop => exact hpercent _
    | manual => exact check_standard .manual
    | timeBased => exact check_standard .timeBased
    | indicatorBased => exact check_standard .indicatorBased
  · exact check_standard k

end Exit

namespace Strategy

structure InRange {Id : Type} (st : Strategy Id) : Prop where
  rules : ∀ c ∈ st.conditions, c.rule.InRange
  exit : st.exit.check = .ok ()

theorem inRange_initial (id : String) : (initial id).InRange where
  rules := by
    intro c hc
    obtain rfl := List.mem_singleton.mp hc
    exact Rule.inRange_ofOperator _ _ _
  exit := rfl

theorem InRange.identifiedAs {st : Strategy (Option String)} {ids : List String} {st' : Strategy}
    (hst : st.InRange) (h : st.IdentifiedAs ids st') : st'.InRange where
  rules := by
    intro c hc
    have hrule : c.rule ∈ st.conditions.map (·.rule) :=
      h.conditions.map_rule ▸ List.mem_map_of_mem hc
    obtain ⟨c', hc', heq⟩ := List.mem_map.mp hrule
    exact heq ▸ hst.rules c' hc'
  exit := h.exit ▸ hst.exit

end Strategy

end TradingRules
