import TradingRules.Condition.Crosses
import TradingRules.Condition.Document
import TradingRules.Proofs.Condition.Editing
import TradingRules.Proofs.Document.Written

namespace TradingRules

namespace Rule

theorem fits_of_none {r : Rule} (hs : r.compareSeries = none) (hv : r.compareValue = none) :
    r.Fits :=
  ⟨fun _ ↦ hs, fun _ ↦ hv⟩

theorem Fits.usedSeries_eq {r : Rule} (h : r.Fits) : r.usedSeries = r.compareSeries :=
  ite_eq_left_iff.mpr fun hcross ↦ (h.1 hcross).symm

theorem Fits.usedValue_eq {r : Rule} (h : r.Fits) : r.usedValue = r.compareValue :=
  ite_eq_right_iff.mpr fun hscalar ↦ (h.2 hscalar).symm

theorem fits_crossing (primary compare : Indicator) (value : String) :
    (crossing primary compare value).Fits :=
  ⟨fun h ↦ absurd rfl h, fun _ ↦ rfl⟩

theorem fits_of_cross {r : Rule} (h : r.operator.shape = .cross) (s : Option Series) :
    Fits { r with compareSeries := s } :=
  ⟨fun hc ↦ absurd h hc, fun hs ↦ by simp [h] at hs⟩

theorem fits_edit {r r' : Rule} {e : Edit} (hr : r.Fits) (h : r.edit e = .ok r') : r'.Fits := by
  obtain ⟨hadmitted, hbecomes⟩ := becomes_of_edit h
  cases e with
  | indicator i =>
    obtain rfl := hbecomes
    exact hr
  | operator o =>
    obtain ⟨second, upper, rfl, -, hsecond, -, hupper⟩ := hbecomes
    exact ⟨hsecond, hupper⟩
  | value s =>
    obtain rfl := hbecomes
    exact hr
  | compareIndicator i =>
    obtain rfl := hbecomes
    exact fits_of_cross (not_not.mp hadmitted) _
  | compareValue s =>
    obtain rfl := hbecomes
    exact ⟨hr.1, fun hs ↦ absurd hs hadmitted⟩
  | parameter side name n =>
    cases side with
    | primary =>
      obtain ⟨s, rfl, -⟩ := hbecomes
      exact hr
    | compare =>
      obtain ⟨second, s, -, rfl, -⟩ := hbecomes
      have hcross : r.operator.shape = .cross := not_not.mp fun h ↦ hadmitted (.inl ⟨rfl, h⟩)
      exact fits_of_cross hcross _

end Rule

namespace Condition

theorem Bag.fits_rule (b : Bag) (i : Indicator) (o : Operator) : (b.rule i o).Fits :=
  ⟨fun h ↦ if_neg h, fun h ↦ if_pos h⟩

theorem Bag.exists_rule_of_finish {absent : Field → DocumentError} {b : Bag}
    {c : Condition (Option String)} (h : b.finish absent = .ok c) :
    ∃ i o, c = ⟨b.id, b.rule i o⟩ := by
  unfold finish at h
  split at h
  · cases h
  · cases h
  · next i o _ _ => exact ⟨i, o, (Except.ok.inj h).symm⟩

theorem fits_of_decoder {origin : Origin} {s : Source} {c : Condition (Option String)}
    (h : decoder origin s = .ok c) : c.rule.Fits := by
  obtain ⟨absent, b, -, hb⟩ := Decoder.Record.exists_finish_of_decode
    (P := fun _ ↦ True) (fun _ _ _ _ _ _ ↦ trivial) trivial h
  obtain ⟨i, o, rfl⟩ := Bag.exists_rule_of_finish hb
  exact b.fits_rule i o

/-- How a condition comes into being; one that is read without an identity gets a new one. -/
inductive Made : Condition → Prop
  | ofOperator (id : String) (i : Indicator) (o : Operator) (value : String) :
      Made ⟨id, .ofOperator i o value⟩
  | crossing (id : String) (primary compare : Indicator) (value : String) :
      Made ⟨id, .crossing primary compare value⟩
  | initial (id : String) : Made ⟨id, .initial⟩
  | added (id : String) : Made ⟨id, .added⟩
  | common (id : String) (c : Crossing) : Made ⟨id, c.rule⟩
  | read (newId : String) {origin : Origin} {s : Source} {c : Condition (Option String)} :
      decoder origin s = .ok c → Made (Id.run (c.identify newId))

theorem rule_identify (c : Condition (Option String)) (newId : String) :
    (Id.run (c.identify newId)).rule = c.rule := by
  obtain ⟨id, rule⟩ := c
  cases id <;> rfl

theorem Made.fits {c : Condition} (h : Made c) : c.rule.Fits := by
  cases h with
  | ofOperator => exact Rule.fits_of_none rfl rfl
  | crossing => exact Rule.fits_crossing _ _ _
  | initial => exact Rule.fits_of_none rfl rfl
  | added => exact Rule.fits_of_none rfl rfl
  | common => exact Rule.fits_crossing _ _ _
  | read newId h =>
    rw [rule_identify]
    exact fits_of_decoder h

theorem fits_edit {c c' : Condition} {e : Edit} (hc : c.rule.Fits) (h : c.edit e = .ok c') :
    c'.rule.Fits := by
  obtain ⟨r, hr, h⟩ := bind_eq_ok_iff.mp h
  exact Except.ok.inj h ▸ Rule.fits_edit hc hr

theorem fits_change {c : Condition} (hc : c.rule.Fits) (k : Change) : (c.change k).rule.Fits := by
  cases k with
  | edit e =>
    cases h : c.edit e with
    | error v => simpa [change, h] using hc
    | ok c' => simpa [change, h] using fits_edit hc h
  | id s => exact hc
  | series s => exact hc
  | value s => exact hc

theorem Made.fits_changes {c : Condition} (h : Made c) (ks : List Change) :
    (ks.foldl change c).rule.Fits :=
  List.foldlRecOn (motive := fun c ↦ c.rule.Fits) ks change h.fits fun _ hc k _ ↦ fits_change hc k

end Condition

end TradingRules
