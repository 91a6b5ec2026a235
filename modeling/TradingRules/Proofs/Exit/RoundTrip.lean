import TradingRules.Exit.Document
import TradingRules.Proofs.Document.Written
import TradingRules.Proofs.Json.RoundTrip
import TradingRules.Proofs.Names

namespace TradingRules

namespace Exit

theorem field?_name (i : Field) : record.field? (record.name i) = some i := by
  cases i <;> decide

def fields (e : Exit) : List (Field × Json) :=
  (.type, .string e.kind.name) :: match e with
    | .manual => []
    | .profitTarget x | .stopLoss x | .trailingStop x => [(.value, .ofBinary64 x)]
    | .timeBased period unit =>
      [(.timePeriod, .ofNat period.toNat), (.timeUnit, .string unit.name)]
    | .indicatorBased indicator operator value =>
      [(.indicator, .string indicator.name), (.operator, .string operator.name),
        (.indicatorValue, .string value)]

theorem toJson_eq_written (e : Exit) : e.toJson = record.written e.fields := by
  cases e <;> rfl

theorem nodup_fields (e : Exit) : (e.fields.map Prod.fst).Nodup := by
  cases e <;> simp [fields]

def HasFinitePercent (e : Exit) : Prop :=
  ∀ x, e.percent? = some x → x.isFinite

theorem readAll_fields (origin : Origin) {e : Exit} (he : e.HasFinitePercent) :
    ∃ b, record.readAll origin record.start e.fields = .ok b ∧ b.exit = e := by
  have htype (k : ExitKind) := Forgiving.choice_string origin k.lookup_name
  have hvalue {x : Binary64} (hx : x.isFinite) := Forgiving.number_ofBinary64 origin hx
  have hperiod := Forgiving.count_ofNat origin
  have hunit (u : TimeUnit) := Forgiving.choice_string origin u.lookup_name
  have hindicator (i : Indicator) := Forgiving.choice_string origin i.lookup_name
  have hoperator (o : Operator) := Forgiving.choice_string origin o.lookup_name
  have htext := Forgiving.text_string origin
  have hread : record.read = Bag.read := rfl
  rw [show record.start = Bag.empty from rfl]
  cases e with
  | manual =>
    refine ⟨{ Bag.empty with type := some .manual }, ?_, rfl⟩
    simp [fields, Decoder.Record.readAll, hread, Bag.read, htype, kind, bind, Except.bind, pure,
      Except.pure]
  | profitTarget x =>
    refine ⟨{ Bag.empty with type := some .profitTarget, value := some x }, ?_, rfl⟩
    simp [fields, Decoder.Record.readAll, hread, Bag.read, htype, hvalue (he x rfl), kind, bind,
      Except.bind, pure, Except.pure]
  | stopLoss x =>
    refine ⟨{ Bag.empty with type := some .stopLoss, value := some x }, ?_, rfl⟩
    simp [fields, Decoder.Record.readAll, hread, Bag.read, htype, hvalue (he x rfl), kind, bind,
      Except.bind, pure, Except.pure]
  | trailingStop x =>
    refine ⟨{ Bag.empty with type := some .trailingStop, value := some x }, ?_, rfl⟩
    simp [fields, Decoder.Record.readAll, hread, Bag.read, htype, hvalue (he x rfl), kind, bind,
      Except.bind, pure, Except.pure]
  | timeBased period unit =>
    refine ⟨{ Bag.empty with
      type := some .timeBased, timePeriod := some period, timeUnit := some unit }, ?_, rfl⟩
    simp [fields, Decoder.Record.readAll, hread, Bag.read, htype, hperiod, hunit, kind, bind,
      Except.bind, pure, Except.pure]
  | indicatorBased indicator operator value =>
    refine ⟨{ Bag.empty with
      type := some .indicatorBased, indicator := some indicator, operator := some operator,
      indicatorValue := some value }, ?_, rfl⟩
    simp [fields, Decoder.Record.readAll, hread, Bag.read, htype, hindicator, hoperator, htext,
      kind, bind, Except.bind, pure, Except.pure]

theorem decode_toJson (origin : Origin) {e : Exit} (he : e.HasFinitePercent) :
    decoder origin (.ofJson e.toJson) = .ok e := by
  obtain ⟨b, hb, hexit⟩ := readAll_fields origin he
  rw [toJson_eq_written, decoder,
    Decoder.Record.decode_written origin field?_name e.nodup_fields hb]
  exact congrArg Except.ok hexit

/-- The numbers of an exit are its percentage and numbers that are read back from their texts. -/
theorem within_toJson {kind : Number → Prop} (hkind : ∀ n, n.Legible → kind n) {e : Exit}
    (he : e.HasFinitePercent) (hpercent : ∀ x, e.percent? = some x → kind (.real x)) {levels : Nat}
    (hlevels : levels ≠ 0) : e.toJson.Within levels kind := by
  have hreal (x : Binary64) (h : e.percent? = some x) :
      (Json.ofBinary64 x).Within (levels - 1) kind := by
    rw [Json.ofBinary64, if_pos (he x h)]
    exact hpercent x h
  have hperiod (n : UInt32) : (Json.ofNat n.toNat).Within (levels - 1) kind :=
    hkind _ (Number.legible_ofNat (Nat.lt_trans n.toNat_lt (by decide)))
  have hstring (s : String) : (Json.string s).Within (levels - 1) kind := trivial
  refine ⟨hlevels, hstring _, ?_⟩
  rw [Json.withinMembers_iff]
  cases e with
  | manual => simp [fieldMembers]
  | profitTarget x => simp [fieldMembers, hreal x rfl]
  | stopLoss x => simp [fieldMembers, hreal x rfl]
  | trailingStop x => simp [fieldMembers, hreal x rfl]
  | timeBased period unit => simp [fieldMembers, hperiod, hstring]
  | indicatorBased indicator operator value => simp [fieldMembers, hstring]

theorem hasFinitePercent_of_none {e : Exit} (h : e.percent? = none) : e.HasFinitePercent :=
  fun x hx ↦ by simp [h] at hx

theorem hasFinitePercent_standard (k : ExitKind) : (standard k).HasFinitePercent := by
  intro x hx
  cases k <;> simp [standard, percent?] at hx
  all_goals
    subst hx
    decide +kernel

theorem hasFinitePercent_withPercent (e : Exit) {x : Binary64} (hx : x.isFinite)
    (he : e.HasFinitePercent) : (e.withPercent x).HasFinitePercent := by
  intro y hy
  cases e <;> simp_all [withPercent, percent?]

theorem hasFinitePercent_withKind {e : Exit} (h : e.HasFinitePercent) (k : ExitKind) :
    (e.withKind k).HasFinitePercent := by
  unfold withKind
  split
  · exact h
  · split
    · next x hx => exact hasFinitePercent_withPercent _ (h x hx) (hasFinitePercent_standard k)
    · exact hasFinitePercent_standard k

theorem hasFinitePercent_preset (p : ExitPreset) : p.exit.HasFinitePercent := by
  cases p with
  | manual => exact hasFinitePercent_standard .manual
  | trailingStop5 => exact hasFinitePercent_standard .trailingStop
  | profitTarget10 => exact hasFinitePercent_standard .profitTarget
  | hold7Days => exact hasFinitePercent_standard .timeBased

theorem isFinite_of_number {origin : Origin} {s : Source} {x : Binary64}
    (h : Forgiving.number origin s = .ok (some x)) : x.isFinite := by
  obtain ⟨v, -, h⟩ := bind_eq_ok_iff.mp h
  have hx : v.bind Forgiving.numberOf = some x := Except.ok.inj h
  obtain ⟨v, -, hv⟩ := Option.bind_eq_some_iff.mp hx
  exact (Option.filter_eq_some_iff.mp hv).2

theorem Bag.read_value {origin : Origin} {i : Field} {s : Source} {b b' : Bag}
    (hb : ∀ x, b.value = some x → x.isFinite) (h : b.read origin i s = .ok b') :
    ∀ x, b'.value = some x → x.isFinite := by
  cases i <;> obtain ⟨a, ha, h⟩ := bind_eq_ok_iff.mp h <;> obtain rfl := Except.ok.inj h
  case value =>
    intro x hx
    obtain rfl : a = some x := hx
    exact isFinite_of_number ha
  all_goals exact hb

theorem Bag.hasFinitePercent_exit {b : Bag} (hb : ∀ x, b.value = some x → x.isFinite) :
    b.exit.HasFinitePercent := by
  have hstandard := hasFinitePercent_standard (b.type.getD Exit.default.kind)
  have hvalue (x : Binary64) (hx : x.isFinite) : (b.value.getD x).isFinite := by
    cases h : b.value with
    | none => exact hx
    | some y => exact hb y h
  intro x hx
  unfold exit at hx
  generalize standard (b.type.getD Exit.default.kind) = e at hstandard hx
  cases e with
  | profitTarget y => exact Option.some.inj hx ▸ hvalue y (hstandard y rfl)
  | stopLoss y => exact Option.some.inj hx ▸ hvalue y (hstandard y rfl)
  | trailingStop y => exact Option.some.inj hx ▸ hvalue y (hstandard y rfl)
  | _ => cases hx

theorem hasFinitePercent_of_decoder {origin : Origin} {s : Source} {e : Exit}
    (h : decoder origin s = .ok e) : e.HasFinitePercent := by
  obtain ⟨absent, b, hb, hfinish⟩ := Decoder.Record.exists_finish_of_decode
    (P := fun b : Bag ↦ ∀ x, b.value = some x → x.isFinite)
    (fun _ _ _ _ hb h ↦ Bag.read_value hb h) (by simp [record, Bag.empty]) h
  exact Except.ok.inj hfinish ▸ Bag.hasFinitePercent_exit hb

theorem isFinite_of_checkPercent {k : ExitKind} {x : Binary64} (h : checkPercent k x = .ok ()) :
    x.isFinite := by
  unfold checkPercent at h
  split at h
  · next hx =>
    rw [Bool.and_eq_true] at hx
    cases x with
    | finite s rank => rfl
    | infinite s =>
      cases s with
      | false => exact absurd hx.2 (by decide +kernel)
      | true => exact absurd hx.1 (by decide +kernel)
    | nan => exact absurd hx.2 (by decide +kernel)
  · cases h

theorem hasFinitePercent_of_check {e : Exit} (h : e.check = .ok ()) : e.HasFinitePercent := by
  intro x hx
  cases e with
  | profitTarget y => exact Option.some.inj hx ▸ isFinite_of_checkPercent h
  | stopLoss y => exact Option.some.inj hx ▸ isFinite_of_checkPercent h
  | trailingStop y => exact Option.some.inj hx ▸ isFinite_of_checkPercent h
  | _ => cases hx

end Exit

end TradingRules
