import TradingRules.Proofs.Condition.Fields
import TradingRules.Proofs.Document.Absent
import TradingRules.Proofs.Document.Counts
import TradingRules.Proofs.Exit.Fields

namespace TradingRules

/-- How a value is read as text: a string as it is, any other value in its JSON spelling. -/
inductive Json.ReadAs : Json → String → Prop
  | string (s : String) : ReadAs (.string s) s
  | spelling {v : Json} (h : ∀ s, v ≠ .string s) : ReadAs v v.compact

theorem Json.readAs_textOf (v : Json) : v.ReadAs (Forgiving.textOf v) := by
  cases v with
  | string s => exact .string s
  | null | bool | number | array | object => exact .spelling nofun

namespace Condition

/-- The fields that forgive whatever stands for them. -/
def Field.forgiving : List Field :=
  .value :: .compareValue ::
    (Parameter.all.map (.parameter .primary) ++ Parameter.all.map (.parameter .compare))

/-- Such a field takes a value for none. A null is never more than that; a text is made of
everything else, a parameter only of what stands for a count. -/
def Field.Ignores : Field → Json → Prop
  | .value, v | .compareValue, v => v = .null
  | .parameter _ _, v => ∀ n, ¬ v.Counts n
  | .id, _ | .indicator, _ | .operator, _ | .compareIndicator, _ => False

theorem field?_of_spelling {side : Side} {p : Parameter} {name : String}
    (h : name ∈ (Field.parameter side p).spellings) :
    record.field? name = some (.parameter side p) := by
  revert name
  cases side <;> cases p <;> decide +kernel

variable {origin : Origin} {members : List (Option String × Source)} {closed : Bool} {i : Field}
  {s : Source} {v : Json}

theorem Field.ignores_null (hi : i ∈ forgiving) : i.Ignores .null := by
  cases i with
  | id | indicator | operator | compareIndicator => simp [forgiving] at hi
  | value | compareValue => rfl
  | parameter =>
    intro n hn
    cases hn

theorem reader_of_ignores (hs : s.toJson? = some v) (hv : i.Ignores v) :
    places.reader i origin s = .ok (places.get i record.start) := by
  cases i with
  | id | indicator | operator | compareIndicator => exact hv.elim
  | value | compareValue =>
    obtain rfl : v = .null := hv
    exact Forgiving.optional_eq_ok _ hs
  | parameter side p =>
    have hcount : v.present?.bind Forgiving.countOf = none := by
      cases hpresent : v.present? with
      | none => rfl
      | some w =>
        rw [Json.eq_of_present? hpresent] at hv
        exact Forgiving.countOf_eq_none_iff.mpr hv
    exact (Forgiving.optional_eq_ok _ hs).trans (congrArg Except.ok hcount)

theorem toJson?_of_reader (hi : i ∈ Field.forgiving) {x : places.Value i}
    (h : places.reader i origin s = .ok x) : ∃ v, s.toJson? = some v := by
  cases i with
  | id | indicator | operator | compareIndicator => simp [Field.forgiving] at hi
  | value | compareValue | parameter => exact Forgiving.toJson?_of_optional h

theorem idle_of_ignores {c : Condition (Option String)}
    (h : decoder origin (.object members closed) = .ok c) (hi : i ∈ Field.forgiving)
    (hignores : ∀ v, record.value? members i = some v → i.Ignores v) :
    places.Idle origin members i := by
  apply places.idle_of_decode_eq_ok h
  intro s x hs hx
  obtain ⟨v, hv⟩ := toJson?_of_reader hi hx
  have hvalue : record.value? members i = v.present? := by
    rw [Decoder.Record.value?, hs, Option.bind_some, hv, Option.bind_some]
  have hv' : i.Ignores v := by
    cases hpresent : v.present? with
    | none =>
      obtain rfl : v = .null := by
        cases v <;> first | rfl | cases hpresent
      exact Field.ignores_null hi
    | some w =>
      rw [Json.eq_of_present? hpresent]
      exact hignores w (hvalue.trans hpresent)
  exact Except.ok.inj (hx.symm.trans (reader_of_ignores hv hv'))

theorem readAs_of_decode {c : Condition (Option String)}
    (h : decoder origin (.object members closed) = .ok c) :
    (∀ v, record.value? members .value = some v → v.ReadAs c.rule.value) ∧
    ∀ v, record.value? members .compareValue = some v → ∃ t, v.ReadAs t ∧
      c.rule.compareValue = if c.rule.operator.shape = .scalar then none else some t := by
  obtain ⟨-, -, -, b, hread, hfinish⟩ := (places.decode_eq_ok_iff origin).mp h
  have htext {i : Field} {v : Json} (hv : record.value? members i = some v) {x : Option String}
      (hx : ∀ s, record.source? members i = some s → Forgiving.text origin s = .ok x) :
      x = some (Forgiving.textOf v) := by
    obtain ⟨s, hs, hv⟩ := Option.bind_eq_some_iff.mp hv
    obtain ⟨w, hw, hv⟩ := Option.bind_eq_some_iff.mp hv
    have hsame := (hx s hs).symm.trans (Forgiving.optional_eq_ok _ hw)
    rw [hv] at hsame
    exact Except.ok.inj hsame
  have hfinish : Bag.finish (fun i ↦ .missingField (record.name i)) b = .ok c := hfinish
  obtain ⟨indicator, operator, hc⟩ := Bag.exists_rule_of_finish hfinish
  constructor
  · intro v hv
    have hvalue : b.value = some _ := htext hv (hread .value).1
    rw [hc, Bag.rule, hvalue]
    exact v.readAs_textOf
  · intro v hv
    have hvalue : b.compareValue = some _ := htext hv (hread .compareValue).1
    refine ⟨_, v.readAs_textOf, ?_⟩
    rw [hc, Bag.rule, hvalue]

end Condition

namespace Strategy

def places : record.Places where
  Value
    | .conditions => List (Condition (Option String))
    | .connective => Connective
    | .direction => Direction
    | .exit => Exit
  reader
    | .conditions => fun origin s ↦
      (·.getD []) <$> Decoder.nullable (Decoder.list Condition.decoder) origin s
    | .connective => fun origin s ↦
      (·.getD .default) <$> Decoder.nullable (Decoder.choice Connective.names) origin s
    | .direction => fun origin s ↦
      (·.getD .default) <$> Decoder.nullable (Decoder.choice Direction.names) origin s
    | .exit => fun origin s ↦ (·.getD .default) <$> Decoder.nullable Exit.decoder origin s
  get
    | .conditions => Strategy.conditions
    | .connective => Strategy.connective
    | .direction => Strategy.direction
    | .exit => Strategy.exit
  put
    | .conditions => fun a st ↦ { st with conditions := a }
    | .connective => fun a st ↦ { st with connective := a }
    | .direction => fun a st ↦ { st with direction := a }
    | .exit => fun a st ↦ { st with exit := a }
  read_eq origin i s st := by
    cases i with
    | conditions => exact Decoder.Record.read_map _ _ fun a ↦ { st with conditions := a }
    | connective => exact Decoder.Record.read_map _ _ fun a ↦ { st with connective := a }
    | direction => exact Decoder.Record.read_map _ _ fun a ↦ { st with direction := a }
    | exit => exact Decoder.Record.read_map _ _ fun a ↦ { st with exit := a }
  get_put i a st := by cases i <;> rfl
  get_put_of_ne {i j} h a st := by
    cases i <;> cases j <;> first | rfl | exact absurd rfl h
  ext {st st'} h := by
    obtain ⟨conditions, connective, direction, exit⟩ := st
    obtain rfl := h .conditions
    obtain rfl := h .connective
    obtain rfl := h .direction
    obtain rfl := h .exit
    rfl

variable {origin : Origin} {members : List (Option String × Source)}

theorem idle_of_null {i : Field} (honce : record.Once members i)
    (hnull : ∀ s, record.source? members i = some s → s = .null) :
    places.Idle origin members i := by
  apply places.idle_of_source? honce
  intro s hs
  rw [hnull s hs]
  cases i <;> rfl

/-- A condition is read as if fields that hold nothing of use to them were not there, whatever they
hold and however many they are, and text is read from every other value. A strategy is read as if
fields that are null were not there. -/
theorem fields_without_use_are_as_good_as_absent :
    (∀ origin members closed (is : List Condition.Field),
      (∀ i ∈ is, Condition.record.Once members i ∧
        ∀ s, Condition.record.source? members i = some s →
          ∃ v, s.toJson? = some v ∧ i.Ignores v) →
      Condition.decoder origin (.object (Condition.record.less is members) closed) =
        Condition.decoder origin (.object members closed)) ∧
    (∀ origin members closed c, Condition.decoder origin (.object members closed) = .ok c →
      (∀ is ⊆ Condition.Field.forgiving,
        (∀ i ∈ is, ∀ v, Condition.record.value? members i = some v → i.Ignores v) →
        Condition.decoder origin (.object (Condition.record.less is members) closed) = .ok c) ∧
      (∀ v, Condition.record.value? members .value = some v → v.ReadAs c.rule.value) ∧
      ∀ v, Condition.record.value? members .compareValue = some v → ∃ t, v.ReadAs t ∧
        c.rule.compareValue = if c.rule.operator.shape = .scalar then none else some t) ∧
    ∀ origin members closed (is : List Field),
      (∀ i ∈ is, record.Once members i ∧ ∀ s, record.source? members i = some s → s = .null) →
      decoder origin (.object (record.less is members) closed) =
        decoder origin (.object members closed) := by
  refine ⟨fun origin members closed is his ↦ ?_, fun origin members closed c hc ↦ ⟨?_, ?_⟩,
    fun origin members closed is his ↦ ?_⟩
  · apply Condition.places.decode_less
    intro i hi
    apply Condition.places.idle_of_source? (his i hi).1
    intro s hs
    obtain ⟨v, hv, hignores⟩ := (his i hi).2 s hs
    exact Condition.reader_of_ignores hv hignores
  · intro is hforgiving his
    rw [← hc]
    apply Condition.places.decode_less
    intro i hi
    exact Condition.idle_of_ignores hc (hforgiving hi) (his i hi)
  · exact Condition.readAs_of_decode hc
  · exact places.decode_less (fun i hi ↦ idle_of_null (his i hi).1 (his i hi).2) closed

theorem damaged_fields_are_read_as_absent :
    let members : List (Option String × Source) := [
      (some "k_period", .number (some (.integer (-5)))), (some "id", .string (some "a")),
      (some "compareFast_period", .array [.null] true), (some "indicator", .string (some "RSI")),
      (some "operator", .string (some "between")), (some "value", .number (some (.integer 30))),
      (some "period", .string (some "14.5")), (some "compareValue", .null)]
    let is : List Condition.Field := [.parameter .compare .fastPeriod, .compareValue,
      .parameter .primary .period, .parameter .primary .kPeriod]
    let rest : List (Option String × Source) := [(some "id", .string (some "a")),
      (some "indicator", .string (some "RSI")), (some "operator", .string (some "between")),
      (some "value", .number (some (.integer 30)))]
    let c : Condition (Option String) := ⟨some "a", .rsi 14, .between, "30", none, none⟩
    let fields : List (Option String × Source) := [(some "conditions", .null),
      (some "action", .string (some "SHORT")), (some "exitCondition", .null)]
    Condition.record.less is members = rest ∧
      Condition.decoder .text (.object members true) = .ok c ∧
      (∀ i ∈ is, Condition.record.Once members i ∧
        ∀ s, Condition.record.source? members i = some s → ∃ v, s.toJson? = some v ∧ i.Ignores v) ∧
      Condition.decoder .text (.object rest true) =
        Condition.decoder .text (.object members true) ∧
      Condition.decoder .text (.object rest true) = .ok c ∧
      (Json.number (.integer 30)).ReadAs c.rule.value ∧
      decoder .value (.object [(some "action", .string (some "SHORT"))] true) =
        decoder .value (.object fields true) := by
  intro members is rest c fields
  obtain ⟨hsame, hread, hnull⟩ := fields_without_use_are_as_good_as_absent
  have hless : Condition.record.less is members = rest := rfl
  have hc : Condition.decoder .text (.object members true) = .ok c := by decide +kernel
  have hdamaged : ∀ i ∈ is, Condition.record.Once members i ∧
      ∀ s, Condition.record.source? members i = some s →
        ∃ v, s.toJson? = some v ∧ i.Ignores v := by
    have hfield {i : Condition.Field} {s : Source} {v : Json}
        (hs : Condition.record.source? members i = some s) (hv : s.toJson? = some v)
        (hi : i.Ignores v) (s' : Source) (hs' : Condition.record.source? members i = some s') :
        ∃ v, s'.toJson? = some v ∧ i.Ignores v := by
      obtain rfl := Option.some.inj (hs.symm.trans hs')
      exact ⟨v, hv, hi⟩
    have hcount {v : Json} (h : Forgiving.countOf v = none) : ∀ n, ¬ v.Counts n :=
      Forgiving.countOf_eq_none_iff.mp h
    simp only [is, List.forall_mem_cons]
    refine ⟨⟨by decide +kernel, hfield rfl rfl (hcount rfl)⟩,
      ⟨by decide +kernel, hfield rfl rfl rfl⟩,
      ⟨by decide +kernel, hfield rfl rfl (hcount (by decide +kernel))⟩,
      ⟨by decide +kernel, hfield rfl rfl (hcount rfl)⟩, List.forall_mem_nil _⟩
  refine ⟨hless, hc, hdamaged, hsame .text members true is hdamaged, ?_, ?_, ?_⟩
  · rw [← hless]
    apply (hread .text members true c hc).1 is (by decide +kernel)
    intro i hi v hv
    obtain ⟨s, hs, hv⟩ := Option.bind_eq_some_iff.mp hv
    obtain ⟨w, hw, hv⟩ := Option.bind_eq_some_iff.mp hv
    obtain ⟨w', hw', hignores⟩ := (hdamaged i hi).2 s hs
    obtain rfl := Option.some.inj (hw.symm.trans hw')
    exact Json.eq_of_present? hv ▸ hignores
  · exact (hread .text members true c hc).2.1 _ rfl
  · refine hnull .value fields true [.conditions, .exit] ?_
    simp only [List.forall_mem_cons]
    exact ⟨⟨by decide +kernel, fun s hs ↦ (Option.some.inj hs).symm⟩,
      ⟨by decide +kernel, fun s hs ↦ (Option.some.inj hs).symm⟩, List.forall_mem_nil _⟩

end Strategy

end TradingRules
