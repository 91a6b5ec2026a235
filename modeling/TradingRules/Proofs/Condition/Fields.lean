import Mathlib.Data.List.Basic
import TradingRules.Proofs.Document.Fields
import TradingRules.Proofs.Condition.RoundTrip
import TradingRules.Proofs.Series

namespace TradingRules

namespace Condition

open Forgiving (chosen countOf textOf)

/-- The fields that every document of a condition needs. -/
structure Head where
  id : String
  indicator : Indicator
  operator : Operator
  deriving DecidableEq

/-- Which fields count, given the second indicator. -/
def relevant (k : Head) (second : Option Indicator) : Field → Bool
  | .id | .indicator | .operator | .value => true
  | .compareIndicator => k.operator.shape = .cross
  | .compareValue => k.operator.shape ≠ .scalar
  | .parameter .primary p => p ∈ k.indicator.schema.map Prod.fst
  | .parameter .compare p => k.operator.shape = .cross ∧ ∃ j ∈ second, p ∈ j.schema.map Prod.fst

variable {origin origin' : Origin} {members members' : List (Option String × Source)}
  {k k' : Head} {second second' : Option Indicator} {d d' : Field → Option Json}

/-- An object with an identity, an indicator and an operator; anything may stand for the other
fields. -/
structure Headed (origin : Origin) (members : List (Option String × Source)) (k : Head) : Prop
    extends record.Valued members where
  id : record.source? members .id = some (.string (some k.id))
  indicator : ∃ s, record.source? members .indicator = some s ∧
    Decoder.choice Indicator.names origin s = .ok k.indicator
  operator : ∃ s, record.source? members .operator = some s ∧
    Decoder.choice Operator.names origin s = .ok k.operator

def Compares (origin : Origin) (members : List (Option String × Source))
    (second : Option Indicator) : Prop :=
  (∀ s, record.source? members .compareIndicator = some s →
    Decoder.nullable (Decoder.choice Indicator.names) origin s = .ok second) ∧
  (record.source? members .compareIndicator = none → second = none)

theorem compares_none (h : record.source? members .compareIndicator = none) :
    Compares origin members none := by
  constructor
  · intro s hs
    cases h.symm.trans hs
  · intro
    rfl

theorem compares_iff_of_source? {s : Source}
    (hs : record.source? members .compareIndicator = some s) :
    Compares origin members second ↔
      Decoder.nullable (Decoder.choice Indicator.names) origin s = .ok second := by
  simp [Compares, hs]

def places : record.Places where
  Value
    | .id => Option String
    | .indicator => Option Indicator
    | .operator => Option Operator
    | .value => Option String
    | .compareIndicator => Option Indicator
    | .compareValue => Option String
    | .parameter _ _ => Option UInt32
  reader
    | .id => fun origin s ↦ some <$> Decoder.string origin s
    | .indicator => fun origin s ↦ some <$> Decoder.choice Indicator.names origin s
    | .operator => fun origin s ↦ some <$> Decoder.choice Operator.names origin s
    | .value => Forgiving.text
    | .compareIndicator => Decoder.nullable (Decoder.choice Indicator.names)
    | .compareValue => Forgiving.text
    | .parameter _ _ => Forgiving.count
  get
    | .id => Bag.id
    | .indicator => Bag.indicator
    | .operator => Bag.operator
    | .value => Bag.value
    | .compareIndicator => Bag.compareIndicator
    | .compareValue => Bag.compareValue
    | .parameter side p => fun b ↦ b.count side p
  put
    | .id => fun a b ↦ { b with id := a }
    | .indicator => fun a b ↦ { b with indicator := a }
    | .operator => fun a b ↦ { b with operator := a }
    | .value => fun a b ↦ { b with value := a }
    | .compareIndicator => fun a b ↦ { b with compareIndicator := a }
    | .compareValue => fun a b ↦ { b with compareValue := a }
    | .parameter side p => fun a b ↦ b.putCount side p a
  read_eq origin i s b := by
    cases i with
    | id => exact Decoder.Record.read_map _ some fun a ↦ { b with id := a }
    | indicator =>
      exact Decoder.Record.read_map _ some fun a ↦ { b with indicator := a }
    | operator =>
      exact Decoder.Record.read_map _ some fun a ↦ { b with operator := a }
    | value | compareIndicator | compareValue | parameter => rfl
  get_put i a b := by cases i <;> simp [Bag.putCount]
  get_put_of_ne {i j} h a b := by
    cases i with
    | parameter side p =>
      cases j with
      | parameter side' p' =>
        apply if_neg
        intro hsame
        exact h (hsame.1 ▸ hsame.2 ▸ rfl)
      | id | indicator | operator | value | compareIndicator | compareValue => rfl
    | id | indicator | operator | value | compareIndicator | compareValue =>
      cases j <;> first | rfl | exact absurd rfl h
  ext {b b'} h := by
    obtain ⟨id, indicator, operator, value, compareIndicator, compareValue, count⟩ := b
    obtain rfl := h .id
    obtain rfl := h .indicator
    obtain rfl := h .operator
    obtain rfl := h .value
    obtain rfl := h .compareIndicator
    obtain rfl := h .compareValue
    have hcount : b'.count = count := funext₂ fun side p ↦ h (.parameter side p)
    rw [← hcount]

def bagOf (k : Head) (second : Option Indicator) (d : Field → Option Json) : Bag where
  id := some k.id
  indicator := some k.indicator
  operator := some k.operator
  value := (d .value).bind fun v ↦ some (textOf v)
  compareIndicator := second
  compareValue := (d .compareValue).bind fun v ↦ some (textOf v)
  count side p := (d (.parameter side p)).bind countOf

def ofFields (k : Head) (second : Option Indicator) (d : Field → Option Json) : Condition :=
  ⟨k.id, (bagOf k second d).rule k.indicator k.operator⟩

theorem Headed.reads (h : Headed origin members k) (second : Option Indicator) {i : Field}
    (hi : i ≠ .compareIndicator) :
    (∀ s, record.source? members i = some s →
      places.reader i origin s = .ok (places.get i (bagOf k second (record.value? members)))) ∧
    (record.source? members i = none →
      places.get i (bagOf k second (record.value? members)) = places.get i .empty) := by
  cases i with
  | id => exact places.reads_of_source? origin h.id rfl
  | indicator =>
    obtain ⟨s, hs, hread⟩ := h.indicator
    exact places.reads_of_source? origin hs (congrArg (some <$> ·) hread)
  | operator =>
    obtain ⟨s, hs, hread⟩ := h.operator
    exact places.reads_of_source? origin hs (congrArg (some <$> ·) hread)
  | compareIndicator => exact absurd rfl hi
  | value | compareValue | parameter => exact h.reads_optional _ origin _

theorem decode_of_headed (h : Headed origin members k) (hc : Compares origin members second) :
    decoder origin (.object members true) =
      .ok (ofFields k second (record.value? members)).stored := by
  have hreads : places.Reads origin (record.known members) .empty
      (bagOf k second (record.value? members)) := by
    intro i
    by_cases hi : i = .compareIndicator
    · subst hi
      exact hc
    · exact h.reads second hi
  exact places.decode_eq_ok_of_reads h.toWellFormed hreads rfl

theorem stored_inj {e e' : Condition} : e.stored = e'.stored ↔ e = e' := by
  obtain ⟨id, rule⟩ := e
  obtain ⟨id', rule'⟩ := e'
  simp [stored]

theorem parameter?_bagOf (k : Head) (second : Option Indicator) (d : Field → Option Json)
    (side : Side) (p : Parameter) :
    (bagOf k second d).parameter? side p.name = (d (.parameter side p)).bind countOf := by
  rw [Bag.parameter?, p.ofName?_name]
  rfl

theorem usedSeries_ofFields (k : Head) (second : Option Indicator) (d : Field → Option Json) :
    (ofFields k second d).rule.usedSeries = if k.operator.shape = .cross then
      second.map fun j ↦ .ofLookup j ((bagOf k second d).parameter? .compare) else none :=
  (Bag.fits_rule ..).usedSeries_eq

theorem usedValue_ofFields (k : Head) (second : Option Indicator) (d : Field → Option Json) :
    (ofFields k second d).rule.usedValue = if k.operator.shape = .scalar then none
      else (d .compareValue).map textOf := by
  rw [Option.map_eq_bind]
  exact (Bag.fits_rule ..).usedValue_eq

theorem ofFields_congr (hd : ∀ i, relevant k second i → d' i = d i)
    (hsecond : k.operator.shape = .cross → second' = second) :
    ofFields k second' d' = ofFields k second d := by
  have hcount (side : Side) {p : Parameter} (hp : relevant k second (.parameter side p)) :
      (bagOf k second' d').parameter? side p.name = (bagOf k second d).parameter? side p.name := by
    rw [parameter?_bagOf, parameter?_bagOf, hd _ hp]
  simp only [ofFields, Bag.rule, Condition.mk.injEq, Rule.mk.injEq, true_and]
  refine ⟨?_, ?_, ?_, ?_⟩
  · apply Series.ofLookup_congr
    intro p hp
    exact hcount .primary (decide_eq_true hp)
  · simp only [bagOf, hd .value rfl]
  · split
    · next hcross =>
      obtain rfl := hsecond hcross
      cases second' with
      | none => rfl
      | some j =>
        apply congrArg some
        apply Series.ofLookup_congr
        intro p hp
        exact hcount .compare (decide_eq_true ⟨hcross, j, rfl, hp⟩)
    · rfl
  · split
    · rfl
    · next hscalar => simp only [bagOf, hd .compareValue (decide_eq_true hscalar)]

theorem Headed.value?_id (h : Headed origin members k) :
    record.value? members .id = some (.string k.id) := by
  rw [Decoder.Record.value?, h.id]
  rfl

theorem Headed.head_eq (h : Headed origin members k) (h' : Headed origin' members' k')
    (hagree : ∀ i, relevant k second i → record.value? members' i = record.value? members i) :
    k' = k := by
  obtain ⟨s, hs, hi⟩ := h.indicator
  obtain ⟨s', hs', hi'⟩ := h'.indicator
  obtain ⟨t, ht, ho⟩ := h.operator
  obtain ⟨t', ht', ho'⟩ := h'.operator
  have hid := h'.value?_id
  have hindicator := h'.chosen_of_choice hs' hi'
  have hoperator := h'.chosen_of_choice ht' ho'
  rw [hagree .id rfl, h.value?_id] at hid
  rw [hagree .indicator rfl, h.chosen_of_choice hs hi] at hindicator
  rw [hagree .operator rfl, h.chosen_of_choice ht ho] at hoperator
  obtain ⟨id, indicator, operator⟩ := k
  simp_all

theorem Compares.value? (h : record.Valued members) (hc : Compares origin members second) :
    (record.value? members .compareIndicator).bind (chosen Indicator.names) = second ∧
      ((record.value? members .compareIndicator).isSome ↔ second.isSome) := by
  cases hs : record.source? members .compareIndicator with
  | none =>
    rw [hc.2 hs, Decoder.Record.value?_eq_none hs]
    exact ⟨rfl, Iff.rfl⟩
  | some s =>
    obtain ⟨v, hv, hvalue⟩ := h.toJson?_of_source? hs
    obtain ⟨rfl, rfl⟩ | ⟨-, j, hj, rfl⟩ := Decoder.nullable_eq_ok_iff.mp (hc.1 s hs)
    · obtain rfl := Option.some.inj hv
      rw [hvalue]
      exact ⟨rfl, Iff.rfl⟩
    · have hchosen := h.chosen_of_choice hs hj
      obtain ⟨w, hw, -⟩ := Option.bind_eq_some_iff.mp hchosen
      refine ⟨hchosen, ?_⟩
      rw [hw]
      exact iff_of_true rfl rfl

/-- What is written in a field, given what was read from each. A parameter that was not read has the
value its indicator starts from. -/
def rewritten (k : Head) (second : Option Indicator) (d : Field → Option Json) : Field → Json
  | .id => .string k.id
  | .indicator => .string k.indicator.name
  | .operator => .string k.operator.name
  | .value => .string (((d .value).map textOf).getD "")
  | .compareIndicator => .string (second.elim "" (·.name))
  | .compareValue => .string (((d .compareValue).map textOf).getD "")
  | .parameter .primary p => count k.indicator p (d (.parameter .primary p))
  | .parameter .compare p => (second.elim .null fun j ↦ count j p (d (.parameter .compare p)))
where
  count (i : Indicator) (p : Parameter) (v : Option Json) : Json :=
    .ofNat ((v.bind countOf).getD (((Series.standard i).get? p).getD 0)).toNat

theorem holds_ofFields (hc : (d .compareIndicator).isSome ↔ second.isSome) (i : Field) :
    (ofFields k second d).holds i =
      (relevant k second i && (i ∈ [.compareIndicator, .compareValue] → (d i).isSome)) := by
  have hseries (j : Indicator) (f : String → Option UInt32) (p : Parameter) :
      ((Series.ofLookup j f).get? p).isSome = decide (p ∈ j.schema.map Prod.fst) := by
    rw [Bool.eq_iff_iff, Series.isSome_get?_iff, Series.indicator_ofLookup, decide_eq_true_iff]
  cases i with
  | id | indicator | operator | value => simp [holds, relevant]
  | compareIndicator =>
    by_cases hcross : k.operator.shape = .cross
    · simp [holds, relevant, usedSeries_ofFields, hcross, hc]
    · simp [holds, relevant, usedSeries_ofFields, hcross]
  | compareValue =>
    by_cases hscalar : k.operator.shape = .scalar
    · simp [holds, relevant, usedValue_ofFields, hscalar]
    · simp [holds, relevant, usedValue_ofFields, hscalar]
  | parameter side p =>
    cases side with
    | primary => simp [holds, relevant, ofFields, Bag.rule, hseries]
    | compare =>
      by_cases hcross : k.operator.shape = .cross
      · cases second <;> simp [holds, relevant, usedSeries_ofFields, hcross, hseries]
      · simp [holds, relevant, usedSeries_ofFields, hcross]

theorem shown_ofFields (hc : (d .compareIndicator).isSome ↔ second.isSome) {i : Field}
    (hi : (ofFields k second d).holds i) :
    (ofFields k second d).shown i = rewritten k second d i := by
  have hcount {j : Indicator} {side : Side} {p : Parameter} {n : UInt32}
      (h : (Series.ofLookup j ((bagOf k second d).parameter? side)).get? p = some n) :
      Json.ofNat n.toNat = rewritten.count j p (d (.parameter side p)) := by
    rw [Series.get?_ofLookup, parameter?_bagOf] at h
    obtain ⟨start, hstart, rfl⟩ := Option.map_eq_some_iff.mp h
    rw [rewritten.count, hstart, Option.getD_some]
  cases i with
  | id | operator => rfl
  | indicator => exact congrArg (Json.string ·.name) (Series.indicator_ofLookup k.indicator _)
  | value =>
    refine congrArg Json.string ?_
    simp only [ofFields, Bag.rule, bagOf, Option.map_eq_bind, Function.comp_def]
  | compareIndicator =>
    obtain ⟨s, hs⟩ := Option.isSome_iff_exists.mp hi
    rw [shown, hs]
    rw [usedSeries_ofFields] at hs
    split at hs
    · obtain ⟨j, rfl, rfl⟩ := Option.map_eq_some_iff.mp hs
      exact congrArg (Json.string ·.name) (Series.indicator_ofLookup j _)
    · cases hs
  | compareValue =>
    rw [shown, usedValue_ofFields, if_neg]
    · rfl
    · intro hscalar
      rw [holds, usedValue_ofFields, if_pos hscalar] at hi
      cases hi
  | parameter side p =>
    cases side with
    | primary =>
      obtain ⟨n, hn⟩ := Option.isSome_iff_exists.mp hi
      rw [shown, hn]
      exact hcount hn
    | compare =>
      obtain ⟨n, hn⟩ := Option.isSome_iff_exists.mp hi
      rw [shown, hn]
      rw [usedSeries_ofFields] at hn
      obtain ⟨s, hs, hn⟩ := Option.bind_eq_some_iff.mp hn
      split at hs
      · obtain ⟨j, rfl, rfl⟩ := Option.map_eq_some_iff.mp hs
        exact hcount hn
      · cases hs

/-- An object with an identity, an indicator and an operator is read as a condition that depends on
its relevant fields only. What is written for the condition are those of them that are there, each
with what was read, and it is read as the same condition. -/
theorem only_relevant_fields_count (h : Headed origin members k)
    (hc : Compares origin members second) :
    ∃ c : Condition, decoder origin (.object members true) = .ok c.stored ∧
      (∀ origin' members' k' second', Headed origin' members' k' →
        Compares origin' members' second' →
        (∀ i, relevant k second i → record.value? members' i = record.value? members i) →
        decoder origin' (.object members' true) = .ok c.stored) ∧
      c.toJson = .object ((Field.all.filter fun i ↦ relevant k second i &&
        (i ∈ [.compareIndicator, .compareValue] → (record.value? members i).isSome)).map
          fun i ↦ (record.name i, rewritten k second (record.value? members) i)) ∧
      ∀ origin', decoder origin' (.ofJson c.toJson) = .ok c.stored := by
  have hcompare := hc.value? h.toValued
  refine ⟨_, decode_of_headed h hc, ?_, ?_, fun origin' ↦ ?_⟩
  · intro origin' members' k' second' h' hc' hagree
    obtain rfl := h.head_eq h' hagree
    have hsame (hcross : k'.operator.shape = .cross) : second' = second := by
      have hfield := hagree .compareIndicator (decide_eq_true hcross)
      rw [← (hc'.value? h'.toValued).1, hfield, hcompare.1]
    rw [decode_of_headed h' hc', ofFields_congr hagree hsame]
  · rw [toJson_eq_written, Decoder.Record.written, fields_eq, List.map_map,
      funext (holds_ofFields hcompare.2)]
    refine congrArg Json.object (List.map_congr_left fun i hi ↦ ?_)
    rw [List.mem_filter, ← holds_ofFields hcompare.2] at hi
    exact congrArg (record.name i, ·) (shown_ofFields hcompare.2 hi.2)
  · exact decode_toJson origin' _ (Bag.fits_rule ..)

theorem crossing_is_read_without_its_leftovers :
    let members : List (Option String × Source) := [(some "upper_band", .array [.null] true),
      (some "compareFast_period", .string (some " +5 ")), (some "id", .string (some "a")),
      (some "operator", .string (some "crosses_above")), (some "later", .number none),
      (some "indicator", .string (some "SMA")), (some "period", .number (some (.integer 50))),
      (some "compareIndicator", .object [(some "MACD", .null)] true), (some "value", .null)]
    let members' : List (Option String × Source) := [(some "id", .string (some "a")),
      (some "indicator", .string (some "SMA")), (some "operator", .string (some "crosses_above")),
      (some "compareIndicator", .object [(some "MACD", .null)] true),
      (some "period", .number (some (.integer 50))), (some "comparePeriod", .bool true),
      (some "compareFastPeriod", .string (some " +5 "))]
    let c : Condition := ⟨"a", .sma 50, .crossesAbove, "", some (.macd 5 26 9), none⟩
    Headed .text members ⟨"a", .sma, .crossesAbove⟩ ∧ Compares .text members (some .macd) ∧
      decoder .text (.object members true) = .ok c.stored ∧
      decoder .value (.object members' true) = .ok c.stored ∧
      c.toJson = .object [("id", .string "a"), ("indicator", .string "SMA"),
        ("operator", .string "crosses_above"), ("value", .string ""),
        ("compareIndicator", .string "MACD"), ("period", .ofNat 50),
        ("compareFastPeriod", .ofNat 5), ("compareSlowPeriod", .ofNat 26),
        ("compareSignalPeriod", .ofNat 9)] ∧
      decoder .text (.ofJson c.toJson) = .ok c.stored := by
  intro members members' c
  have hheaded : Headed .text members ⟨"a", .sma, .crossesAbove⟩ :=
    ⟨by decide +kernel, rfl, ⟨_, rfl, rfl⟩, ⟨_, rfl, rfl⟩⟩
  have hheaded' : Headed .value members' ⟨"a", .sma, .crossesAbove⟩ :=
    ⟨by decide +kernel, rfl, ⟨_, rfl, rfl⟩, ⟨_, rfl, rfl⟩⟩
  have hcompares : Compares .text members (some .macd) := (compares_iff_of_source? rfl).mpr rfl
  have hcompares' : Compares .value members' (some .macd) := (compares_iff_of_source? rfl).mpr rfl
  obtain ⟨e, hread, hagree, hwritten, hagain⟩ := only_relevant_fields_count hheaded hcompares
  have hcond : decoder .text (.object members true) = .ok c.stored := by decide +kernel
  obtain rfl := stored_inj.mp (Except.ok.inj (hread.symm.trans hcond))
  refine ⟨hheaded, hcompares, hread, hagree .value members' _ _ hheaded' hcompares' ?_, ?_,
    hagain .text⟩
  · intro i hi
    cases i with
    | parameter side p => cases side <;> cases p <;> first | rfl | exact absurd hi (by decide)
    | id | indicator | operator | value | compareIndicator | compareValue => rfl
  · rw [hwritten]
    rfl

theorem Headed.without (h : Headed origin members k) :
    Headed origin (record.without .compareIndicator members) k := by
  have hsource (i : Field) (hi : i ≠ .compareIndicator) :=
    Decoder.Record.source?_without_of_ne (r := record) hi members
  refine ⟨h.toValued.without _, ?_, ?_, ?_⟩
  · rw [hsource .id nofun]
    exact h.id
  · rw [hsource .indicator nofun]
    exact h.indicator
  · rw [hsource .operator nofun]
    exact h.operator

theorem decode_eq_error_of_headed (h : Headed origin members k) {s : Source} {e : DocumentError}
    (hs : record.source? members .compareIndicator = some s)
    (he : Decoder.nullable (Decoder.choice Indicator.names) origin s = .error e) :
    decoder origin (.object members true) = .error e := by
  apply places.decode_eq_error h.toWellFormed hs he
  intro i t hi ht
  exact ⟨_, (h.reads none hi).1 t ht⟩

theorem ofFields_without (hcross : k.operator.shape ≠ .cross) :
    ofFields k second (record.value? members) =
      ofFields k none (record.value? (record.without .compareIndicator members)) := by
  apply ofFields_congr
  · intro i hi
    have hne : i ≠ .compareIndicator := by
      intro heq
      subst heq
      exact hcross (of_decide_eq_true hi)
    rw [Decoder.Record.value?, Decoder.Record.value?, Decoder.Record.source?_without_of_ne hne]
  · intro h
    exact absurd h hcross

/-- Unless it is a crossing, a condition is what it is without a second indicator, but only if the
field for it can be read; else the complaint about the field is all there is. -/
theorem leftover_second_indicator (h : Headed origin members k)
    (hcross : k.operator.shape ≠ .cross) :
    ∃ c : Condition,
      decoder origin (.object (record.without .compareIndicator members) true) = .ok c.stored ∧
      (decoder origin (.object members true) = .ok c.stored ↔
        ∃ second, Compares origin members second) ∧
      ∀ s e, record.source? members .compareIndicator = some s →
        Decoder.nullable (Decoder.choice Indicator.names) origin s = .error e →
        decoder origin (.object members true) = .error e := by
  have hnone : Compares origin (record.without .compareIndicator members) none :=
    compares_none (Decoder.Record.source?_without_self ..)
  refine ⟨_, decode_of_headed h.without hnone, ⟨?_, ?_⟩, fun s e ↦ decode_eq_error_of_headed h⟩
  · intro hok
    cases hs : record.source? members .compareIndicator with
    | none => exact ⟨none, compares_none hs⟩
    | some s =>
      cases hread : Decoder.nullable (Decoder.choice Indicator.names) origin s with
      | error e => cases (decode_eq_error_of_headed h hs hread).symm.trans hok
      | ok second => exact ⟨second, (compares_iff_of_source? hs).mpr hread⟩
  · intro hc
    obtain ⟨second, hc⟩ := hc
    rw [decode_of_headed h hc, ofFields_without hcross]

theorem range_is_read_with_leftover_indicator :
    let members (s : Source) : List (Option String × Source) := [(some "id", .string (some "a")),
      (some "indicator", .string (some "Stochastic")), (some "compareIndicator", s),
      (some "operator", .string (some "between")), (some "value", .number (some (.integer 20))),
      (some "compareValue", .string (some "80"))]
    let c : Condition := ⟨"a", .stochastic 14 3, .between, "20", none, some "80"⟩
    Headed .value (members (.string (some "EMA"))) ⟨"a", .stochastic, .between⟩ ∧
      Operator.between.shape ≠ .cross ∧
      decoder .value (.object (members (.string (some "EMA"))) true) = .ok c.stored ∧
      Headed .value (members (.number (some (.integer 5)))) ⟨"a", .stochastic, .between⟩ ∧
      decoder .value (.object (members (.number (some (.integer 5)))) true) =
        .error (.wrongType (.integer 5) "string or map") := by
  intro members c
  have hheaded : Headed .value (members (.string (some "EMA"))) ⟨"a", .stochastic, .between⟩ :=
    ⟨by decide +kernel, rfl, ⟨_, rfl, rfl⟩, ⟨_, rfl, rfl⟩⟩
  have hnumber : Headed .value (members (.number (some (.integer 5))))
      ⟨"a", .stochastic, .between⟩ := ⟨by decide +kernel, rfl, ⟨_, rfl, rfl⟩, ⟨_, rfl, rfl⟩⟩
  have hcross : Operator.between.shape ≠ .cross := by decide
  have hcond : decoder .value (.object (record.without .compareIndicator
      (members (.string (some "EMA")))) true) = .ok c.stored := by decide +kernel
  obtain ⟨e, hwithout, hiff, -⟩ := leftover_second_indicator hheaded hcross
  obtain ⟨-, -, -, herror⟩ := leftover_second_indicator hnumber hcross
  obtain rfl := stored_inj.mp (Except.ok.inj (hwithout.symm.trans hcond))
  refine ⟨hheaded, hcross, hiff.mpr ⟨some .ema, ?_⟩, hnumber, herror _ _ rfl rfl⟩
  exact (compares_iff_of_source? rfl).mpr rfl

/-- The empty name that an editor leaves behind makes a comparison with a constant unreadable. -/
theorem empty_leftover_is_refused :
    let members : List (Option String × Source) := [(some "id", .string (some "a")),
      (some "indicator", .string (some "RSI")), (some "operator", .string (some "less_than")),
      (some "value", .string (some "30")), (some "compareIndicator", .string (some ""))]
    Headed .text members ⟨"a", .rsi, .lessThan⟩ ∧ Operator.lessThan.shape = .scalar ∧
      decoder .text (.object (record.without .compareIndicator members) true) =
        .ok (stored ⟨"a", .ofOperator .rsi .lessThan "30"⟩) ∧
      decoder .text (.object members true) =
        .error (.unknownVariant "" (Indicator.names.map Prod.fst)) := by
  intro members
  have hheaded : Headed .text members ⟨"a", .rsi, .lessThan⟩ :=
    ⟨by decide +kernel, rfl, ⟨_, rfl, rfl⟩, ⟨_, rfl, rfl⟩⟩
  exact ⟨hheaded, rfl, by decide +kernel, by decide +kernel⟩

end Condition

end TradingRules
