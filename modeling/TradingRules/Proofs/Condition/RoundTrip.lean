import TradingRules.Proofs.Document.Written
import TradingRules.Proofs.Names
import TradingRules.Proofs.Condition.Fits
import TradingRules.Proofs.Json.RoundTrip

namespace TradingRules

namespace Condition

theorem field?_name (i : Field) : record.field? (record.name i) = some i := by
  rcases i with _ | _ | _ | _ | _ | _ | ⟨side, p⟩
  iterate 6 decide
  cases side <;> cases p <;> decide

def parameterFields (side : Side) (s : Series) (ps : List Parameter) : List (Field × Json) :=
  ps.filterMap fun p ↦ (s.get? p).map fun n ↦ (.parameter side p, .ofNat n.toNat)

def fields (c : Condition) : List (Field × Json) :=
  [(.id, .string c.id), (.indicator, .string c.rule.series.indicator.name),
    (.operator, .string c.rule.operator.name), (.value, .string c.rule.value)] ++
  c.rule.usedSeries.toList.map (fun s ↦ (.compareIndicator, .string s.indicator.name)) ++
  c.rule.usedValue.toList.map (fun s ↦ (.compareValue, .string s)) ++
  parameterFields .primary c.rule.series Parameter.all ++
  c.rule.usedSeries.toList.flatMap (parameterFields .compare · Parameter.all)

theorem map_parameterFields (side : Side) (s : Series) :
    (parameterFields side s Parameter.all).map (fun m ↦ (record.name m.1, m.2)) =
      parameterMembers (fun p ↦ record.name (.parameter side p)) s := by
  simp [parameterFields, parameterMembers, List.map_filterMap, Function.comp_def]

theorem toJson_eq_written (c : Condition) : c.toJson = record.written c.fields := by
  have hp := map_parameterFields .primary c.rule.series
  have hc := map_parameterFields .compare
  cases hs : c.rule.usedSeries <;> cases hv : c.rule.usedValue <;>
    simp only [toJson, members, Decoder.Record.written, fields, hs, hv, List.map_append,
      Option.toList, List.map_cons, List.map_nil, List.flatMap_cons, List.flatMap_nil,
      List.append_nil, hp, hc] <;>
    rfl

theorem parameterFields_eq (side : Side) (s : Series) (ps : List Parameter) :
    parameterFields side s ps = (ps.filter fun p ↦ (s.get? p).isSome).map fun p ↦
      (.parameter side p, .ofNat ((s.get? p).getD 0).toNat) := by
  induction ps with
  | nil => rfl
  | cons p ps ih => cases h : s.get? p <;> simp_all [parameterFields]

def holds (c : Condition) : Field → Bool
  | .id | .indicator | .operator | .value => true
  | .compareIndicator => c.rule.usedSeries.isSome
  | .compareValue => c.rule.usedValue.isSome
  | .parameter .primary p => (c.rule.series.get? p).isSome
  | .parameter .compare p => (c.rule.usedSeries.bind (·.get? p)).isSome

/-- What a condition holds for a field, if it holds anything. -/
def shown (c : Condition) : Field → Json
  | .id => .string c.id
  | .indicator => .string c.rule.series.indicator.name
  | .operator => .string c.rule.operator.name
  | .value => .string c.rule.value
  | .compareIndicator => .string (c.rule.usedSeries.elim "" (·.indicator.name))
  | .compareValue => .string (c.rule.usedValue.getD "")
  | .parameter .primary p => .ofNat ((c.rule.series.get? p).getD 0).toNat
  | .parameter .compare p => .ofNat ((c.rule.usedSeries.bind (·.get? p)).getD 0).toNat

theorem fields_eq (c : Condition) :
    c.fields = (Field.all.filter c.holds).map fun i ↦ (i, c.shown i) := by
  rw [Field.all, List.filter_append, List.filter_append, List.filter_map, List.filter_map,
    List.map_append, List.map_append, List.map_map, List.map_map, fields]
  apply congrArg₂
  · apply congrArg₂
    · cases hs : c.rule.usedSeries <;> cases hv : c.rule.usedValue <;>
        simp [List.filter_cons, holds, shown, hs, hv]
    · exact parameterFields_eq .primary c.rule.series _
  · cases hs : c.rule.usedSeries with
    | none => simp [holds, hs]
    | some s =>
      rw [Option.toList_some, List.flatMap_singleton, parameterFields_eq]
      simp [holds, shown, hs, Function.comp_def]

theorem map_fst_fields (c : Condition) : c.fields.map Prod.fst = Field.all.filter c.holds := by
  rw [fields_eq, List.map_map]
  exact List.map_id _

theorem nodup_fields (c : Condition) : (c.fields.map Prod.fst).Nodup := by
  rw [map_fst_fields]
  exact List.filter_sublist.nodup (by decide)

def Bag.putSeries (b : Bag) (side : Side) (s : Series) (ps : List Parameter) : Bag :=
  { b with count := fun t p ↦
      if t = side ∧ p ∈ ps ∧ (s.get? p).isSome then s.get? p else b.count t p }

theorem Bag.putSeries_putCount (b : Bag) {side : Side} {s : Series} {p : Parameter} {n : UInt32}
    (ps : List Parameter) (h : s.get? p = some n) :
    (b.putCount side p (some n)).putSeries side s ps = b.putSeries side s (p :: ps) := by
  simp only [putSeries, putCount, Bag.mk.injEq, true_and]
  funext t q
  by_cases hq : q = p
  · subst hq
    by_cases ht : t = side <;> simp [ht, h]
  · simp [hq]

theorem readAll_parameterFields (origin : Origin) (side : Side) (s : Series) (ps : List Parameter)
    (b : Bag) :
    record.readAll origin b (parameterFields side s ps) = .ok (b.putSeries side s ps) := by
  induction ps generalizing b with
  | nil => simp [parameterFields, Decoder.Record.readAll, Bag.putSeries]
  | cons p ps ih =>
    cases h : s.get? p with
    | none =>
      have hput : b.putSeries side s ps = b.putSeries side s (p :: ps) := by
        simp only [Bag.putSeries, Bag.mk.injEq, true_and]
        funext t q
        by_cases hq : q = p <;> simp [hq, h]
      simpa [parameterFields, h, hput] using ih b
    | some n =>
      have hread : record.read origin (.parameter side p) (.ofJson (.ofNat n.toNat)) b =
          .ok (b.putCount side p (some n)) := by
        simp [record, Bag.read, Forgiving.count_ofNat, bind, Except.bind, pure, Except.pure]
      rw [← Bag.putSeries_putCount b ps h, ← ih]
      simp [parameterFields, h, Decoder.Record.readAll, hread, bind, Except.bind]

theorem Bag.count_putSeries (b : Bag) (side : Side) (s : Series) (h : b.count side = fun _ ↦ none) :
    (b.putSeries side s Parameter.all).count side = s.get? := by
  funext p
  cases hp : s.get? p <;> simp [putSeries, Parameter.mem_all, hp, h]

theorem Bag.count_putSeries_of_ne (b : Bag) {side other : Side} (s : Series) (ps : List Parameter)
    (h : other ≠ side) : (b.putSeries side s ps).count other = b.count other := by
  funext p
  simp [putSeries, h]

def bag (c : Condition) : Bag :=
  let b : Bag := { Bag.empty with
    id := some c.id
    indicator := some c.rule.series.indicator
    operator := some c.rule.operator
    value := some c.rule.value
    compareIndicator := c.rule.usedSeries.map (·.indicator)
    compareValue := c.rule.usedValue }
  let b := b.putSeries .primary c.rule.series Parameter.all
  match c.rule.usedSeries with
  | some s => b.putSeries .compare s Parameter.all
  | none => b

theorem readAll_fields (origin : Origin) (c : Condition) :
    record.readAll origin record.start c.fields = .ok c.bag := by
  have hread : record.read = Bag.read := rfl
  have hi (i : Indicator) := Decoder.choice_name i.lookup_name origin
  have ho := Decoder.choice_name c.rule.operator.lookup_name origin
  have ht (s : String) : Forgiving.text origin (.string (some s)) = .ok (some s) :=
    Forgiving.text_string origin s
  rw [show record.start = Bag.empty from rfl]
  cases hs : c.rule.usedSeries <;> cases hv : c.rule.usedValue <;>
    simp [fields, bag, hs, hv, Decoder.Record.readAll_append, readAll_parameterFields,
      Decoder.Record.readAll, hread, Bag.read, Source.ofJson, Decoder.string, Decoder.nullable, hi,
      ho, ht, bind, Except.bind, pure, Except.pure, Bag.empty]

theorem count_bag_primary (c : Condition) : c.bag.count .primary = c.rule.series.get? := by
  unfold bag
  cases c.rule.usedSeries with
  | none => exact Bag.count_putSeries _ .primary c.rule.series rfl
  | some s =>
    exact (Bag.count_putSeries_of_ne _ s _ (by decide)).trans
      (Bag.count_putSeries _ .primary c.rule.series rfl)

theorem count_bag_compare (c : Condition) {s : Series} (h : c.rule.usedSeries = some s) :
    c.bag.count .compare = s.get? := by
  simp only [bag, h]
  refine Bag.count_putSeries _ .compare s ?_
  rw [Bag.count_putSeries_of_ne _ _ _ (by decide)]
  rfl

theorem bag_eq (c : Condition) :
    c.bag.id = some c.id ∧ c.bag.indicator = some c.rule.series.indicator ∧
      c.bag.operator = some c.rule.operator ∧ c.bag.value = some c.rule.value ∧
      c.bag.compareIndicator = c.rule.usedSeries.map (·.indicator) ∧
      c.bag.compareValue = c.rule.usedValue := by
  unfold bag
  cases c.rule.usedSeries <;> exact ⟨rfl, rfl, rfl, rfl, rfl, rfl⟩

theorem Bag.ofLookup_parameter? {b : Bag} {side : Side} {s : Series} (h : b.count side = s.get?) :
    Series.ofLookup s.indicator (b.parameter? side) = s := by
  have hnamed : b.parameter? side = s.named? := by
    funext name
    exact congrArg (Parameter.ofName? name).bind h
  rw [hnamed, s.ofLookup_named?]

theorem rule_bag (c : Condition) (h : c.rule.Fits) :
    c.bag.rule c.rule.series.indicator c.rule.operator = c.rule := by
  obtain ⟨-, -, -, hvalue, hsecond, hupper⟩ := c.bag_eq
  have hprimary := Bag.ofLookup_parameter? c.count_bag_primary
  have hseries : (if c.rule.operator.shape = .cross then
      c.bag.compareIndicator.map fun i ↦ Series.ofLookup i (c.bag.parameter? .compare)
      else none) = c.rule.compareSeries := by
    rw [← h.usedSeries_eq, hsecond]
    split
    · cases hs : c.rule.usedSeries with
      | none => rfl
      | some s => exact congrArg some (Bag.ofLookup_parameter? (c.count_bag_compare hs))
    · next hcross => exact (if_neg hcross).symm
  have hbound : (if c.rule.operator.shape = .scalar then none else c.bag.compareValue) =
      c.rule.compareValue := by
    rw [← h.usedValue_eq, hupper]
    exact ite_eq_right_iff.mpr fun hscalar ↦ (if_pos hscalar).symm
  rw [Bag.rule, hprimary, hseries, hbound, hvalue]
  rfl

theorem decode_toJson (origin : Origin) (c : Condition) (h : c.rule.Fits) :
    decoder origin (.ofJson c.toJson) = .ok c.stored := by
  rw [toJson_eq_written, decoder,
    Decoder.Record.decode_written origin field?_name c.nodup_fields (readAll_fields origin c)]
  obtain ⟨hid, hindicator, hoperator, -⟩ := c.bag_eq
  simp only [show record.finish = Bag.finish from rfl, Bag.finish, hid, hindicator, hoperator,
    rule_bag c h]
  rfl

def ofText (newId text : String) : Except DocumentError Condition :=
  (decoder.ofText text).map fun c ↦ Id.run (c.identify newId)

theorem legible_of_mem_parameterFields {side : Side} {s : Series} {ps : List Parameter}
    {m : Field × Json} (h : m ∈ parameterFields side s ps) (levels : Nat) : m.2.Legible levels := by
  obtain ⟨p, -, hp⟩ := List.mem_filterMap.mp h
  obtain ⟨n, -, rfl⟩ := Option.map_eq_some_iff.mp hp
  exact Number.legible_ofNat (Nat.lt_trans n.toNat_lt (by decide))

theorem legible_of_mem_fields {c : Condition} {m : Field × Json} (h : m ∈ c.fields) (levels : Nat) :
    m.2.Legible levels := by
  have hstring (s : String) : (Json.string s).Legible levels := trivial
  simp only [fields, List.mem_append] at h
  rcases h with (((h | h) | h) | h) | h
  · simp only [List.mem_cons, List.not_mem_nil, or_false] at h
    rcases h with rfl | rfl | rfl | rfl <;> exact hstring _
  · obtain ⟨s, -, rfl⟩ := List.mem_map.mp h
    exact hstring _
  · obtain ⟨s, -, rfl⟩ := List.mem_map.mp h
    exact hstring _
  · exact legible_of_mem_parameterFields h levels
  · obtain ⟨s, -, hs⟩ := List.mem_flatMap.mp h
    exact legible_of_mem_parameterFields hs levels

theorem legible_toJson (c : Condition) {levels : Nat} (h : levels ≠ 0) :
    c.toJson.Legible levels := by
  rw [toJson_eq_written, Decoder.Record.written, Json.Legible, Json.Within,
    Json.withinMembers_iff]
  refine ⟨h, fun m hm ↦ ?_⟩
  obtain ⟨k, hk, rfl⟩ := List.mem_map.mp hm
  exact legible_of_mem_fields hk _

theorem ofText_toJson (c : Condition) (h : c.rule.Fits) (newId : String) :
    ofText newId c.toJson.compact = .ok c := by
  have hdecode := decode_toJson .text c h
  have hread := Json.readText_compact (c.legible_toJson (by decide : 127 ≠ 0))
  simp only [ofText, Decoder.ofText, hread, hdecode]
  rfl

/-- However a condition was made and whatever was changed since, its fields for comparison fit the
operator and it is read back from its text. So a document that was read is written in one form. -/
theorem changed_conditions_survive_text :
    (∀ c : Condition, c.Made → ∀ ks : List Change, (ks.foldl change c).rule.Fits ∧
      ∀ newId, ofText newId (ks.foldl change c).toJson.compact = .ok (ks.foldl change c)) ∧
    (∀ c : Condition, c.rule.Fits → ∀ newId, ofText newId c.toJson.compact = .ok c) ∧
    (∀ origin s d newId newId', decoder origin s = .ok d →
      let c := Id.run (d.identify newId)
      ∃ c', ofText newId' c.toJson.compact = .ok c' ∧ c' = c ∧
        c'.toJson.compact = c.toJson.compact) := by
  refine ⟨fun c hc ks ↦ ⟨hc.fits_changes ks, fun newId ↦ ?_⟩, fun c hc newId ↦ ?_, ?_⟩
  · exact ofText_toJson _ (hc.fits_changes ks) newId
  · exact c.ofText_toJson hc newId
  · intro origin s d newId newId' h
    have hfits : (Id.run (d.identify newId)).rule.Fits := (Made.read newId h).fits
    exact ⟨_, ofText_toJson _ hfits newId', rfl, rfl⟩

theorem changed_crossing_survives_text :
    let c : Condition := ⟨"a", .crossing .sma .ema ""⟩
    let ks : List Change := [.edit (.compareValue (some "gold\n")), .edit (.operator .between),
      .edit (.parameter .compare "period" 9), .id "\"b\"", .series (.macd 0 4294967295 7)]
    let d : Condition (Option String) := ⟨none, .close, .crossesBelow, "1.5",
      some (.stochastic 21 3), none⟩
    Made c ∧ ks.foldl change c =
        ⟨"\"b\"", .macd 0 4294967295 7, .between, "", none, some "gold\n"⟩ ∧
      (∀ newId, ofText newId (ks.foldl change c).toJson.compact = .ok (ks.foldl change c)) ∧
      c.rule.Fits ∧ ofText "new" c.toJson.compact = .ok c ∧
      decoder .text (.object [(some "operator", .string (some "crosses_below")),
        (some "compareK_period", .string (some " +21 ")),
        (some "indicator", .string (some "Close")),
        (some "compareIndicator", .string (some "Stochastic")),
        (some "value", .number (some (.real (.ofQuotient false 3 2))))] true) = .ok d ∧
      ofText "other" (Id.run (d.identify "new")).toJson.compact =
        .ok (Id.run (d.identify "new")) := by
  intro c ks d
  have hmade : c.Made := .crossing _ _ _ _
  have hread : decoder .text (.object [(some "operator", .string (some "crosses_below")),
      (some "compareK_period", .string (some " +21 ")),
      (some "indicator", .string (some "Close")),
      (some "compareIndicator", .string (some "Stochastic")),
      (some "value", .number (some (.real (.ofQuotient false 3 2))))] true) = .ok d := by
    decide +kernel
  obtain ⟨c', hc', rfl, -⟩ := changed_conditions_survive_text.2.2 _ _ d "new" "other" hread
  exact ⟨hmade, by decide, (changed_conditions_survive_text.1 c hmade ks).2, hmade.fits,
    changed_conditions_survive_text.2.1 c hmade.fits "new", hread, hc'⟩

end Condition

end TradingRules
