import TradingRules.Proofs.Condition.RoundTrip
import TradingRules.Proofs.Exit.RoundTrip
import TradingRules.Proofs.Strategy.Identities
import TradingRules.Strategy.Document

namespace TradingRules

namespace Strategy

/-- What is kept when a strategy is written: the fields for comparison fit the operators, and a
percentage is finite. -/
structure Proper {Id : Type} (st : Strategy Id) : Prop where
  fits : ∀ c ∈ st.conditions, c.rule.Fits
  finite : st.exit.HasFinitePercent

theorem field?_name (i : Field) : record.field? (record.name i) = some i := by
  cases i <;> decide

def fields (st : Strategy) : List (Field × Json) :=
  [(.conditions, .array (st.conditions.map (·.toJson))),
    (.connective, .string st.connective.name), (.direction, .string st.direction.name),
    (.exit, st.exit.toJson)]

theorem toJson_eq_written (st : Strategy) : st.toJson = record.written st.fields := rfl

theorem decode_toJson (origin : Origin) {st : Strategy} (hst : st.Proper) :
    decoder origin (.ofJson st.toJson) = .ok st.stored := by
  have hconditions : Decoder.nullable (Decoder.list Condition.decoder) origin
      (.ofJson (.array (st.conditions.map (·.toJson)))) =
        .ok (some (st.conditions.map (·.stored))) :=
    Decoder.nullable_ofJson (by simp) (Decoder.list_ofJson fun c hc ↦
      c.decode_toJson origin (hst.fits c hc))
  have hconnective : Decoder.nullable (Decoder.choice Connective.names) origin
      (.ofJson (.string st.connective.name)) = .ok (some st.connective) :=
    Decoder.nullable_ofJson (by simp) (Decoder.choice_name st.connective.lookup_name origin)
  have hdirection : Decoder.nullable (Decoder.choice Direction.names) origin
      (.ofJson (.string st.direction.name)) = .ok (some st.direction) :=
    Decoder.nullable_ofJson (by simp) (Decoder.choice_name st.direction.lookup_name origin)
  have hexit : Decoder.nullable Exit.decoder origin (.ofJson st.exit.toJson) =
      .ok (some st.exit) :=
    Decoder.nullable_ofJson (by simp [Exit.toJson]) (Exit.decode_toJson origin hst.finite)
  have hread : record.readAll origin record.start st.fields = .ok st.stored := by
    simp [fields, Decoder.Record.readAll, show record.read = readField from rfl, readField,
      hconditions, hconnective, hdirection, hexit, bind, Except.bind, pure, Except.pure, stored]
  rw [toJson_eq_written, decoder,
    Decoder.Record.decode_written origin field?_name (by simp [fields]) hread]
  rfl

theorem within_toJson {kind : Number → Prop} (hkind : ∀ n, n.Legible → kind n) {st : Strategy}
    (hst : st.Proper) (hpercent : ∀ x, st.exit.percent? = some x → kind (.real x)) {levels : Nat}
    (hlevels : 2 < levels) : st.toJson.Within levels kind := by
  have hexit := Exit.within_toJson hkind hst.finite hpercent (by omega : levels - 1 ≠ 0)
  have hconditions : ∀ v ∈ st.conditions.map (·.toJson), v.Within (levels - 1 - 1) kind := by
    intro v hv
    obtain ⟨c, -, rfl⟩ := List.mem_map.mp hv
    exact (c.legible_toJson (by omega)).mono hkind
  simp only [toJson, Json.Within, Json.WithinMembers, Json.withinItems_iff]
  exact ⟨by omega, ⟨by omega, hconditions⟩, trivial, trivial, hexit, trivial⟩

theorem legible_toJson {st : Strategy} (hst : st.Proper)
    (hlegible : ∀ x, st.exit.percent? = some x → (Number.real x).Legible) {levels : Nat}
    (hlevels : 2 < levels) : st.toJson.Legible levels :=
  within_toJson (fun _ ↦ id) hst hlegible hlevels

theorem ofText_toJson {st : Strategy} (hst : st.Proper)
    (hlegible : ∀ x, st.exit.percent? = some x → (Number.real x).Legible) :
    decoder.ofText st.toJson.compact = .ok st.stored := by
  have hdecode := decode_toJson .text hst
  have hread := Json.readText_compact (legible_toJson hst hlegible (by decide))
  simp only [Decoder.ofText, hread, hdecode]
  rfl

theorem fits_of_list {origin : Origin} {s : Source} {cs : List (Condition (Option String))}
    (h : Decoder.list Condition.decoder origin s = .ok cs) : ∀ c ∈ cs, c.rule.Fits := by
  intro c hc
  obtain ⟨source, hsource⟩ := Decoder.exists_of_mem_list h hc
  exact Condition.fits_of_decoder hsource

theorem proper_empty : Proper empty where
  fits := by simp [empty]
  finite := Exit.hasFinitePercent_of_none rfl

theorem proper_readField {origin : Origin} {i : Field} {s : Source}
    {st st' : Strategy (Option String)} (hst : st.Proper) (h : readField origin i s st = .ok st') :
    st'.Proper := by
  cases i <;> obtain ⟨a, ha, h⟩ := bind_eq_ok_iff.mp h <;> obtain rfl := Except.ok.inj h
  case conditions =>
    refine ⟨?_, hst.finite⟩
    cases a with
    | none => simp
    | some cs => exact fits_of_list (Decoder.eq_of_nullable ha)
  case connective => exact ⟨hst.fits, hst.finite⟩
  case direction => exact ⟨hst.fits, hst.finite⟩
  case exit =>
    refine ⟨hst.fits, ?_⟩
    cases a with
    | none => exact Exit.hasFinitePercent_of_none rfl
    | some e => exact Exit.hasFinitePercent_of_decoder (Decoder.eq_of_nullable ha)

theorem proper_of_decoder {origin : Origin} {s : Source} {st : Strategy (Option String)}
    (h : decoder origin s = .ok st) : st.Proper := by
  obtain ⟨absent, st', hst', hfinish⟩ := Decoder.Record.exists_finish_of_decode
    (P := Proper) (fun _ _ _ _ hst h ↦ proper_readField hst h) proper_empty h
  exact Except.ok.inj hfinish ▸ hst'

theorem proper_of_ofText {text : String} {st : Strategy (Option String)}
    (h : decoder.ofText text = .ok st) : st.Proper := by
  obtain ⟨st', hst', h⟩ := bind_eq_ok_iff.mp h
  split at h
  · exact Except.ok.inj h ▸ proper_of_decoder hst'
  · cases h

theorem Proper.of_identifiedAs {st : Strategy (Option String)} {ids : List String}
    {st' : Strategy} (h : st.Proper) (hids : st.IdentifiedAs ids st') : st'.Proper where
  fits := by
    intro c hc
    have hrule : c.rule ∈ st.conditions.map (·.rule) := by
      rw [← hids.conditions.map_rule]
      exact List.mem_map_of_mem hc
    obtain ⟨c', hc', heq⟩ := List.mem_map.mp hrule
    exact heq ▸ h.fits c' hc'
  finite := by
    rw [hids.exit]
    exact h.finite

end Strategy

end TradingRules
