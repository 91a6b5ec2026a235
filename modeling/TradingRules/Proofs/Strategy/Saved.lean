import TradingRules.Proofs.Strategy.Order
import TradingRules.Proofs.Strategy.RoundTrip
import TradingRules.Proofs.Time.RoundTrip

namespace TradingRules

open Decoder (Record)

theorem Condition.rearranged_sorted (c : Condition) :
    Rearranged (.ofJson c.toJson) (.ofJson c.toJson.sorted) := by
  rw [toJson_eq_written]
  refine Record.rearranged_sorted field?_name c.nodup_fields fun m hm ↦ ?_
  rw [Json.sorted_of_within_zero (legible_of_mem_fields hm 0)]

theorem Exit.rearranged_sorted (e : Exit) :
    Rearranged (.ofJson e.toJson) (.ofJson e.toJson.sorted) := by
  rw [toJson_eq_written]
  refine Record.rearranged_sorted field?_name e.nodup_fields fun m hm ↦ congrArg _ ?_
  have hpercent (x : Binary64) : (Json.ofBinary64 x).sorted = .ofBinary64 x := by
    rw [Json.ofBinary64]
    split <;> rfl
  have hcount (n : Nat) : (Json.ofNat n).sorted = .ofNat n := rfl
  have hstring (s : String) : (Json.string s).sorted = .string s := rfl
  cases e <;> simp only [fields, List.mem_cons, List.not_mem_nil, or_false] at hm <;> grind

theorem Strategy.rearranged_sorted (st : Strategy) :
    Rearranged (.ofJson st.toJson) (.ofJson st.toJson.sorted) := by
  rw [toJson_eq_written]
  refine Record.rearranged_sorted field?_name (by simp [fields]) fun m hm ↦ ?_
  have hconditions : List.Forall₂ Condition.Rearranged
      (Source.ofItems (st.conditions.map (·.toJson)))
      (Source.ofItems (Json.sortedItems (st.conditions.map (·.toJson)))) := by
    induction st.conditions with
    | nil => exact .nil
    | cons c cs ih => exact .cons c.rearranged_sorted ih
  simp only [fields, List.mem_cons, List.not_mem_nil, or_false] at hm
  rcases hm with rfl | rfl | rfl | rfl
  · exact .conditions hconditions
  · exact .same _ _
  · exact .same _ _
  · exact .exit st.exit.rearranged_sorted

namespace SavedStrategy

/-- What is kept when a saved strategy is written: what is kept of the strategy, a number of 64 bits
and times of the calendar. -/
structure Proper (x : SavedStrategy) : Prop where
  strategy : x.strategy.Proper
  id : StrategyId.least ≤ x.id.number ∧ x.id.number ≤ StrategyId.greatest
  createdAt : ∀ t ∈ x.createdAt, t.InCalendar
  updatedAt : ∀ t ∈ x.updatedAt, t.InCalendar

theorem field?_name (i : Field) : record.field? (record.name i) = some i := by
  cases i <;> decide

def fields (x : SavedStrategy) : List (Field × Json) :=
  [(.id, x.id.toJson), (.name, .string x.name), (.strategy, x.strategy.toJson)] ++
    x.createdAt.toList.map (fun t ↦ (.createdAt, .string t.text)) ++
    x.updatedAt.toList.map (fun t ↦ (.updatedAt, .string t.text))

theorem toJson_eq_written (x : SavedStrategy) : x.toJson = record.written x.fields := by
  obtain ⟨id, name, strategy, createdAt, updatedAt⟩ := x
  cases createdAt <;> cases updatedAt <;> rfl

theorem nodup_fields (x : SavedStrategy) : (x.fields.map Prod.fst).Nodup := by
  obtain ⟨id, name, strategy, createdAt, updatedAt⟩ := x
  cases createdAt <;> cases updatedAt <;> simp [fields]

def bag (x : SavedStrategy) : Bag :=
  ⟨some x.id, some x.name, some x.strategy.stored, x.createdAt, x.updatedAt⟩

theorem decode_time (origin : Origin) {t : Instant} (h : t.InCalendar) :
    Decoder.nullable Instant.decoder origin (.ofJson (.string t.text)) = .ok (some t) := by
  have hread : Instant.decoder origin (.ofJson (.string t.text)) = .ok t := by
    simp [Instant.decoder, Source.ofJson, Time.readLoose_text h, Except.mapError]
  exact Decoder.nullable_ofJson (by simp) hread

theorem readAll_fields (origin : Origin) {x : SavedStrategy} (hx : x.Proper) :
    record.readAll origin record.start x.fields = .ok x.bag := by
  obtain ⟨hstrategy, hid, hcreatedAt, hupdatedAt⟩ := hx
  have hstrategy := Strategy.decode_toJson origin hstrategy
  have hid : StrategyId.decoder origin (.ofJson x.id.toJson) = .ok x.id := by
    simp [StrategyId.decoder, StrategyId.toJson, Source.ofJson, Decoder.integer, hid, bind,
      Except.bind, pure, Except.pure]
  have hname : Decoder.string origin (.ofJson (.string x.name)) = .ok x.name := rfl
  have hcreatedAt := fun t ht ↦ decode_time origin (hcreatedAt t ht)
  have hupdatedAt := fun t ht ↦ decode_time origin (hupdatedAt t ht)
  have hread : record.read = Bag.read := rfl
  rw [show record.start = Bag.empty from rfl]
  cases hcreated : x.createdAt <;> cases hupdated : x.updatedAt <;>
    simp [fields, Record.readAll, hread, Bag.read, hid, hname, hstrategy, hcreatedAt, hupdatedAt,
      hcreated, hupdated, bag, Bag.empty, bind, Except.bind, pure, Except.pure]

theorem decode_toJson (origin : Origin) {x : SavedStrategy} (hx : x.Proper) :
    decoder origin (.ofJson x.toJson) = .ok x.stored := by
  rw [toJson_eq_written, decoder, Record.decode_written origin field?_name x.nodup_fields
    (readAll_fields origin hx)]
  rfl

def places : record.Places where
  Value
    | .id => Option StrategyId
    | .name => Option String
    | .strategy => Option (Strategy (Option String))
    | .createdAt | .updatedAt => Option Instant
  reader
    | .id => fun origin s ↦ some <$> StrategyId.decoder origin s
    | .name => fun origin s ↦ some <$> Decoder.string origin s
    | .strategy => fun origin s ↦ some <$> Strategy.decoder origin s
    | .createdAt | .updatedAt => Decoder.nullable Instant.decoder
  get
    | .id => Bag.id
    | .name => Bag.name
    | .strategy => Bag.strategy
    | .createdAt => Bag.createdAt
    | .updatedAt => Bag.updatedAt
  put
    | .id => fun a b ↦ { b with id := a }
    | .name => fun a b ↦ { b with name := a }
    | .strategy => fun a b ↦ { b with strategy := a }
    | .createdAt => fun a b ↦ { b with createdAt := a }
    | .updatedAt => fun a b ↦ { b with updatedAt := a }
  read_eq origin i s b := by
    cases i with
    | id => exact Record.read_map _ some fun a ↦ { b with id := a }
    | name => exact Record.read_map _ some fun a ↦ { b with name := a }
    | strategy => exact Record.read_map _ some fun a ↦ { b with strategy := a }
    | createdAt | updatedAt => rfl
  get_put i a b := by cases i <;> rfl
  get_put_of_ne {i j} h a b := by
    cases i <;> cases j <;> first | rfl | exact absurd rfl h
  ext {b b'} h := by
    obtain ⟨id, name, strategy, createdAt, updatedAt⟩ := b
    obtain rfl := h .id
    obtain rfl := h .name
    obtain rfl := h .strategy
    obtain rfl := h .createdAt
    obtain rfl := h .updatedAt
    rfl

theorem within_toJson {kind : Number → Prop} {x : SavedStrategy} {levels : Nat}
    (hid : kind (.integer x.id.number)) (hlevels : levels ≠ 0)
    (hstrategy : x.strategy.toJson.Within (levels - 1) kind) : x.toJson.Within levels kind := by
  refine ⟨hlevels, Json.withinMembers_iff.mpr fun m hm ↦ ?_⟩
  simp only [timeMember, List.mem_append, List.mem_cons, List.not_mem_nil, or_false,
    List.mem_map] at hm
  rcases hm with ((rfl | rfl | rfl) | ⟨t, -, rfl⟩) | ⟨t, -, rfl⟩
  · exact hid
  · trivial
  · exact hstrategy
  · trivial
  · trivial

end SavedStrategy

end TradingRules
