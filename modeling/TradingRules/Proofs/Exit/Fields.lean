import TradingRules.Proofs.Document.Fields
import TradingRules.Proofs.Exit.RoundTrip

namespace TradingRules

def ExitKind.fields : ExitKind → List Exit.Field
  | .manual => []
  | .profitTarget | .stopLoss | .trailingStop => [.value]
  | .timeBased => [.timePeriod, .timeUnit]
  | .indicatorBased => [.indicator, .operator, .indicatorValue]

namespace Exit

open Forgiving (chosen countOf numberOf textOf)

variable {d d' : Field → Option Json}

def namedKind (d : Field → Option Json) : ExitKind :=
  ((d .type).bind (chosen ExitKind.names)).getD .manual

/-- The exit with what can be used of some values for its fields. -/
def overwrite (d : Field → Option Json) : Exit → Exit
  | .manual => .manual
  | .profitTarget x => .profitTarget (((d .value).bind numberOf).getD x)
  | .stopLoss x => .stopLoss (((d .value).bind numberOf).getD x)
  | .trailingStop x => .trailingStop (((d .value).bind numberOf).getD x)
  | .timeBased n u => .timeBased (((d .timePeriod).bind countOf).getD n)
      (((d .timeUnit).bind (chosen TimeUnit.names)).getD u)
  | .indicatorBased i o v => .indicatorBased (((d .indicator).bind (chosen Indicator.names)).getD i)
      (((d .operator).bind (chosen Operator.names)).getD o)
      (((d .indicatorValue).map textOf).getD v)

theorem kind_standard (k : ExitKind) : (standard k).kind = k := by
  cases k <;> rfl

theorem kind_overwrite (e : Exit) : (e.overwrite d).kind = e.kind := by
  cases e <;> rfl

theorem overwrite_congr {e : Exit} (h : ∀ i ∈ e.kind.fields, d' i = d i) :
    e.overwrite d' = e.overwrite d := by
  cases e <;> simp_all [overwrite, kind, ExitKind.fields]

theorem exitKind_of_lookup {name : String} {k : ExitKind}
    (h : ExitKind.names.lookup name = some k) : name = k.name := by
  obtain ⟨before, after, hcut, -⟩ := List.lookup_eq_some_iff.mp h
  have hmem : (name, k) ∈ ExitKind.names := by
    rw [hcut]
    simp
  obtain ⟨k', -, hk⟩ := List.mem_map.mp hmem
  obtain ⟨rfl, rfl⟩ := Prod.mk.inj hk
  rfl

theorem namedKind_of_names {k : ExitKind} {v : Json} (hv : d .type = some v) (h : v.Names k.name) :
    namedKind d = k := by
  have hchosen := Forgiving.chosen_eq_some_iff.mpr ⟨k.name, k.lookup_name, h⟩
  rw [namedKind, hv, Option.bind_some, hchosen, Option.getD_some]

theorem namedKind_of_not_names (h : ∀ (k : ExitKind) v, d .type = some v → ¬ v.Names k.name) :
    namedKind d = .manual := by
  have hnone : (d .type).bind (chosen ExitKind.names) = none := by
    rw [Option.bind_eq_none_iff]
    intro v hv
    rw [Option.eq_none_iff_forall_ne_some]
    intro k hk
    obtain ⟨name, hname, hnames⟩ := Forgiving.chosen_eq_some_iff.mp hk
    rw [exitKind_of_lookup hname] at hnames
    exact h k v hv hnames
  rw [namedKind, hnone, Option.getD_none]

def places : record.Places where
  Value
    | .type => Option ExitKind
    | .value => Option Binary64
    | .timePeriod => Option UInt32
    | .timeUnit => Option TimeUnit
    | .indicator => Option Indicator
    | .operator => Option Operator
    | .indicatorValue => Option String
  reader
    | .type => Forgiving.choice ExitKind.names
    | .value => Forgiving.number
    | .timePeriod => Forgiving.count
    | .timeUnit => Forgiving.choice TimeUnit.names
    | .indicator => Forgiving.choice Indicator.names
    | .operator => Forgiving.choice Operator.names
    | .indicatorValue => Forgiving.text
  get
    | .type => Bag.type
    | .value => Bag.value
    | .timePeriod => Bag.timePeriod
    | .timeUnit => Bag.timeUnit
    | .indicator => Bag.indicator
    | .operator => Bag.operator
    | .indicatorValue => Bag.indicatorValue
  put
    | .type => fun a b ↦ { b with type := a }
    | .value => fun a b ↦ { b with value := a }
    | .timePeriod => fun a b ↦ { b with timePeriod := a }
    | .timeUnit => fun a b ↦ { b with timeUnit := a }
    | .indicator => fun a b ↦ { b with indicator := a }
    | .operator => fun a b ↦ { b with operator := a }
    | .indicatorValue => fun a b ↦ { b with indicatorValue := a }
  read_eq origin i s b := by cases i <;> rfl
  get_put i a b := by cases i <;> rfl
  get_put_of_ne {i j} h a b := by
    cases i <;> cases j <;> first | rfl | exact absurd rfl h
  ext {b b'} h := by
    obtain ⟨type, value, timePeriod, timeUnit, indicator, operator, indicatorValue⟩ := b
    obtain rfl := h .type
    obtain rfl := h .value
    obtain rfl := h .timePeriod
    obtain rfl := h .timeUnit
    obtain rfl := h .indicator
    obtain rfl := h .operator
    obtain rfl := h .indicatorValue
    rfl

variable {origin : Origin} {members : List (Option String × Source)}

def bagOf (d : Field → Option Json) : Bag where
  type := (d .type).bind (chosen ExitKind.names)
  value := (d .value).bind numberOf
  timePeriod := (d .timePeriod).bind countOf
  timeUnit := (d .timeUnit).bind (chosen TimeUnit.names)
  indicator := (d .indicator).bind (chosen Indicator.names)
  operator := (d .operator).bind (chosen Operator.names)
  indicatorValue := (d .indicatorValue).bind fun v ↦ some (textOf v)

theorem exit_bagOf (d : Field → Option Json) :
    (bagOf d).exit = (standard (namedKind d)).overwrite d := by
  have htype : (bagOf d).type.getD Exit.default.kind = namedKind d := rfl
  rw [Bag.exit, htype]
  cases namedKind d with
  | indicatorBased =>
    simp only [standard, overwrite, Option.map_eq_bind]
    rfl
  | manual | profitTarget | stopLoss | trailingStop | timeBased => rfl

theorem reads_bagOf (h : record.Valued members) :
    places.Reads origin (record.known members) .empty (bagOf (record.value? members)) := by
  intro i
  cases i <;> exact h.reads_optional _ origin _

theorem decode_of_valued (h : record.Valued members) :
    decoder origin (.object members true) = .ok
      ((standard (namedKind (record.value? members))).overwrite (record.value? members)) := by
  apply places.decode_eq_ok_of_reads h.toWellFormed (reads_bagOf h)
  exact congrArg Except.ok (exit_bagOf _)

/-- Every object without a repeated field is read as an exit. Its kind is the one that the type
names, by hand if it names none; the fields of the kind take what can be used of the object, each
for itself, and else what the kind starts with; no other field counts. -/
theorem every_object_is_read_as_an_exit :
    (∀ origin members, record.Valued members →
      ∃ e, decoder origin (.object members true) = .ok e ∧
        (∀ (k : ExitKind) v, record.value? members .type = some v → v.Names k.name → e.kind = k) ∧
        ((∀ (k : ExitKind) v, record.value? members .type = some v → ¬ v.Names k.name) →
          e.kind = .manual) ∧
        e = (standard e.kind).overwrite (record.value? members) ∧ e.HasFinitePercent ∧
        ∀ origin' members', record.Valued members' →
          (∀ i ∈ .type :: e.kind.fields,
            record.value? members' i = record.value? members i) →
          decoder origin' (.object members' true) = .ok e) ∧
    ∀ members, (Source.object members true).toJson?.isSome →
      ((record.known members).map Prod.fst).Nodup → record.Valued members := by
  refine ⟨fun origin members h ↦ ?_, fun members h hnodup ↦ .of_toJson? h hnodup⟩
  have hread : decoder origin (.object members true) = .ok _ := decode_of_valued h
  have hkind := kind_overwrite (d := record.value? members)
    (standard (namedKind (record.value? members)))
  rw [kind_standard] at hkind
  refine ⟨_, hread, ?_, ?_, ?_, hasFinitePercent_of_decoder hread, ?_⟩
  · intro k v hv hnames
    rw [hkind, namedKind_of_names hv hnames]
  · intro hnone
    rw [hkind, namedKind_of_not_names hnone]
  · rw [hkind]
  · intro origin' members' h' hagree
    rw [hkind, List.forall_mem_cons] at hagree
    rw [decode_of_valued h', namedKind, hagree.1, ← namedKind,
      overwrite_congr (by rw [kind_standard]; exact hagree.2)]

/-- The unit is a number, and the value and what is unknown belong to nothing. -/
theorem exit_is_read_from_a_damaged_object :
    let members : List (Option String × Source) := [(some "timePeriod", .string (some " 12 ")),
      (some "value", .array [.bool true, .number (some (.integer 3))] true),
      (some "type", .object [(some "time_based", .null)] true), (some "later", .number none),
      (some "timeUnit", .number (some (.integer 5)))]
    let members' : List (Option String × Source) := [
      (some "type", .object [(some "time_based", .null)] true),
      (some "timeUnit", .number (some (.integer 5))), (some "timePeriod", .string (some " 12 ")),
      (some "indicatorValue", .string (some "70"))]
    record.Valued members ∧ record.Valued members' ∧
      decoder .text (.object members true) = .ok (.timeBased 12 .days) ∧
      decoder .value (.object members' true) = .ok (.timeBased 12 .days) := by
  intro members members'
  have hvalued : record.Valued members := by decide +kernel
  have hvalued' : record.Valued members' :=
    every_object_is_read_as_an_exit.2 members' (by decide +kernel) (by decide +kernel)
  obtain ⟨e, hread, hkind, -, hexit, -, hinert⟩ :=
    every_object_is_read_as_an_exit.1 .text members hvalued
  have htype : e.kind = .timeBased :=
    hkind .timeBased (.object [("time_based", .null)]) rfl (.inr rfl)
  have he : e = .timeBased 12 .days := by
    rw [hexit, htype]
    decide +kernel
  rw [htype, he] at hinert
  rw [he] at hread
  refine ⟨hvalued, hvalued', hread, hinert .value members' hvalued' ?_⟩
  rw [ExitKind.fields, List.forall_mem_cons, List.forall_mem_cons, List.forall_mem_cons]
  exact ⟨rfl, rfl, rfl, nofun⟩

end Exit

end TradingRules
