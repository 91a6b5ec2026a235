import TradingRules.Proofs.Document.Order
import TradingRules.Proofs.Strategy.Fields

namespace TradingRules

def Condition.Rearranged : Source → Source → Prop :=
  record.Rearranged fun _ s s' ↦ s = s'

def Exit.Rearranged : Source → Source → Prop :=
  record.Rearranged fun _ s s' ↦ s = s'

theorem Condition.decoder_agree {origin : Origin} {s s' : Source} (h : Rearranged s s') :
    Decoder.Agree decoder origin s s' := by
  apply places.decode_agree ?_ h
  rintro i t _ rfl a
  rfl

theorem Exit.decoder_agree {origin : Origin} {s s' : Source} (h : Rearranged s s') :
    Decoder.Agree decoder origin s s' := by
  apply places.decode_agree ?_ h
  rintro i t _ rfl a
  rfl

namespace Strategy

/-- What stands for a field of a strategy, with the conditions or the exit in it rearranged. -/
inductive SameField : Field → Source → Source → Prop
  | same (i : Field) (s : Source) : SameField i s s
  | conditions {items items' : List Source} {closed : Bool}
      (h : List.Forall₂ Condition.Rearranged items items') :
      SameField .conditions (.array items closed) (.array items' closed)
  | exit {s s' : Source} (h : Exit.Rearranged s s') : SameField .exit s s'

/-- The fields of a strategy in another order, and those of its conditions and of its exit. -/
def Rearranged : Source → Source → Prop :=
  record.Rearranged SameField

variable {origin : Origin} {s s' : Source}

theorem reader_agree {i : Field} (h : SameField i s s') :
    Decoder.Agree (places.reader i) origin s s' := by
  cases h with
  | same => exact fun _ ↦ Iff.rfl
  | conditions h =>
    have hitems : List.Forall₂ (Decoder.Agree Condition.decoder origin) _ _ :=
      h.imp fun _ _ ↦ Condition.decoder_agree
    exact ((Decoder.Agree.list hitems).nullable (by simp)).map (·.getD [])
  | exit h => exact ((Exit.decoder_agree h).nullable h.eq_null_iff).map (·.getD .default)

theorem decoder_agree (h : Rearranged s s') : Decoder.Agree decoder origin s s' :=
  places.decode_agree (fun _ _ _ ↦ reader_agree) h

theorem ne_compareName {p : Parameter} {older : String} (h : older ∈ p.compareAlias) :
    older ≠ p.compareName := by
  revert older
  cases p <;> decide +kernel

/-- Texts that differ in the order of the fields of the strategy, of its conditions and of its exit,
and in the spellings of the parameters, are read as the same strategy if they can be read at all. A
condition that has a parameter under both of its spellings is always refused. -/
theorem order_and_spelling_of_fields_do_not_count :
    (∀ text text', (Json.readText text).ended → (Json.readText text').ended →
      Rearranged (Json.readText text).root (Json.readText text').root →
      ∀ st, decoder.ofText text = .ok st ↔ decoder.ofText text' = .ok st) ∧
    ∀ origin members closed (p : Parameter), ∀ older ∈ p.compareAlias,
      some p.compareName ∈ members.map Prod.fst → some older ∈ members.map Prod.fst →
      ∃ e, Condition.decoder origin (.object members closed) = .error e := by
  constructor
  · intro text text' hended hended' h st
    have hagree : Decoder.Agree decoder .text _ _ := decoder_agree h
    simp [Decoder.ofText, hended, hended', hagree st]
  · intro origin members closed p older holder hname hname'
    obtain ⟨m, hm, hmname⟩ := List.mem_map.mp hname
    obtain ⟨m', hm', hmname'⟩ := List.mem_map.mp hname'
    have hapart : m ≠ m' := by
      rintro rfl
      exact ne_compareName holder (Option.some.inj (hmname'.symm.trans hmname))
    apply Decoder.Record.exists_error_of_twice origin hm hm' hapart (i := .parameter .compare p)
    · rw [hmname]
      exact Condition.field?_of_spelling List.mem_cons_self
    · rw [hmname']
      exact Condition.field?_of_spelling (List.mem_cons_of_mem _ holder)

theorem strategy_is_read_backwards :
    let period := ("compareFast_period", Json.ofNat 5)
    let period' := ("compareFastPeriod", Json.ofNat 5)
    let rest := [("indicator", Json.string "SMA"), ("operator", .string "crosses_above"),
      ("compareIndicator", .string "MACD"), ("later", .null)]
    let direction := ("action", Json.string "SHORT")
    let v := Json.object [direction, ("conditions", .array [.object (period :: rest)])]
    let v' := Json.object [("conditions", .array [.object (rest.reverse ++ [period'])]), direction]
    let c : Condition (Option String) :=
      ⟨none, .sma 20, .crossesAbove, "", some (.macd 5 26 9), none⟩
    let st : Strategy (Option String) := ⟨[c], .default, .short, .default⟩
    (Json.readText v.compact).ended ∧ (Json.readText v'.compact).ended ∧
      Rearranged (Json.readText v.compact).root (Json.readText v'.compact).root ∧
      decoder.ofText v.compact = .ok st ∧ decoder.ofText v'.compact = .ok st ∧
      ∃ e, Condition.decoder .value
        (.object (Source.ofMembers [period, period']) true) = .error e := by
  intro period period' rest direction v v' c st
  have hfive : (Number.integer (5 : ℕ)).Legible := Number.legible_ofNat (by decide)
  have hlegible : v.Legible 127 := by
    simpa [Json.Within, Json.WithinMembers, Json.WithinItems, Json.ofNat, v, direction, period,
      rest] using hfive
  have hlegible' : v'.Legible 127 := by
    simpa [Json.Within, Json.WithinMembers, Json.WithinItems, Json.ofNat, v', direction, period',
      rest] using hfive
  have hread := Json.readText_compact hlegible
  have hread' := Json.readText_compact hlegible'
  have hcondition : Condition.Rearranged (.ofJson (.object (period :: rest)))
      (.ofJson (.object (rest.reverse ++ [period']))) := by
    have hsame : List.Forall₂ (Condition.record.SameMember fun _ s s' ↦ s = s')
        (Source.ofMembers (period :: rest)) (Source.ofMembers (period' :: rest)) :=
      .cons (.field (i := .parameter .compare .fastPeriod) rfl rfl rfl)
        (List.forall₂_same.mpr fun m _ ↦ .same m)
    exact .object (by decide +kernel) hsame (List.reverse_perm _).symm
  have hrearranged : Rearranged (.ofJson v) (.ofJson v') := by
    have hsame : List.Forall₂ (record.SameMember SameField)
        (Source.ofMembers [direction, ("conditions", .array [.object (period :: rest)])])
        (Source.ofMembers
          [direction, ("conditions", .array [.object (rest.reverse ++ [period'])])]) :=
      .cons (.same _) (.cons (.field (i := .conditions) rfl rfl
        (.conditions (.cons hcondition .nil))) .nil)
    exact .object (by decide +kernel) hsame (List.reverse_perm _).symm
  have hst : decoder.ofText v.compact = .ok st := by
    rw [Decoder.ofText, hread]
    decide +kernel
  obtain ⟨hsame, htwice⟩ := order_and_spelling_of_fields_do_not_count
  have hended : (Json.readText v.compact).ended := by rw [hread]
  have hended' : (Json.readText v'.compact).ended := by rw [hread']
  have hroots : Rearranged (Json.readText v.compact).root (Json.readText v'.compact).root := by
    rw [hread, hread']
    exact hrearranged
  refine ⟨hended, hended', hroots, hst, (hsame _ _ hended hended' hroots st).mp hst, ?_⟩
  exact htwice .value _ true .fastPeriod "compareFast_period" (by decide) (by decide) (by decide)

end Strategy

end TradingRules
