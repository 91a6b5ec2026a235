import Mathlib.Data.List.Nodup
import TradingRules.Proofs.Text.LetterCase
import TradingRules.Store.Table

namespace TradingRules

theorem Row.strategyId_inj {r r' : Row} : r.strategyId = r'.strategyId ↔ r.id = r'.id := by
  simp only [strategyId, StrategyId.mk.injEq]
  omega

namespace Table

/-- What holds of a table through all calls. -/
structure Sound (t : Table) : Prop where
  ascending : (t.rows.map (·.id)).Pairwise (· < ·)
  positive : ∀ r ∈ t.rows, 0 < r.id
  bounded : ∀ r ∈ t.rows, r.id ≤ t.lastId
  distinct : t.rows.Pairwise fun r r' ↦ r.owner = r'.owner → sameName r.name r'.name = false

theorem sound_empty : empty.Sound :=
  ⟨.nil, by simp [empty], by simp [empty], .nil⟩

theorem mem_of {t : Table} {owner : String} {r : Row} :
    r ∈ t.of owner ↔ r ∈ t.rows ∧ r.owner = owner := by
  simp [of]

theorem hasName_iff {t : Table} {owner name : String} :
    t.hasName owner name ↔ ∃ r ∈ t.of owner, sameName r.name name := by
  simp [hasName]

theorem hasName_eq_false_iff {t : Table} {owner name : String} :
    t.hasName owner name = false ↔ ∀ r ∈ t.of owner, sameName r.name name = false := by
  simp [hasName]

variable {t : Table} {owner : String} {now : Instant}

def next (t : Table) (owner : String) (now : Instant) (name : String) (strategy : Strategy) : Row :=
  ⟨t.lastId + 1, owner, name, strategy.toJson.compact, now.rowText, now.rowText⟩

theorem answer_create_of_hasName {name : String} (h : t.hasName owner name) (strategy : Strategy) :
    t.answer owner now (.create name strategy) =
      (.error (.conflict (answer.conflictMessage name)), t) := by
  simp [answer, insert?, h]

theorem answer_create {name : String} (h : t.hasName owner name = false) (strategy : Strategy) :
    t.answer owner now (.create name strategy) =
      (.ok ⟨⟨(t.lastId + 1 : Nat)⟩, name, strategy.stored, some now, some now⟩,
        ⟨t.rows ++ [t.next owner now name strategy], t.lastId + 1⟩) := by
  simp [answer, insert?, h, push, next]

theorem answer_delete_of_isSome {id : StrategyId} (h : (t.find? owner id).isSome) :
    t.answer owner now (.delete id) = (.ok (), t.erase owner id) := by
  simp [answer, h]

theorem answer_delete_of_none {id : StrategyId} (h : t.find? owner id = none) :
    t.answer owner now (.delete id) = (.error (.notFound id), t) := by
  simp [answer, h]

theorem answer_get_snd {id : StrategyId} : (t.answer owner now (.get id)).2 = t := by
  cases h : t.find? owner id <;> simp [answer, h]

theorem answer_cases (t : Table) (owner : String) (now : Instant) (c : Call) :
    (t.answer owner now c).2 = t ∨
    (∃ name strategy, c = .create name strategy ∧ t.hasName owner name = false ∧
      (t.answer owner now c).2 = ⟨t.rows ++ [t.next owner now name strategy], t.lastId + 1⟩) ∨
    (∃ id, c = .delete id ∧ (t.answer owner now c).2 = t.erase owner id) := by
  cases c with
  | create name strategy =>
    cases h : t.hasName owner name with
    | true => exact .inl (by rw [answer_create_of_hasName h])
    | false => exact .inr (.inl ⟨name, strategy, rfl, h, by rw [answer_create h]⟩)
  | list => exact .inl rfl
  | get id => exact .inl answer_get_snd
  | delete id =>
    cases h : t.find? owner id with
    | none => exact .inl (by rw [answer_delete_of_none h])
    | some r => exact .inr (.inr ⟨id, rfl, by rw [answer_delete_of_isSome (by simp [h])]⟩)

theorem Sound.push (ht : t.Sound) {name : String} (h : t.hasName owner name = false)
    (strategy : Strategy) :
    Sound ⟨t.rows ++ [t.next owner now name strategy], t.lastId + 1⟩ where
  ascending := by
    rw [List.map_append, List.pairwise_append]
    refine ⟨ht.ascending, by simp, fun a ha b hb ↦ ?_⟩
    obtain ⟨r, hr, rfl⟩ := List.mem_map.mp ha
    obtain rfl : b = t.lastId + 1 := List.mem_singleton.mp hb
    have := ht.bounded r hr
    omega
  positive := by
    intro r hr
    rcases List.mem_append.mp hr with hr | hr
    · exact ht.positive r hr
    · obtain rfl := List.mem_singleton.mp hr
      exact Nat.succ_pos _
  bounded := by
    intro r hr
    rcases List.mem_append.mp hr with hr | hr
    · exact Nat.le_succ_of_le (ht.bounded r hr)
    · obtain rfl := List.mem_singleton.mp hr
      exact Nat.le_refl _
  distinct := by
    rw [List.pairwise_append]
    refine ⟨ht.distinct, by simp, fun r hr r' hr' howner ↦ ?_⟩
    obtain rfl := List.mem_singleton.mp hr'
    exact hasName_eq_false_iff.mp h r (mem_of.mpr ⟨hr, howner⟩)

theorem Sound.erase (ht : t.Sound) (owner : String) (id : StrategyId) :
    (t.erase owner id).Sound where
  ascending := ht.ascending.sublist (List.filter_sublist.map _)
  positive := fun r hr ↦ ht.positive r (List.mem_filter.mp hr).1
  bounded := fun r hr ↦ ht.bounded r (List.mem_filter.mp hr).1
  distinct := ht.distinct.sublist List.filter_sublist

theorem Sound.answer (ht : t.Sound) (owner : String) (now : Instant) (c : Call) :
    (t.answer owner now c).2.Sound := by
  obtain h | ⟨name, strategy, -, hname, h⟩ | ⟨id, -, h⟩ := t.answer_cases owner now c
  · rwa [h]
  · rw [h]
    exact ht.push hname strategy
  · rw [h]
    exact ht.erase owner id

theorem Sound.eq_of_strategyId_eq (ht : t.Sound) {r r' : Row} (hr : r ∈ t.rows) (hr' : r' ∈ t.rows)
    (h : r.strategyId = r'.strategyId) : r = r' :=
  List.inj_on_of_nodup_map (ht.ascending.imp Nat.ne_of_lt) hr hr' (Row.strategyId_inj.mp h)

theorem Sound.find?_eq_some (ht : t.Sound) {r : Row} (hr : r ∈ t.rows) :
    t.find? r.owner r.strategyId = some r := by
  cases h : t.find? r.owner r.strategyId with
  | none =>
    have hne := List.find?_eq_none.mp h r (mem_of.mpr ⟨hr, rfl⟩)
    simp at hne
  | some r' =>
    have hmem := (mem_of.mp (List.mem_of_find?_eq_some h)).1
    have hid : r'.strategyId = r.strategyId := by simpa using List.find?_some h
    rw [ht.eq_of_strategyId_eq hmem hr hid]

theorem find?_isSome_iff {id : StrategyId} :
    (t.find? owner id).isSome ↔ ∃ r ∈ t.of owner, r.strategyId = id := by
  simp [find?]

/-- A row stays until its owner deletes it. -/
theorem mem_answer {r : Row} (hr : r ∈ t.rows) {c : Call}
    (h : ¬ (owner = r.owner ∧ c = .delete r.strategyId)) : r ∈ (t.answer owner now c).2.rows := by
  obtain hc | ⟨name, strategy, -, -, hc⟩ | ⟨id, rfl, hc⟩ := t.answer_cases owner now c
  · rwa [hc]
  · rw [hc]
    exact List.mem_append_left _ hr
  · rw [hc]
    refine List.mem_filter.mpr ⟨hr, ?_⟩
    simp only [Call.delete.injEq] at h
    simp only [Bool.not_eq_true', Bool.and_eq_false_iff, decide_eq_false_iff_not]
    by_cases howner : r.owner = owner
    · exact .inr fun hid ↦ h ⟨howner.symm, hid.symm⟩
    · exact .inl howner

theorem of_push (t : Table) (owner : String) (now : Instant) (name : String) (strategy : Strategy)
    (lastId : Nat) :
    of ⟨t.rows ++ [t.next owner now name strategy], lastId⟩ owner =
      t.of owner ++ [t.next owner now name strategy] := by
  simp [of, next]

theorem of_answer {other : String} (h : other ≠ owner) (c : Call) :
    (t.answer other now c).2.of owner = t.of owner := by
  obtain hc | ⟨name, strategy, -, -, hc⟩ | ⟨id, rfl, hc⟩ := t.answer_cases other now c
  · rw [hc]
  · simp [hc, of, next, h]
  · rw [hc, of, Table.erase, List.filter_filter]
    refine List.filter_congr fun r _ ↦ ?_
    by_cases howner : r.owner = owner <;> simp [howner, Ne.symm h]

end Table

end TradingRules
