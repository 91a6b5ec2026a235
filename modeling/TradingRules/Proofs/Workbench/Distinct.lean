import Mathlib.Data.List.Induction
import TradingRules.Proofs.Workbench.Account

namespace TradingRules

open Workbench (Question Answer Exchange newIdentities checkImport)

theorem Condition.id_of_edit {c c' : Condition} {e : Edit} (h : c.edit e = .ok c') :
    c'.id = c.id := by
  obtain ⟨r, -, h⟩ := bind_eq_ok_iff.mp h
  exact Except.ok.inj h ▸ rfl

namespace Workbench

variable {w : Workbench}

theorem editFirst_append {id : String} {e : Edit} {before : List Condition} {c : Condition}
    (hbefore : ∀ b ∈ before, b.id ≠ id) (hc : c.id = id) (after : List Condition) :
    editFirst id e (before ++ c :: after) =
      (c.edit e).map fun c' ↦ some (before ++ c' :: after) := by
  induction before with
  | nil =>
    rw [List.nil_append, editFirst, if_pos hc]
    cases c.edit e <;> rfl
  | cons b before ih =>
    rw [List.forall_mem_cons] at hbefore
    rw [List.cons_append, editFirst, if_neg hbefore.1, ih hbefore.2]
    cases c.edit e <;> rfl

/-- No two conditions of the draft have the same identity. So each is found by its own, and nothing
else is edited or removed by it. -/
structure TellsApart (w : Workbench) : Prop where
  nodup : w.draft.identities.Nodup
  found : ∀ c ∈ w.draft.conditions, w.condition? c.id = some c
  updated : ∀ before c after e, w.draft.conditions = before ++ c :: after →
    w.update c.id e =
      (c.edit e).map fun c' ↦ some { w with draft.conditions := before ++ c' :: after }
  removed : ∀ before c after, w.draft.conditions = before ++ c :: after →
    w.remove c.id = (true, { w with draft.conditions := before ++ after })

theorem ne_of_nodup {before after : List Condition} {c : Condition}
    (h : w.draft.identities.Nodup) (hc : w.draft.conditions = before ++ c :: after) :
    (∀ b ∈ before, b.id ≠ c.id) ∧ ∀ a ∈ after, a.id ≠ c.id := by
  rw [Strategy.identities, hc, List.map_append, List.map_cons, List.nodup_middle] at h
  have hid := (List.nodup_cons.mp h).1
  rw [List.mem_append, not_or] at hid
  constructor
  · intro b hb heq
    exact hid.1 (heq ▸ List.mem_map_of_mem hb)
  · intro a ha heq
    exact hid.2 (heq ▸ List.mem_map_of_mem ha)

theorem tellsApart_iff : w.TellsApart ↔ w.draft.identities.Nodup := by
  refine ⟨TellsApart.nodup, fun h ↦ ⟨h, ?_, ?_, ?_⟩⟩
  · intro c hc
    obtain ⟨before, after, hsplit⟩ := List.append_of_mem hc
    have hbefore := (ne_of_nodup h hsplit).1
    rw [condition?, hsplit, List.find?_append, List.find?_eq_none.mpr (by simpa using hbefore)]
    simp
  · intro before c after e hsplit
    rw [update, hsplit, editFirst_append (ne_of_nodup h hsplit).1 rfl]
    cases c.edit e <;> rfl
  · intro before c after hsplit
    obtain ⟨hbefore, hafter⟩ := ne_of_nodup h hsplit
    have hfilter : w.draft.conditions.filter (·.id ≠ c.id) = before ++ after := by
      rw [hsplit, List.filter_append, List.filter_cons_of_neg (by simp),
        List.filter_eq_self.mpr (by simpa using hbefore),
        List.filter_eq_self.mpr (by simpa using hafter)]
    have hlength : (before ++ after).length ≠ w.draft.conditions.length := by simp [hsplit]
    rw [remove, hfilter, decide_eq_true hlength]

end Workbench

namespace Note

def identities : Note → List String
  | .begun (.importDraft st) => st.identities
  | .asked ⟨.newId, id⟩ => [id]
  | .asked ⟨.call (.get _), .ok saved⟩ => saved.strategy.givenIdentities
  | _ => []

def newIdentity? : Note → Option String
  | .asked ⟨.newId, id⟩ => some id
  | _ => none

def Distinct : Note → Prop
  | .begun (.importDraft st) => checkImport st = .ok () → st.identities.Nodup
  | .asked ⟨.call (.get _), .ok saved⟩ => saved.strategy.givenIdentities.Nodup
  | _ => True

end Note

def Fresh (notes : List Note) : Prop :=
  notes.Pairwise fun n n' ↦ ∀ id ∈ n'.newIdentity?, id ∉ n.identities

instance (notes : List Note) : Decidable (Fresh notes) :=
  inferInstanceAs (Decidable (notes.Pairwise _))

variable {notes : List Note} {w w' : Workbench} {op : Operation} {r : op.Reply}
  {log : List Exchange}

theorem Fresh.not_mem {notes' : List Note} (h : Fresh (notes ++ notes')) {id : String}
    (hid : .asked ⟨.newId, id⟩ ∈ notes') : id ∉ notes.flatMap Note.identities := by
  rw [List.mem_flatMap]
  rintro ⟨n, hn, hmem⟩
  exact (List.pairwise_append.mp h).2.2 n hn _ hid id rfl hmem

theorem Fresh.nodup_newIdentities {ids : List String}
    (h : Fresh ((newIdentities ids).map .asked)) : ids.Nodup := by
  unfold Fresh at h
  rw [newIdentities, List.map_map, List.pairwise_map] at h
  refine h.imp fun {i j} hij heq ↦ ?_
  exact hij j rfl (heq ▸ List.mem_singleton_self i)

namespace Conduct

/-- The identities of the draft are those it had, with a new one at most, or they are taken as they
are from an imported or a loaded strategy. -/
theorem identities_cases (h : Conduct w op r w' log) :
    (∃ new : Option String, (∀ id ∈ new, ⟨.newId, id⟩ ∈ log) ∧
        w'.draft.identities.Sublist (w.draft.identities ++ new.toList) ∧
        ∀ n ∈ Note.begun op :: log.map Note.asked, n.Distinct) ∨
      (op = .importDraft w'.draft ∧ checkImport w'.draft = .ok () ∧ log = []) ∨
      ∃ id saved ids, op = .load id ∧ log = ⟨.call (.get id), .ok saved⟩ :: newIdentities ids ∧
        w'.draft.identities.Perm (saved.strategy.givenIdentities ++ ids) := by
  cases h with
  | imported hcheck => exact .inr (.inl ⟨rfl, hcheck, rfl⟩)
  | loaded _ hst => exact .inr (.inr ⟨_, _, _, rfl, rfl, hst.perm⟩)
  | add id | addCrossing _ _ _ id =>
    refine .inl ⟨some id, by simp, ?_, by simp [Note.Distinct]⟩
    simp [Workbench.push, Strategy.identities]
  | reset id | deleted _ _ _ id =>
    refine .inl ⟨some id, by simp, ?_, by simp [Note.Distinct]⟩
    exact List.sublist_append_right _ _
  | updated hedit =>
    obtain ⟨before, c, after, c', hcs, rfl, -, -, hc'⟩ := Workbench.exists_of_editFirst hedit
    refine .inl ⟨none, by simp, ?_, by simp [Note.Distinct]⟩
    simp [Strategy.identities, hcs, Condition.id_of_edit hc']
  | remove id =>
    refine .inl ⟨none, by simp, ?_, by simp [Note.Distinct]⟩
    exact (List.filter_sublist.map _).trans (List.sublist_append_left _ _)
  | saved =>
    refine .inl ⟨none, by simp, List.sublist_append_left _ _, ?_⟩
    simp [or_imp, forall_and, Note.Distinct, newIdentities]
  | importRefused hcheck =>
    refine .inl ⟨none, by simp, List.sublist_append_left _ _, ?_⟩
    simp [Note.Distinct, hcheck]
  | _ => exact .inl ⟨none, by simp, List.sublist_append_left _ _, by simp [Note.Distinct]⟩

theorem identities_subset (h : Conduct w op r w' log)
    (hw : w.draft.identities ⊆ notes.flatMap Note.identities) :
    w'.draft.identities ⊆
      (notes ++ Note.begun op :: log.map Note.asked).flatMap Note.identities := by
  rw [List.flatMap_append, List.flatMap_cons]
  obtain ⟨new, hnew, hsub, -⟩ | ⟨rfl, -, rfl⟩ | ⟨id, saved, ids, rfl, rfl, hperm⟩ :=
    h.identities_cases
  · intro id hid
    rcases List.mem_append.mp (hsub.subset hid) with hid | hid
    · exact List.mem_append_left _ (hw hid)
    · have hasked : Note.asked ⟨.newId, id⟩ ∈ log.map .asked :=
        List.mem_map_of_mem (hnew id (Option.mem_toList.mp hid))
      refine List.mem_append_right _ (List.mem_append_right _ ?_)
      exact List.mem_flatMap.mpr ⟨_, hasked, List.mem_singleton_self id⟩
  · exact List.subset_append_of_subset_right _ (List.subset_append_left _ _)
  · intro i hi
    refine List.mem_append_right _ ?_
    rcases List.mem_append.mp (hperm.subset hi) with hi | hi
    · simpa [Note.identities] using .inl hi
    · simpa [Note.identities, newIdentities] using .inr hi

theorem nodup_iff (h : Conduct w op r w' log)
    (hfresh : Fresh (notes ++ Note.begun op :: log.map Note.asked))
    (hw : w.draft.identities ⊆ notes.flatMap Note.identities) (hnodup : w.draft.identities.Nodup) :
    w'.draft.identities.Nodup ↔ ∀ n ∈ Note.begun op :: log.map Note.asked, n.Distinct := by
  obtain ⟨new, hnew, hsub, hdistinct⟩ | ⟨rfl, hcheck, rfl⟩ | ⟨id, saved, ids, rfl, rfl, hperm⟩ :=
    h.identities_cases
  · refine iff_of_true (List.Nodup.sublist hsub (hnodup.append ?_ ?_)) hdistinct
    · cases new <;> simp
    · intro id hid hid'
      have hasked : Note.asked ⟨.newId, id⟩ ∈ log.map .asked :=
        List.mem_map_of_mem (hnew id (Option.mem_toList.mp hid'))
      exact hfresh.not_mem (List.mem_cons_of_mem _ hasked) (hw hid)
  · rw [List.map_nil, List.forall_mem_singleton]
    exact ⟨fun hdraft _ ↦ hdraft, fun hdraft ↦ hdraft hcheck⟩
  · have hloaded := (List.pairwise_append.mp hfresh).2.1.of_cons
    obtain ⟨hgiven, hids⟩ := List.pairwise_cons.mp hloaded
    have hdisjoint : saved.strategy.givenIdentities.Disjoint ids := by
      intro i hi hi'
      exact hgiven (.asked ⟨.newId, i⟩) (by simpa [newIdentities] using hi') i rfl hi
    rw [hperm.nodup_iff, List.nodup_append']
    have hrest : ∀ n ∈ (newIdentities ids).map Note.asked, n.Distinct := by
      simp [newIdentities, Note.Distinct]
    rw [List.map_cons, List.forall_mem_cons, List.forall_mem_cons]
    constructor
    · exact fun h ↦ ⟨trivial, h.1, hrest⟩
    · exact fun h ↦ ⟨h.2.1, Fresh.nodup_newIdentities hids, hdisjoint⟩

end Conduct

namespace Account

variable {σ : Type} (answer : (q : Question) → σ → Answer q × σ)

theorem identities_subset (s : σ) (ops : List Operation) :
    (of answer s ops).bench.draft.identities ⊆
      (of answer s ops).notes.flatMap Note.identities :=
  of_keeps (I := fun w notes ↦ w.draft.identities ⊆ notes.flatMap Note.identities)
    (fun id ↦ List.Subset.refl [id]) (fun h hw ↦ h.identities_subset hw) s ops

/-- At any store, and with new identities that did not come in before: the conditions of the draft
can be told apart by their identities at every point if and only if every strategy that is imported
or loaded has different ones. A workbench checks them nowhere. -/
theorem identities_stay_distinct_iff (s : σ) (ops : List Operation)
    (hfresh : Fresh (of answer s ops).notes) :
    (∀ before, before <+: ops → (of answer s before).bench.TellsApart) ↔
      ∀ n ∈ (of answer s ops).notes, n.Distinct := by
  simp only [Workbench.tellsApart_iff]
  induction ops using List.reverseRecOn with
  | nil =>
    have hnotes : ∀ n ∈ (of answer s []).notes, n.Distinct :=
      List.forall_mem_singleton.mpr trivial
    refine iff_of_true (fun before hbefore ↦ ?_) hnotes
    rw [List.prefix_nil.mp hbefore]
    exact List.nodup_singleton _
  | append_singleton ops op ih =>
    obtain ⟨r, log, hconduct, hnotes⟩ := exists_conduct answer (of answer s ops) op
    rw [of_append_singleton, hnotes] at hfresh
    have hold := ih (List.pairwise_append.mp hfresh).1
    have hnew := hconduct.nodup_iff hfresh (identities_subset answer s ops)
    simp only [List.prefix_concat_iff, forall_eq_or_imp]
    rw [of_append_singleton, hnotes, List.forall_mem_append, ← hold, and_comm]
    exact and_congr_right fun h ↦ hnew (h ops List.prefix_rfl)

theorem identities_stay_distinct_after_load :
    let saved : SavedStrategy (Option String) :=
      ⟨⟨1⟩, "Gap", ⟨[⟨some "a", .initial⟩, ⟨none, .added⟩], .or, .short, .manual⟩, none, none⟩
    let answer : (q : Question) → Nat → Answer q × Nat
      | .call (.get _), n => (.ok saved, n + 1)
      | .call c, n => (c.fail .storage, n + 1)
      | .newId, n => (["b", "c", "d", "e"].getD n "", n + 1)
    let ops : List Operation := [.importDraft ⟨[⟨"a", .added⟩], .and, .long, .manual⟩, .add,
      .update "a" (.value "30"), .load ⟨1⟩, .remove "a"]
    Fresh (of answer 0 ops).notes ∧
      (of answer 0 (ops.take 4)).bench.draft.identities = ["a", "e"] ∧
      (of answer 0 (ops.take 4)).bench.TellsApart := by
  intro saved answer ops
  have hfresh : Fresh (of answer 0 ops).notes := by decide +kernel
  have hdistinct : ∀ n ∈ (of answer 0 ops).notes, n.Distinct := by
    have hnotes : (of answer 0 ops).notes = [.asked ⟨.newId, "b"⟩,
      .begun (.importDraft ⟨[⟨"a", .added⟩], .and, .long, .manual⟩),
      .begun .add, .asked ⟨.newId, "c"⟩, .begun (.update "a" (.value "30")),
      .begun (.load ⟨1⟩), .asked ⟨.call (.get ⟨1⟩), .ok saved⟩, .asked ⟨.newId, "e"⟩,
      .begun (.remove "a")] := rfl
    rw [hnotes]
    simp [Note.Distinct, Strategy.identities, Strategy.givenIdentities, saved]
  exact ⟨hfresh, by decide +kernel,
    (identities_stay_distinct_iff answer 0 ops hfresh).mpr hdistinct _ (List.take_prefix 4 ops)⟩

/-- A strategy whose conditions have the same identity is imported. The second condition is not
found, an edit changes the first one only, and both are removed together. -/
theorem imported_identities_can_clash :
    let st : Strategy := ⟨[⟨"a", .initial⟩, ⟨"a", .added⟩], .and, .long, .manual⟩
    let answer : (q : Question) → Nat → Answer q × Nat
      | .call c, n => (c.fail .storage, n + 1)
      | .newId, n => ("#" ++ toString n, n + 1)
    let a := of answer 0 [.importDraft st]
    Fresh a.notes ∧ ¬ a.bench.draft.identities.Nodup ∧
      a.bench.condition? "a" = some ⟨"a", .initial⟩ ∧
      (of answer 0 [.importDraft st, .update "a" (.operator .greaterThan)]).bench.draft.conditions =
        [⟨"a", .ofOperator .rsi .greaterThan "30"⟩, ⟨"a", .added⟩] ∧
      a.bench.remove "a" = (true, { a.bench with draft.conditions := [] }) := by
  decide +kernel

end Account

end TradingRules
