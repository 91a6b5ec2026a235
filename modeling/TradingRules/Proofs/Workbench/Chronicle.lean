import Mathlib.Data.List.Induction
import TradingRules.Proofs.Workbench.Account

namespace TradingRules

open Workbench (Question Answer Exchange newIdentities)

namespace Operation

/-- The replies after which it is known anew which saved strategy the draft belongs to. -/
def Decides : (op : Operation) → op.Reply → Prop
  | .save _, .ok _ | .load _, some _ | .importDraft _, .ok _ | .reset, _ => True
  | .delete id, _ => id.isSet
  | _, _ => False

end Operation

structure Deed where
  op : Operation
  reply : op.Reply
  log : List Exchange

namespace Deed

def Decides (d : Deed) : Prop :=
  d.op.Decides d.reply

inductive Keeps (saved : SavedStrategy (Option String)) : Deed → Prop
  | save {name sent : String} {st : Strategy} {report : Workbench.SaveReport} {log : List Exchange}
      (h : ⟨.call (.create sent st), .ok saved⟩ ∈ log) : Keeps saved ⟨.save name, .ok report, log⟩
  | load {id : StrategyId} {strategy : SavedStrategy} {log : List Exchange}
      (h : ⟨.call (.get id), .ok saved⟩ ∈ log) : Keeps saved ⟨.load id, some strategy, log⟩

end Deed

def Workbench.listing? : Exchange → Option (List Listing)
  | ⟨.call .list, .ok saved⟩ => some saved
  | _ => none

namespace Conduct

variable {w w' : Workbench} {op : Operation} {r : op.Reply} {log : List Exchange}

theorem filterMap_newIdentities (ids : List String) :
    (newIdentities ids).filterMap Workbench.listing? = [] := by
  induction ids with
  | nil => rfl
  | cons id ids ih => exact ih

theorem saved_refreshed (w : Workbench) (listed : Except StoreError (List Listing)) :
    (w.refreshed listed).saved =
      ([⟨.call .list, listed⟩].filterMap Workbench.listing?).getLast?.getD w.saved := by
  cases listed <;> rfl

theorem saved_eq (h : Conduct w op r w' log) :
    w'.saved = (log.filterMap Workbench.listing?).getLast?.getD w.saved := by
  cases h with
  | saved _ _ listed =>
    rw [List.filterMap_append, List.filterMap_cons_none rfl, filterMap_newIdentities]
    exact saved_refreshed _ listed
  | fetched listed => exact saved_refreshed w listed
  | loaded =>
    rw [List.filterMap_cons_none rfl, filterMap_newIdentities]
    rfl
  | deleted _ _ listed =>
    rw [List.filterMap_cons_none rfl]
    cases listed <;> rfl
  | _ => rfl

theorem loaded_of_not_decides (h : Conduct w op r w' log) (hr : ¬ op.Decides r) :
    w'.loaded = w.loaded := by
  cases h with
  | reset | imported | saved | loaded => exact absurd trivial hr
  | deleted h => exact absurd h hr
  | _ => rfl

theorem loaded_of_decides (h : Conduct w op r w' log) (hr : op.Decides r) (id : StrategyId) :
    w'.loaded = some id ↔ ∃ saved, Deed.Keeps saved ⟨op, r, log⟩ ∧ saved.id = id := by
  cases h with
  | reset | imported | deleted =>
    constructor
    · intro h
      cases h
    · rintro ⟨saved, hkeeps, -⟩
      cases hkeeps
  | @saved _ _ saved _ _ _ _ =>
    constructor
    · intro h
      exact ⟨saved, .save List.mem_cons_self, Option.some.inj h⟩
    · rintro ⟨saved', hkeeps, rfl⟩
      cases hkeeps with
      | save hmem =>
        obtain hmem | hmem := List.mem_cons.mp hmem
        · cases hmem
          rfl
        · simp [newIdentities] at hmem
  | @loaded _ saved _ _ _ _ =>
    constructor
    · intro h
      exact ⟨saved, .load List.mem_cons_self, Option.some.inj h⟩
    · rintro ⟨saved', hkeeps, rfl⟩
      cases hkeeps with
      | load hmem =>
        obtain hmem | hmem := List.mem_cons.mp hmem
        · cases hmem
          rfl
        · simp [newIdentities] at hmem
  | deleteUnset h => exact absurd (h.symm.trans hr) Bool.false_ne_true
  | _ => cases hr

end Conduct

/-- A workbench, what was done with it, and the state of the surroundings. -/
structure Chronicle (σ : Type) where
  bench : Workbench
  deeds : List Deed
  state : σ

namespace Chronicle

variable {σ : Type} (answer : (q : Question) → σ → Answer q × σ)

def opened (s : σ) : Chronicle σ :=
  let c := Workbench.new.course answer s
  ⟨c.result, [], c.state⟩

def next (h : Chronicle σ) (op : Operation) : Chronicle σ :=
  let c := (op.carryOut h.bench).course answer h.state
  ⟨c.result.2, h.deeds ++ [⟨op, c.result.1, c.log⟩], c.state⟩

def of (s : σ) (ops : List Operation) : Chronicle σ :=
  ops.foldl (next answer) (opened answer s)

theorem of_append_singleton (s : σ) (ops : List Operation) (op : Operation) :
    of answer s (ops ++ [op]) = (of answer s ops).next answer op :=
  List.foldl_append ..

theorem bench_of (s : σ) (ops : List Operation) :
    (of answer s ops).bench = (Account.of answer s ops).bench ∧
      (of answer s ops).state = (Account.of answer s ops).state := by
  induction ops using List.reverseRecOn with
  | nil => exact ⟨rfl, rfl⟩
  | append_singleton ops op ih =>
    rw [of_append_singleton, Account.of_append_singleton, next, Account.next, ih.1, ih.2,
      Operation.act_eq_map_carryOut, Dialogue.course_map]
    exact ⟨rfl, rfl⟩

def listings (h : Chronicle σ) : List (List Listing) :=
  (h.deeds.flatMap Deed.log).filterMap Workbench.listing?

/-- The last deed after which it was known anew which saved strategy the draft belongs to. -/
def LastDecision (h : Chronicle σ) (d : Deed) : Prop :=
  ∃ before after, h.deeds = before ++ d :: after ∧ d.Decides ∧ ∀ d' ∈ after, ¬ d'.Decides

variable {answer}

theorem saved_next (h : Chronicle σ) (op : Operation)
    (hsaved : h.bench.saved = h.listings.getLast?.getD []) :
    (h.next answer op).bench.saved = (h.next answer op).listings.getLast?.getD [] := by
  have hop := (conduct answer h.bench op h.state).saved_eq
  have hlistings : (h.next answer op).listings = h.listings ++
      ((op.carryOut h.bench).course answer h.state).log.filterMap Workbench.listing? := by
    simp [next, listings]
  rw [hlistings, List.getLast?_append, Option.getD_or, ← hsaved]
  exact hop

theorem lastDecision_append {h k : Chronicle σ} {d : Deed} (hdeeds : k.deeds = h.deeds ++ [d])
    (d' : Deed) : k.LastDecision d' ↔
      d.Decides ∧ d' = d ∨ ¬ d.Decides ∧ h.LastDecision d' := by
  constructor
  · rintro ⟨before, after, hsplit, hd', hafter⟩
    rw [hdeeds] at hsplit
    obtain rfl | ⟨after, last, rfl⟩ := List.eq_nil_or_concat' after
    · obtain ⟨-, hlast⟩ := List.append_inj' hsplit rfl
      obtain rfl := List.singleton_inj.mp hlast
      exact .inl ⟨hd', rfl⟩
    · rw [← List.cons_append, ← List.append_assoc] at hsplit
      obtain ⟨hfirst, hlast⟩ := List.append_inj' hsplit rfl
      obtain rfl := List.singleton_inj.mp hlast
      rw [List.forall_mem_append, List.forall_mem_singleton] at hafter
      exact .inr ⟨hafter.2, before, after, hfirst, hd', hafter.1⟩
  · rintro (⟨hd, rfl⟩ | ⟨hd, before, after, hsplit, hd', hafter⟩)
    · exact ⟨h.deeds, [], hdeeds, hd, by simp⟩
    · refine ⟨before, after ++ [d], by simp [hdeeds, hsplit], hd', ?_⟩
      rw [List.forall_mem_append, List.forall_mem_singleton]
      exact ⟨hafter, hd⟩

theorem loaded_next (h : Chronicle σ) (op : Operation)
    (hloaded : ∀ id, h.bench.loaded = some id ↔
      ∃ d saved, h.LastDecision d ∧ d.Keeps saved ∧ saved.id = id) (id : StrategyId) :
    (h.next answer op).bench.loaded = some id ↔
      ∃ d saved, (h.next answer op).LastDecision d ∧ d.Keeps saved ∧ saved.id = id := by
  have hop := conduct answer h.bench op h.state
  have hlast := lastDecision_append (h := h) (k := h.next answer op) rfl
  by_cases hdecides : op.Decides ((op.carryOut h.bench).course answer h.state).result.1
  · rw [next, hop.loaded_of_decides hdecides]
    constructor
    · rintro ⟨saved, hkeeps, hid⟩
      exact ⟨_, saved, (hlast _).mpr (.inl ⟨hdecides, rfl⟩), hkeeps, hid⟩
    · rintro ⟨d, saved, hd, hkeeps, hid⟩
      obtain ⟨-, rfl⟩ | ⟨hnot, -⟩ := (hlast d).mp hd
      · exact ⟨saved, hkeeps, hid⟩
      · exact absurd hdecides hnot
  · rw [next, hop.loaded_of_not_decides hdecides, hloaded]
    constructor
    · rintro ⟨d, saved, hd, hkeeps⟩
      exact ⟨d, saved, (hlast d).mpr (.inr ⟨hdecides, hd⟩), hkeeps⟩
    · rintro ⟨d, saved, hd, hkeeps⟩
      obtain ⟨hnot, -⟩ | ⟨-, hd⟩ := (hlast d).mp hd
      · exact absurd hnot hdecides
      · exact ⟨d, saved, hd, hkeeps⟩

variable (answer) (s : σ) (ops : List Operation)

theorem map_op_of : (of answer s ops).deeds.map Deed.op = ops := by
  induction ops using List.reverseRecOn with
  | nil => rfl
  | append_singleton ops op ih =>
    rw [of_append_singleton, next, List.map_append, ih]
    rfl

theorem saved_of :
    (of answer s ops).bench.saved = (of answer s ops).listings.getLast?.getD [] := by
  induction ops using List.reverseRecOn with
  | nil => rfl
  | append_singleton ops op ih =>
    rw [of_append_singleton]
    exact saved_next _ op ih

theorem loaded_of (id : StrategyId) : (of answer s ops).bench.loaded = some id ↔
    ∃ d saved, (of answer s ops).LastDecision d ∧ d.Keeps saved ∧ saved.id = id := by
  induction ops using List.reverseRecOn generalizing id with
  | nil =>
    constructor
    · intro h
      cases h
    · rintro ⟨d, -, ⟨before, after, hdeeds, -⟩, -⟩
      exact absurd hdeeds.symm (List.append_ne_nil_of_right_ne_nil _ (List.cons_ne_nil _ _))
  | append_singleton ops op ih =>
    rw [of_append_singleton]
    exact loaded_next _ op ih id

/-- Through every run from a new workbench, at any store, the list of saved strategies is the one
that the store gave last. The draft belongs to a saved strategy exactly if the last save or load
that succeeded, reset, import that was accepted or delete of a set number was a save or a load, and
then to the one in the store's reply to it; nothing else that is done changes that. -/
theorem list_and_number_are_the_last_given (answer : (q : Question) → σ → Answer q × σ) (s : σ)
    (ops : List Operation) :
    let h := Chronicle.of answer s ops
    h.deeds.map Deed.op = ops ∧
      h.bench.saved = h.listings.getLast?.getD [] ∧
      (∀ id, h.bench.loaded = some id ↔
        ∃ d saved, h.LastDecision d ∧ d.Keeps saved ∧ saved.id = id) ∧
      ∀ op, (∀ d ∈ (h.next answer op).deeds.getLast?, ¬ d.Decides) →
        (h.next answer op).bench.loaded = h.bench.loaded := by
  refine ⟨map_op_of answer s ops, saved_of answer s ops, loaded_of answer s ops, fun op hnot ↦ ?_⟩
  refine (conduct answer _ op _).loaded_of_not_decides ?_
  exact hnot _ (List.getLast?_concat ..)

end Chronicle

end TradingRules
