import TradingRules.Proofs.Strategy.Limits
import TradingRules.Proofs.Workbench.Account

namespace TradingRules

open Workbench (Question Answer Exchange)

namespace Workbench

variable {w : Workbench}

theorem inRange_push (h : w.draft.InRange) {c : Condition} (hc : c.rule.InRange) :
    (w.push c).draft.InRange where
  rules := by
    intro c' hc'
    rcases List.mem_append.mp hc' with hc' | hc'
    · exact h.rules c' hc'
    · exact List.mem_singleton.mp hc' ▸ hc
  exit := h.exit

theorem inRange_editFirst {id : String} {e : Edit} {cs cs' : List Condition}
    (hcs : ∀ c ∈ cs, c.rule.InRange) (h : editFirst id e cs = .ok (some cs')) :
    ∀ c ∈ cs', c.rule.InRange := by
  obtain ⟨before, c, after, c', rfl, rfl, -, -, hc'⟩ := exists_of_editFirst h
  rw [List.forall_mem_append, List.forall_mem_cons] at hcs ⊢
  exact ⟨hcs.1, Condition.inRange_edit hcs.2.1 hc', hcs.2.2⟩

theorem inRange_of_checkImport {st : Strategy} (h : checkImport st = .ok ()) : st.InRange := by
  obtain ⟨_, hseries, hexit⟩ := bind_eq_ok_iff.mp h
  exact ⟨fun c hc ↦ .of_checkSeries (forM_eq_ok_iff.mp hseries c hc), hexit⟩

end Workbench

theorem Conduct.inRange {w w' : Workbench} {op : Operation} {r : op.Reply} {log : List Exchange}
    (h : Conduct w op r w' log) (hlog : ∀ saved ∈ (log.map .asked).filterMap Note.given?,
      saved.strategy.InRange) (hw : w.draft.InRange) : w'.draft.InRange := by
  cases h with
  | setConnective | setDirection => exact ⟨hw.rules, hw.exit⟩
  | setExit h => exact ⟨hw.rules, h⟩
  | applyPreset p => exact ⟨hw.rules, Exit.check_preset p⟩
  | setExitKind k => exact ⟨hw.rules, Exit.check_withKind hw.exit k⟩
  | add => exact Workbench.inRange_push hw (Rule.inRange_ofOperator _ _ _)
  | addCrossing => exact Workbench.inRange_push hw (Rule.inRange_crossing _ _ _)
  | updated h => exact ⟨Workbench.inRange_editFirst hw.rules h, hw.exit⟩
  | remove => exact ⟨fun c hc ↦ hw.rules c (List.mem_filter.mp hc).1, hw.exit⟩
  | reset | deleted => exact Strategy.inRange_initial _
  | imported h => exact Workbench.inRange_of_checkImport h
  | loaded _ hst => exact (hlog _ List.mem_cons_self).identifiedAs hst
  | setExitRefused | updateAbsent | updateRefused | importRefused | saveRefused | saveFailed
  | saved | fetched | loadFailed | deleteUnset => exact hw

namespace Account

variable {σ : Type} (answer : (q : Question) → σ → Answer q × σ)

/-- Whatever operations are carried out with a new workbench, at a store that may answer as it
likes, at every point both series of all conditions of the draft are within the limits and its exit
passes the check. Only what the store gives back to be loaded has to be within the limits too. -/
theorem drafts_stay_in_range (s : σ) {ops : List Operation}
    (hgiven : ∀ saved ∈ (of answer s ops).notes.filterMap Note.given?, saved.strategy.InRange)
    {before : List Operation} (hbefore : before <+: ops) :
    (of answer s before).bench.draft.InRange := by
  have hprefix := (notes_mono answer hbefore s).subset
  refine of_keeps (I := fun w notes ↦ notes ⊆ (of answer s ops).notes → w.draft.InRange)
    ?_ ?_ s before hprefix
  · intro id _
    exact Strategy.inRange_initial id
  · intro w w' op r log notes h ih hnotes
    obtain ⟨hold, hnew⟩ := List.append_subset.mp hnotes
    refine h.inRange (fun saved hsaved ↦ hgiven saved ?_) (ih hold)
    exact List.filterMap_subset _ (List.subset_of_cons_subset hnew) hsaved

theorem drafts_stay_in_range_of_edits :
    let rule : Rule := .crossing .sma .ema ""
    let saved : SavedStrategy (Option String) :=
      ⟨⟨1⟩, "Gap", ⟨[⟨some "a", rule⟩, ⟨none, rule⟩], .or, .short, .timeBased 3 .days⟩, none, none⟩
    let answer : (q : Question) → Nat → Answer q × Nat
      | .call (.get _), n => (.ok saved, n + 1)
      | .call c, n => (c.fail .storage, n + 1)
      | .newId, n => ("#" ++ toString n, n + 1)
    let ops : List Operation := [.applyPreset .trailingStop5, .setExitKind .profitTarget,
      .load ⟨1⟩, .update "a" (.parameter .compare "period" 200),
      .update "a" (.parameter .primary "period" 201),
      .importDraft ⟨[⟨"b", ⟨.sma 0, .lessThan, "3", none, none⟩⟩], .and, .long, .manual⟩]
    (∀ saved ∈ (of answer 0 ops).notes.filterMap Note.given?, saved.strategy.InRange) ∧
      (of answer 0 ops).bench.draft.conditions =
        [⟨"a", { rule with compareSeries := some (.ema 200) }⟩, ⟨"#2", rule⟩] ∧
      (of answer 0 ops).bench.draft.InRange := by
  intro rule saved answer ops
  have hrule : rule.InRange := Rule.inRange_crossing _ _ _
  have hsaved : (of answer 0 ops).notes.filterMap Note.given? = [saved] := rfl
  have hgiven : ∀ saved ∈ (of answer 0 ops).notes.filterMap Note.given?,
      saved.strategy.InRange := by
    rw [hsaved, List.forall_mem_singleton]
    refine ⟨?_, rfl⟩
    rw [List.forall_mem_cons, List.forall_mem_singleton]
    exact ⟨hrule, hrule⟩
  exact ⟨hgiven, by decide +kernel, drafts_stay_in_range answer 0 hgiven List.prefix_rfl⟩

end Account

end TradingRules
