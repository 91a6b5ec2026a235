import TradingRules.Proofs.Workbench.Conduct

namespace TradingRules

namespace Text

def Trimmed (s : String) : Prop :=
  (∀ c ∈ s.toList.head?, isBlank c = false) ∧ ∀ c ∈ s.toList.getLast?, isBlank c = false

theorem not_isBlank_head?_dropBlanks (cs : List Char) :
    ∀ c ∈ (dropBlanks cs).head?, isBlank c = false := by
  intro c hc
  have h := List.head?_dropWhile_not isBlank cs
  rwa [← dropBlanks, Option.mem_def.mp hc] at h

theorem dropBlanksEnd_prefix (cs : List Char) : dropBlanksEnd cs <+: cs := by
  rw [← List.reverse_suffix, dropBlanksEnd, List.reverse_reverse]
  exact List.dropWhile_suffix isBlank

theorem trimmed_trim (s : String) : Trimmed (trim s) := by
  rw [Trimmed, trim, String.toList_ofList]
  constructor
  · intro c hc
    obtain ⟨rest, hrest⟩ := dropBlanksEnd_prefix (dropBlanks s.toList)
    refine not_isBlank_head?_dropBlanks s.toList c ?_
    rw [← hrest, Option.mem_def, List.head?_append, Option.mem_def.mp hc]
    rfl
  · rw [dropBlanksEnd, List.getLast?_reverse]
    exact not_isBlank_head?_dropBlanks _

end Text

open Workbench (Question Answer Exchange newIdentities storeCalls errorOf deleteReply)

namespace Workbench

theorem mem_storeCalls {log : List Exchange} {c : Call} {r : c.Result} :
    ⟨c, r⟩ ∈ storeCalls log ↔ ⟨.call c, r⟩ ∈ log := by
  rw [storeCalls, List.mem_filterMap]
  constructor
  · rintro ⟨⟨q, r'⟩, he, heq⟩
    cases q with
    | call c' =>
      cases heq
      exact he
    | newId => cases heq
  · exact fun h ↦ ⟨_, h, rfl⟩

theorem storeCalls_newIdentities_append (ids : List String) (log : List Exchange) :
    storeCalls (newIdentities ids ++ log) = storeCalls log := by
  induction ids with
  | nil => rfl
  | cons id ids ih => exact ih

theorem storeCalls_newIdentities (ids : List String) : storeCalls (newIdentities ids) = [] := by
  simpa [storeCalls] using storeCalls_newIdentities_append ids []

end Workbench

namespace Operation

/-- The replies after which everything is meant to be as it was. -/
def Failed : (op : Operation) → op.Reply → Prop
  | .setExit _, .error _ | .importDraft _, .error _ | .update _ _, .error _ => True
  | .save _, .error _ | .fetch, .error _ | .load _, none => True
  | _, _ => False

/-- The calls that go with a reply, each with the store's answer. -/
def Calls (w : Workbench) :
    (op : Operation) → op.Reply → List ((c : Call) × c.Result) → Prop
  | .save name, .error refusal, calls =>
    (refusal.isLocal ∧ calls = []) ∨
      ∃ e, refusal = .store e ∧ calls = [⟨.create (Text.trim name) w.draft, .error e⟩]
  | .save name, .ok report, calls =>
    ∃ saved listed, report.strategy.id = saved.id ∧ report.refreshError = errorOf listed ∧
      calls = [⟨.create (Text.trim name) w.draft, .ok saved⟩, ⟨.list, listed⟩]
  | .fetch, reply, calls =>
    ∃ listed, reply = listed.map (fun _ ↦ ()) ∧ calls = [⟨.list, listed⟩]
  | .load id, none, calls => ∃ e, calls = [⟨.get id, .error e⟩]
  | .load id, some strategy, calls =>
    ∃ saved, strategy.id = saved.id ∧ calls = [⟨.get id, .ok saved⟩]
  | .delete id, reply, calls =>
    (id.isSet = false ∧ reply = .ok none ∧ calls = []) ∨
      (id.isSet ∧ ∃ deleted listed, reply = deleteReply id listed deleted ∧
        calls = [⟨.delete id, deleted⟩, ⟨.list, listed⟩])
  | _, _, calls => calls = []

end Operation

namespace Conduct

variable {w w' : Workbench} {op : Operation} {r : op.Reply} {log : List Exchange}

theorem eq_of_failed (h : Conduct w op r w' log) (hr : op.Failed r) : w' = w := by
  cases h with
  | fetched listed =>
    cases listed with
    | error e => rfl
    | ok ls => exact absurd hr not_false
  | deleteUnset | deleted => exact absurd hr not_false
  | setExitRefused | updateRefused | importRefused | saveRefused | saveFailed | loadFailed => rfl
  | setConnective | setDirection | setExit | applyPreset | setExitKind | add | addCrossing
  | updated | updateAbsent | remove | reset | imported | saved | loaded => exact absurd hr not_false

theorem calls (h : Conduct w op r w' log) : op.Calls w r (storeCalls log) := by
  cases h with
  | saveRefused h => exact .inl ⟨h, rfl⟩
  | saveFailed _ e => exact .inr ⟨e, rfl, rfl⟩
  | saved _ hid listed =>
    refine ⟨_, listed, hid, rfl, ?_⟩
    exact congrArg (List.cons _) (Workbench.storeCalls_newIdentities_append _ _)
  | fetched listed => exact ⟨listed, rfl, rfl⟩
  | loaded hid =>
    refine ⟨_, hid, ?_⟩
    exact congrArg (List.cons _) (Workbench.storeCalls_newIdentities _)
  | loadFailed e => exact ⟨e, rfl⟩
  | deleteUnset h => exact .inl ⟨h, rfl, rfl⟩
  | deleted h deleted listed => exact .inr ⟨h, deleted, listed, rfl, rfl⟩
  | _ => rfl

theorem ready_of_mem (h : Conduct w op r w' log) {name : String} {st : Strategy}
    {result : Call.Result (.create name st)} (hmem : ⟨.create name st, result⟩ ∈ storeCalls log) :
    ∃ name', w.Ready name' ∧ name = Text.trim name' ∧ st = w.draft := by
  rw [Workbench.mem_storeCalls] at hmem
  cases h with
  | saveFailed hready e =>
    cases List.mem_singleton.mp hmem
    exact ⟨_, hready, rfl, rfl⟩
  | saved hready =>
    obtain hmem | hmem := List.mem_cons.mp hmem
    · cases hmem
      exact ⟨_, hready, rfl, rfl⟩
    · simp [newIdentities] at hmem
  | _ => simp [newIdentities] at hmem

theorem draft_of_save {name : String} {r : Except Workbench.Refusal Workbench.SaveReport}
    (h : Conduct w (.save name) r w' log) : w'.draft = w.draft := by
  cases h <;> rfl

theorem begun_of_delete {id : StrategyId} (hid : id.isSet)
    {r : Except Workbench.Refusal (Option Workbench.DeleteReport)}
    (h : Conduct w (.delete id) r w' log) :
    w'.loaded = none ∧ ∃ newId, ⟨.newId, newId⟩ ∈ log ∧ w'.draft = .initial newId := by
  cases h with
  | deleteUnset h => exact absurd (h.symm.trans hid) Bool.false_ne_true
  | deleted _ _ _ newId => exact ⟨rfl, newId, by simp, rfl⟩

end Conduct

/-- Whatever a store answers, an operation that failed has changed nothing. The store is asked for
what goes with the reply and for nothing else; only a draft with conditions is sent to it, under a
name without blanks around it. To save keeps the draft, and to delete begins a new one. -/
theorem operations_at_any_store {σ : Type} (answer : (q : Question) → σ → Answer q × σ)
    (w : Workbench) (op : Operation) (s : σ) :
    let c := (op.carryOut w).course answer s
    (op.Failed c.result.1 → c.result.2 = w) ∧
      op.Calls w c.result.1 (storeCalls c.log) ∧
      (∀ name st result, ⟨.create name st, result⟩ ∈ storeCalls c.log →
        name ≠ "" ∧ Text.Trimmed name ∧ st = w.draft ∧ st.conditions ≠ []) ∧
      (∀ name, op = .save name → c.result.2.draft = w.draft) ∧
      ∀ id, op = .delete id → id.isSet → c.result.2.loaded = none ∧
        ∃ newId, ⟨.newId, newId⟩ ∈ c.log ∧ c.result.2.draft = .initial newId := by
  intro c
  have h : Conduct w op c.result.1 c.result.2 c.log := conduct answer w op s
  refine ⟨h.eq_of_failed, h.calls, ?_, ?_, ?_⟩
  · intro name st result hmem
    obtain ⟨name', hready, rfl, rfl⟩ := h.ready_of_mem hmem
    exact ⟨hready.name_ne, Text.trimmed_trim name', rfl, hready.conditions_ne⟩
  · rintro name rfl
    exact h.draft_of_save
  · rintro id rfl hid
    exact h.begun_of_delete hid

theorem failed_delete_begins_a_draft :
    let answer : (q : Question) → Unit → Answer q × Unit
      | .call c, _ => (c.fail .storage, ())
      | .newId, _ => ("b", ())
    let w : Workbench := ⟨⟨[], .or, .short, .manual⟩, [⟨⟨4⟩, "Dip"⟩], some ⟨4⟩⟩
    let c := ((Operation.delete ⟨4⟩).carryOut w).course answer ()
    c.result = (.error (.store .storage), ⟨.initial "b", [⟨⟨4⟩, "Dip"⟩], none⟩) ∧
      (∃ newId, ⟨.newId, newId⟩ ∈ c.log ∧ c.result.2.draft = .initial newId) := by
  intro answer w c
  obtain ⟨-, -, -, -, h⟩ := operations_at_any_store answer w (.delete ⟨4⟩) ()
  exact ⟨rfl, (h ⟨4⟩ rfl rfl).2⟩

end TradingRules
