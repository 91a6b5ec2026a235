import TradingRules.Condition.Crosses
import TradingRules.Proofs.Document.Written
import TradingRules.Proofs.Store.Table
import TradingRules.Proofs.Strategy.Identities
import TradingRules.Workbench

namespace TradingRules

structure Visit where
  owner : String
  now : Instant
  call : Call
  deriving DecidableEq

/-- What comes with a question of the workbench: the calls from elsewhere that are answered before
it, the time and an identity for the answer. -/
structure Moment where
  visits : List Visit
  now : Instant
  newId : String

structure Scene where
  owner : String
  moments : Nat → Moment

/-- The table a workbench works with, and how many of its questions were answered. -/
structure Desk where
  table : Table
  asked : Nat

inductive Operation
  | setConnective (c : Connective)
  | setDirection (d : Direction)
  | setExit (e : Exit)
  | applyPreset (p : ExitPreset)
  | setExitKind (k : ExitKind)
  | add
  | addCrossing (primary compare : Indicator) (value : String)
  | update (id : String) (e : Edit)
  | remove (id : String)
  | reset
  | importDraft (s : Strategy)
  | save (name : String)
  | fetch
  | load (id : StrategyId)
  | delete (id : StrategyId)
  deriving DecidableEq

namespace Operation

open Workbench (Session)

def NulFree : Operation → Prop
  | .save name => Text.NulFree name
  | _ => True

def orKeep (w : Workbench) : Except Violation Workbench → Workbench
  | .ok w' => w'
  | .error _ => w

def act (w : Workbench) : Operation → Session Workbench
  | .setConnective c => return w.setConnective c
  | .setDirection d => return w.setDirection d
  | .setExit e => return orKeep w (w.setExit e)
  | .applyPreset p => return w.applyPreset p
  | .setExitKind k => return w.setExitKind k
  | .add => return (← w.add .added).2
  | .addCrossing primary compare value => return (← w.add (.crossing primary compare value)).2
  | .update id e => return orKeep w ((w.update id e).map (·.getD w))
  | .remove id => return (w.remove id).2
  | .reset => w.reset
  | .importDraft s => return orKeep w (w.importDraft s)
  | .save name => return (← w.save name).2
  | .fetch => return (← w.fetch).2
  | .load id => return (← w.load id).2
  | .delete id => return (← w.delete id).2

end Operation

theorem Operation.orKeep_keeps {P : Workbench → Prop} {w : Workbench}
    {x : Except Violation Workbench} (hw : P w) (hx : ∀ w', x = .ok w' → P w') :
    P (orKeep w x) := by
  cases x with
  | error v => exact hw
  | ok w' => exact hx w' rfl

namespace Workbench

theorem eq_of_setExit {w w' : Workbench} {e : Exit} (h : w.setExit e = .ok w') :
    e.check = .ok () ∧ w' = { w with draft.exit := e } := by
  obtain ⟨u, hu, h⟩ := bind_eq_ok_iff.mp h
  exact ⟨hu, (Except.ok.inj h).symm⟩

theorem eq_of_importDraft {w w' : Workbench} {st : Strategy} (h : w.importDraft st = .ok w') :
    st.exit.check = .ok () ∧ w' = { w with draft := st, loaded := none } := by
  obtain ⟨u, hu, h⟩ := bind_eq_ok_iff.mp h
  obtain ⟨v, -, hcheck⟩ := bind_eq_ok_iff.mp hu
  exact ⟨hcheck, (Except.ok.inj h).symm⟩

theorem eq_of_update {w w' : Workbench} {id : String} {e : Edit}
    (h : (w.update id e).map (·.getD w) = .ok w') :
    w' = w ∨ ∃ cs, editFirst id e w.draft.conditions = .ok (some cs) ∧
      w' = { w with draft.conditions := cs } := by
  obtain ⟨x, hx, hw'⟩ : ∃ x, w.update id e = .ok x ∧ x.getD w = w' := by
    cases hx : w.update id e with
    | error v => simp [hx, Except.map] at h
    | ok x => exact ⟨x, rfl, by simpa [hx, Except.map] using h⟩
  obtain ⟨cs, hcs, h⟩ := bind_eq_ok_iff.mp hx
  cases cs with
  | none => exact .inl (by rw [← hw', ← Except.ok.inj h]; rfl)
  | some cs => exact .inr ⟨cs, hcs, by rw [← hw', ← Except.ok.inj h]; rfl⟩

theorem exists_of_editFirst {id : String} {e : Edit} {cs cs' : List Condition}
    (h : editFirst id e cs = .ok (some cs')) :
    ∃ before c after c', cs = before ++ c :: after ∧ cs' = before ++ c' :: after ∧
      (∀ b ∈ before, b.id ≠ id) ∧ c.id = id ∧ c.edit e = .ok c' := by
  induction cs generalizing cs' with
  | nil => cases h
  | cons c cs ih =>
    rw [editFirst] at h
    split at h
    · next hid =>
      obtain ⟨c', hc', h⟩ := bind_eq_ok_iff.mp h
      obtain rfl := Option.some.inj (Except.ok.inj h)
      exact ⟨[], c, cs, c', rfl, rfl, by simp, hid, hc'⟩
    · next hid =>
      obtain ⟨rest, hrest, h⟩ := bind_eq_ok_iff.mp h
      obtain ⟨cs'', rfl, rfl⟩ := Option.map_eq_some_iff.mp (Except.ok.inj h)
      obtain ⟨before, d, after, d', rfl, rfl, hbefore, hd⟩ := ih hrest
      exact ⟨c :: before, d, after, d', rfl, rfl, List.forall_mem_cons.mpr ⟨hid, hbefore⟩, hd⟩

end Workbench

namespace Table

def visited (t : Table) (vs : List Visit) : Table :=
  vs.foldl (fun t v ↦ (t.answer v.owner v.now v.call).2) t

theorem visited_keeps {I : Table → Prop} {vs : List Visit}
    (h : ∀ v ∈ vs, ∀ t, I t → I (t.answer v.owner v.now v.call).2) {t : Table} (ht : I t) :
    I (t.visited vs) :=
  List.foldlRecOn vs _ ht fun t ht v hv ↦ h v hv t ht

end Table

namespace Scene

open Workbench

variable (s : Scene)

def tableAt (d : Desk) : Table :=
  d.table.visited (s.moments d.asked).visits

def answer : (q : Question) → Desk → Answer q × Desk
  | .call c, d =>
    let (result, t) := (s.tableAt d).answer s.owner (s.moments d.asked).now c
    (result, ⟨t, d.asked + 1⟩)
  | .newId, d => ((s.moments d.asked).newId, ⟨s.tableAt d, d.asked + 1⟩)

def perform {α : Type} (p : Session α) (d : Desk) : α × Desk :=
  Dialogue.perform s.answer p d

def run (ops : List Operation) (x : Workbench × Desk) : Workbench × Desk :=
  ops.foldl (fun x op ↦ s.perform (op.act x.1) x.2) x

variable {s}

@[simp] theorem perform_pure {α : Type} (a : α) (d : Desk) : s.perform (pure a) d = (a, d) := rfl

@[simp] theorem perform_bind {α β : Type} (p : Session α) (f : α → Session β) (d : Desk) :
    s.perform (p >>= f) d = s.perform (f (s.perform p d).1) (s.perform p d).2 :=
  Dialogue.perform_bind s.answer p f d

@[simp] theorem perform_map {α β : Type} (f : α → β) (p : Session α) (d : Desk) :
    s.perform (f <$> p) d = (f (s.perform p d).1, (s.perform p d).2) :=
  Dialogue.perform_map s.answer f p d

theorem perform_call (c : Call) (d : Desk) :
    s.perform (call c) d = (((s.tableAt d).answer s.owner (s.moments d.asked).now c).1,
      ⟨((s.tableAt d).answer s.owner (s.moments d.asked).now c).2, d.asked + 1⟩) := rfl

@[simp] theorem perform_newId (d : Desk) :
    s.perform newId d = ((s.moments d.asked).newId, ⟨s.tableAt d, d.asked + 1⟩) := rfl

theorem perform_fetch {w : Workbench} {d : Desk} : s.perform w.fetch d =
    ((.ok (), { w with saved := ((s.tableAt d).of s.owner).map (·.listing) }),
      ⟨s.tableAt d, d.asked + 1⟩) := by
  unfold fetch
  rw [perform_bind, perform_call]
  rfl

theorem perform_reset {w : Workbench} {d : Desk} : s.perform w.reset d =
    ({ w with draft := .initial (s.moments d.asked).newId, loaded := none },
      ⟨s.tableAt d, d.asked + 1⟩) := by
  simp [reset]

theorem perform_save {w : Workbench} {d : Desk} {name : String}
    (hready : ¬ (Text.trim name = "" ∨ w.draft.conditions = []))
    (hlist : w.hasName (Text.trim name) = false)
    (htable : (s.tableAt d).hasName s.owner (Text.trim name) = false) :
    let t := s.tableAt d
    let now := (s.moments d.asked).now
    let d' : Desk :=
      ⟨⟨t.rows ++ [t.next s.owner now (Text.trim name) w.draft], t.lastId + 1⟩, d.asked + 1⟩
    let id : StrategyId := ⟨(t.lastId + 1 : Nat)⟩
    s.perform (w.save name) d =
      ((.ok ⟨⟨id, Text.trim name, w.draft, some now, some now⟩, none⟩,
        { w with loaded := some id, saved := ((s.tableAt d').of s.owner).map (·.listing) }),
        ⟨s.tableAt d', d'.asked + 1⟩) := by
  intro t now d' id
  unfold save
  simp only [hready, hlist, if_false, Bool.false_eq_true]
  rw [perform_bind, perform_call, Table.answer_create htable]
  simp [SavedStrategy.identify, Strategy.identify_stored, perform_fetch, errorOf, t, now, d', id]

theorem save_eq_of_hasName {w : Workbench} {name : String}
    (hready : ¬ (Text.trim name = "" ∨ w.draft.conditions = []))
    (h : w.hasName (Text.trim name)) :
    w.save name = pure (.error (.duplicateName (Text.trim name)), w) := by
  unfold save
  simp only [hready, h, if_false, if_true]

theorem perform_save_cases (w : Workbench) (d : Desk) (name : String) :
    (∃ refusal : Refusal, refusal.isLocal ∧
      s.perform (w.save name) d = ((.error refusal, w), d)) ∨
    (w.hasName (Text.trim name) = false ∧ (s.tableAt d).hasName s.owner (Text.trim name) ∧
      ∃ message, s.perform (w.save name) d =
        ((.error (.store (.conflict message)), w), ⟨s.tableAt d, d.asked + 1⟩)) ∨
    (¬ (Text.trim name = "" ∨ w.draft.conditions = []) ∧ w.hasName (Text.trim name) = false ∧
      (s.tableAt d).hasName s.owner (Text.trim name) = false) := by
  by_cases hready : Text.trim name = "" ∨ w.draft.conditions = []
  · refine .inl ⟨.violation .missingNameOrConditions, rfl, ?_⟩
    unfold save
    simp [hready]
  cases hlist : w.hasName (Text.trim name) with
  | true =>
    exact .inl ⟨.duplicateName (Text.trim name), rfl, by rw [save_eq_of_hasName hready hlist]; rfl⟩
  | false =>
    cases htable : (s.tableAt d).hasName s.owner (Text.trim name) with
    | false => exact .inr (.inr ⟨hready, rfl, rfl⟩)
    | true =>
      refine .inr (.inl ⟨rfl, rfl, Table.answer.conflictMessage (Text.trim name), ?_⟩)
      unfold save
      simp only [hready, hlist, if_false, Bool.false_eq_true]
      rw [perform_bind, perform_call, Table.answer_create_of_hasName htable]
      rfl

theorem perform_load {w : Workbench} {d : Desk} {id : StrategyId} {r : Row}
    {saved : SavedStrategy (Option String)} (hr : (s.tableAt d).find? s.owner id = some r)
    (hsaved : r.saved = .ok saved) :
    let x := s.perform (saved.identify newId) ⟨s.tableAt d, d.asked + 1⟩
    s.perform (w.load id) d =
      ((some x.1, { w with draft := x.1.strategy, loaded := some x.1.id }), x.2) := by
  intro x
  have hanswer : ∀ now, (s.tableAt d).answer s.owner now (.get id) = (.ok saved, s.tableAt d) := by
    simp [Table.answer, hr, hsaved]
  unfold load
  rw [perform_bind, perform_call, hanswer]
  simp [x]

theorem perform_load_cases (w : Workbench) (d : Desk) (id : StrategyId) :
    s.perform (w.load id) d = ((none, w), ⟨s.tableAt d, d.asked + 1⟩) ∨
    ∃ r saved, (s.tableAt d).find? s.owner id = some r ∧ r.saved = .ok saved := by
  cases hr : (s.tableAt d).find? s.owner id with
  | none =>
    have hanswer : ∀ now, (s.tableAt d).answer s.owner now (.get id) =
        (.error (.notFound id), s.tableAt d) := by
      simp [Table.answer, hr]
    refine .inl ?_
    unfold load
    rw [perform_bind, perform_call, hanswer]
    rfl
  | some r =>
    cases hsaved : r.saved with
    | ok saved => exact .inr ⟨r, saved, rfl, hsaved⟩
    | error e =>
      have hanswer : ∀ now, (s.tableAt d).answer s.owner now (.get id) =
          (.error e, s.tableAt d) := by
        simp [Table.answer, hr, hsaved]
      refine .inl ?_
      unfold load
      rw [perform_bind, perform_call, hanswer]
      rfl

theorem perform_delete_of_not_isSet {w : Workbench} {d : Desk} {id : StrategyId}
    (h : id.isSet = false) : s.perform (w.delete id) d = ((.ok none, w), d) := by
  unfold delete
  simp [h]

/-- After a delete, whether or not it succeeded, the list is asked for and the draft begun anew. -/
theorem perform_delete {w : Workbench} {d : Desk} {id : StrategyId} (h : id.isSet) :
    let d₁ : Desk :=
      ⟨((s.tableAt d).answer s.owner (s.moments d.asked).now (.delete id)).2, d.asked + 1⟩
    let d₂ : Desk := ⟨s.tableAt d₁, d₁.asked + 1⟩
    (s.perform (w.delete id) d).1.2 = ⟨.initial (s.moments d₂.asked).newId,
        ((s.tableAt d₁).of s.owner).map (·.listing), none⟩ ∧
      (s.perform (w.delete id) d).2 = ⟨s.tableAt d₂, d₂.asked + 1⟩ := by
  intro d₁ d₂
  unfold delete
  simp only [h, Bool.not_true, Bool.false_eq_true, if_false]
  rw [perform_bind, perform_call, perform_bind, perform_fetch, perform_bind, perform_reset]
  dsimp only
  split <;> exact ⟨rfl, rfl⟩

/-- An invariant of the operations holds through every run of them. -/
theorem run_keeps {I : Workbench → Desk → Prop} {ops : List Operation}
    (h : ∀ op ∈ ops, ∀ w d, I w d → I (s.perform (op.act w) d).1 (s.perform (op.act w) d).2)
    {x : Workbench × Desk} (hx : I x.1 x.2) : I (s.run ops x).1 (s.run ops x).2 := by
  induction ops generalizing x with
  | nil => exact hx
  | cons op ops ih => exact ih (fun op hop ↦ h op (by simp [hop])) (h op (by simp) _ _ hx)

end Scene

end TradingRules
