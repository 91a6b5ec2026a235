import TradingRules.Proofs.Workbench.Scene

namespace TradingRules

open Workbench (Question Answer Session Refusal SaveReport DeleteReport errorOf)

namespace Operation

abbrev Reply : Operation → Type
  | .add | .addCrossing _ _ _ => String
  | .setExit _ | .importDraft _ => Except Violation Unit
  | .update _ _ => Except Violation Bool
  | .remove _ => Bool
  | .save _ => Except Refusal SaveReport
  | .fetch => Except StoreError Unit
  | .load _ => Option SavedStrategy
  | .delete _ => Except Refusal (Option DeleteReport)
  | _ => Unit

def checked (w : Workbench) : Except Violation Workbench → Except Violation Unit × Workbench
  | .ok w' => (.ok (), w')
  | .error v => (.error v, w)

def carryOut (w : Workbench) : (op : Operation) → Session (op.Reply × Workbench)
  | .setConnective c => return ((), w.setConnective c)
  | .setDirection d => return ((), w.setDirection d)
  | .setExit e => return checked w (w.setExit e)
  | .applyPreset p => return ((), w.applyPreset p)
  | .setExitKind k => return ((), w.setExitKind k)
  | .add => w.add .added
  | .addCrossing primary compare value => w.add (.crossing primary compare value)
  | .update id e => return match w.update id e with
    | .ok (some w') => (.ok true, w')
    | .ok none => (.ok false, w)
    | .error v => (.error v, w)
  | .remove id => return w.remove id
  | .reset => return ((), ← w.reset)
  | .importDraft st => return checked w (w.importDraft st)
  | .save name => w.save name
  | .fetch => w.fetch
  | .load id => w.load id
  | .delete id => w.delete id

theorem snd_checked (w : Workbench) (x : Except Violation Workbench) :
    (checked w x).2 = orKeep w x := by
  cases x <;> rfl

theorem act_eq_map_carryOut (w : Workbench) (op : Operation) :
    op.act w = Prod.snd <$> op.carryOut w := by
  cases op with
  | setExit e => exact congrArg pure (snd_checked w _).symm
  | importDraft st => exact congrArg pure (snd_checked w _).symm
  | update id e =>
    refine congrArg pure ?_
    cases w.update id e with
    | error v => rfl
    | ok w' => cases w' <;> rfl
  | _ => rfl

end Operation

namespace Workbench

abbrev Exchange := Dialogue.Exchange Question Answer

def newIdentities (ids : List String) : List Exchange :=
  ids.map fun id ↦ ⟨.newId, id⟩

def storeCalls (log : List Exchange) : List ((c : Call) × c.Result) :=
  log.filterMap fun
    | ⟨.call c, r⟩ => some ⟨c, r⟩
    | ⟨.newId, _⟩ => none

/-- The draft can be saved under a name as far as the workbench can tell. -/
structure Ready (w : Workbench) (name : String) : Prop where
  name_ne : Text.trim name ≠ ""
  conditions_ne : w.draft.conditions ≠ []
  notListed : w.hasName (Text.trim name) = false

def refreshed (w : Workbench) (listed : Except StoreError (List Listing)) : Workbench :=
  { w with saved := listed.toOption.getD w.saved }

def deleteReply (id : StrategyId) (listed : Except StoreError (List Listing)) :
    Except StoreError Unit → Except Refusal (Option DeleteReport)
  | .ok _ => .ok (some ⟨id, errorOf listed⟩)
  | .error e => .error (.store e)

end Workbench

open Workbench

/-- Everything that can come of an operation: what is replied, the workbench afterwards and what was
asked. -/
inductive Conduct (w : Workbench) :
    (op : Operation) → op.Reply → Workbench → List Exchange → Prop
  | setConnective (c : Connective) : Conduct w (.setConnective c) () (w.setConnective c) []
  | setDirection (d : Direction) : Conduct w (.setDirection d) () (w.setDirection d) []
  | setExit {e : Exit} (h : e.check = .ok ()) :
      Conduct w (.setExit e) (.ok ()) { w with draft.exit := e } []
  | setExitRefused {e : Exit} (v : Violation) : Conduct w (.setExit e) (.error v) w []
  | applyPreset (p : ExitPreset) : Conduct w (.applyPreset p) () (w.applyPreset p) []
  | setExitKind (k : ExitKind) : Conduct w (.setExitKind k) () (w.setExitKind k) []
  | add (id : String) : Conduct w .add id (w.push ⟨id, .added⟩) [⟨.newId, id⟩]
  | addCrossing (primary compare : Indicator) (value id : String) :
      Conduct w (.addCrossing primary compare value) id
        (w.push ⟨id, .crossing primary compare value⟩) [⟨.newId, id⟩]
  | updated {id : String} {e : Edit} {cs : List Condition}
      (h : editFirst id e w.draft.conditions = .ok (some cs)) :
      Conduct w (.update id e) (.ok true) { w with draft.conditions := cs } []
  | updateAbsent {id : String} {e : Edit} : Conduct w (.update id e) (.ok false) w []
  | updateRefused {id : String} {e : Edit} (v : Violation) :
      Conduct w (.update id e) (.error v) w []
  | remove (id : String) :
      Conduct w (.remove id) (w.remove id).1 (w.remove id).2 []
  | reset (id : String) :
      Conduct w .reset () { w with draft := .initial id, loaded := none } [⟨.newId, id⟩]
  | imported {st : Strategy} (h : checkImport st = .ok ()) :
      Conduct w (.importDraft st) (.ok ()) { w with draft := st, loaded := none } []
  | importRefused {st : Strategy} {v : Violation} (h : checkImport st = .error v) :
      Conduct w (.importDraft st) (.error v) w []
  | saveRefused {name : String} {refusal : Refusal} (h : refusal.isLocal) :
      Conduct w (.save name) (.error refusal) w []
  | saveFailed {name : String} (h : w.Ready name) (e : StoreError) :
      Conduct w (.save name) (.error (.store e)) w
        [⟨.call (.create (Text.trim name) w.draft), .error e⟩]
  | saved {name : String} (h : w.Ready name) {saved : SavedStrategy (Option String)}
      {ids : List String} {strategy : SavedStrategy} (hid : strategy.id = saved.id)
      (listed : Except StoreError (List Listing)) :
      Conduct w (.save name) (.ok ⟨strategy, errorOf listed⟩)
        ({ w with loaded := some saved.id }.refreshed listed)
        (⟨.call (.create (Text.trim name) w.draft), .ok saved⟩ :: newIdentities ids ++
          [⟨.call .list, listed⟩])
  | fetched (listed : Except StoreError (List Listing)) :
      Conduct w .fetch (listed.map fun _ ↦ ()) (w.refreshed listed) [⟨.call .list, listed⟩]
  | loaded {id : StrategyId} {saved : SavedStrategy (Option String)} {ids : List String}
      {strategy : SavedStrategy} (hid : strategy.id = saved.id)
      (hst : saved.strategy.IdentifiedAs ids strategy.strategy) :
      Conduct w (.load id) (some strategy)
        { w with draft := strategy.strategy, loaded := some saved.id }
        (⟨.call (.get id), .ok saved⟩ :: newIdentities ids)
  | loadFailed {id : StrategyId} (e : StoreError) :
      Conduct w (.load id) none w [⟨.call (.get id), .error e⟩]
  | deleteUnset {id : StrategyId} (h : id.isSet = false) : Conduct w (.delete id) (.ok none) w []
  | deleted {id : StrategyId} (h : id.isSet) (deleted : Except StoreError Unit)
      (listed : Except StoreError (List Listing)) (newId : String) :
      Conduct w (.delete id) (deleteReply id listed deleted)
        ({ w with draft := .initial newId, loaded := none }.refreshed listed)
        [⟨.call (.delete id), deleted⟩, ⟨.call .list, listed⟩, ⟨.newId, newId⟩]

namespace Workbench

variable {σ : Type} (answer : (q : Question) → σ → Answer q × σ)

theorem course_call (c : Call) (s : σ) : (call c).course answer s =
    ⟨(answer (.call c) s).1, [⟨.call c, (answer (.call c) s).1⟩], (answer (.call c) s).2⟩ := rfl

theorem course_newId (s : σ) : newId.course answer s =
    ⟨(answer .newId s).1, [⟨.newId, (answer .newId s).1⟩], (answer .newId s).2⟩ := rfl

theorem course_fetch (w : Workbench) (s : σ) :
    let listed := (answer (.call .list) s).1
    w.fetch.course answer s = ⟨(listed.map fun _ ↦ (), w.refreshed listed),
      [⟨.call .list, listed⟩], (answer (.call .list) s).2⟩ := by
  intro listed
  have h : listed = (answer (.call .list) s).1 := rfl
  unfold fetch
  rw [Dialogue.course_bind, course_call, ← h]
  cases listed <;> rfl

theorem course_reset (w : Workbench) (s : σ) :
    let id := (answer .newId s).1
    w.reset.course answer s =
      ⟨{ w with draft := .initial id, loaded := none }, [⟨.newId, id⟩], (answer .newId s).2⟩ := rfl

theorem course_identify_conditions (cs : List (Condition (Option String))) (s : σ) :
    let c := Dialogue.course answer (cs.mapM fun c ↦ c.identify newId) s
    ∃ ids, c.log = newIdentities ids ∧ Condition.Identified cs ids c.result := by
  induction cs generalizing s with
  | nil => exact ⟨[], rfl, .nil⟩
  | cons c cs ih =>
    obtain ⟨id, rule⟩ := c
    rw [List.mapM_cons, Dialogue.course_bind]
    cases id with
    | some id =>
      obtain ⟨ids, hlog, hresult⟩ := ih s
      refine ⟨ids, ?_, ?_⟩
      · simpa [Condition.identify] using hlog
      · simpa [Condition.identify] using hresult.given
    | none =>
      obtain ⟨ids, hlog, hresult⟩ := ih (answer .newId s).2
      refine ⟨(answer .newId s).1 :: ids, ?_, ?_⟩
      · simpa [Condition.identify, course_newId, newIdentities] using hlog
      · simpa [Condition.identify, course_newId] using hresult.new

theorem course_identify (saved : SavedStrategy (Option String)) (s : σ) :
    let c := Dialogue.course answer (saved.identify newId) s
    ∃ ids, c.log = newIdentities ids ∧ c.result.id = saved.id ∧
      saved.strategy.IdentifiedAs ids c.result.strategy := by
  obtain ⟨ids, hlog, hresult⟩ := course_identify_conditions answer saved.strategy.conditions s
  refine ⟨ids, ?_, ?_, ?_⟩
  · simpa [SavedStrategy.identify, Strategy.identify] using hlog
  · simp [SavedStrategy.identify]
  · simp only [SavedStrategy.identify, Strategy.identify, Dialogue.course_bind]
    exact ⟨hresult, rfl, rfl, rfl⟩

theorem errorOf_map {ε α β : Type} (f : α → β) (x : Except ε α) :
    errorOf (x.map f) = errorOf x := by
  cases x <;> rfl

theorem conduct_save (w : Workbench) (name : String) (s : σ) :
    let c := (w.save name).course answer s
    Conduct w (.save name) c.result.1 c.result.2 c.log := by
  unfold save
  dsimp only
  split
  · exact .saveRefused rfl
  next hready =>
  split
  · exact .saveRefused rfl
  next hlist =>
  have h : w.Ready name := by
    rw [not_or] at hready
    exact ⟨hready.1, hready.2, by simpa using hlist⟩
  rw [Dialogue.course_bind, course_call]
  generalize answer (.call (.create (Text.trim name) w.draft)) s = x
  obtain ⟨result, s₁⟩ := x
  cases result with
  | error e => exact .saveFailed h e
  | ok saved =>
    obtain ⟨ids, hlog, hid, -⟩ := course_identify answer saved s₁
    simp only [Dialogue.course_bind, course_fetch, hlog, hid, errorOf_map, Dialogue.course_pure,
      List.append_nil]
    exact .saved h hid _

theorem conduct_load (w : Workbench) (id : StrategyId) (s : σ) :
    let c := (w.load id).course answer s
    Conduct w (.load id) c.result.1 c.result.2 c.log := by
  unfold load
  rw [Dialogue.course_bind, course_call]
  generalize answer (.call (.get id)) s = x
  obtain ⟨result, s₁⟩ := x
  cases result with
  | error e => exact .loadFailed e
  | ok saved =>
    obtain ⟨ids, hlog, hid, hst⟩ := course_identify answer saved s₁
    simp only [Dialogue.course_bind, hlog, hid, Dialogue.course_pure, List.append_nil]
    exact .loaded hid hst

theorem conduct_delete (w : Workbench) (id : StrategyId) (s : σ) :
    let c := (w.delete id).course answer s
    Conduct w (.delete id) c.result.1 c.result.2 c.log := by
  unfold delete
  cases h : id.isSet with
  | false => exact .deleteUnset h
  | true =>
    simp only [Bool.not_true, Bool.false_eq_true, if_false]
    rw [Dialogue.course_bind, course_call]
    generalize answer (.call (.delete id)) s = x
    obtain ⟨result, s₁⟩ := x
    simp only [Dialogue.course_bind, course_fetch, course_reset, errorOf_map]
    cases result with
    | error e => exact .deleted h (.error e) _ _
    | ok u => exact .deleted h (.ok u) _ _

end Workbench

/-- Whatever a store answers, an operation does one of the things that can come of it. -/
theorem conduct {σ : Type} (answer : (q : Question) → σ → Answer q × σ) (w : Workbench)
    (op : Operation) (s : σ) :
    let c := (op.carryOut w).course answer s
    Conduct w op c.result.1 c.result.2 c.log := by
  cases op with
  | setConnective c => exact .setConnective c
  | setDirection d => exact .setDirection d
  | setExit e =>
    cases h : e.check with
    | error v => simpa [Operation.carryOut, setExit, h] using .setExitRefused v
    | ok u => simpa [Operation.carryOut, setExit, h] using .setExit h
  | applyPreset p => exact .applyPreset p
  | setExitKind k => exact .setExitKind k
  | add => exact .add _
  | addCrossing primary compare value => exact .addCrossing primary compare value _
  | update id e =>
    cases h : editFirst id e w.draft.conditions with
    | error v => simpa [Operation.carryOut, update, h] using .updateRefused v
    | ok cs =>
      cases cs with
      | none => simpa [Operation.carryOut, update, h] using .updateAbsent
      | some cs => simpa [Operation.carryOut, update, h] using .updated h
  | remove id => exact .remove id
  | reset => exact .reset _
  | importDraft st =>
    cases h : checkImport st with
    | error v => simpa [Operation.carryOut, importDraft, h] using .importRefused h
    | ok u => simpa [Operation.carryOut, importDraft, h] using .imported h
  | save name => exact conduct_save answer w name s
  | fetch =>
    rw [Operation.carryOut, course_fetch]
    exact .fetched _
  | load id => exact conduct_load answer w id s
  | delete id => exact conduct_delete answer w id s

end TradingRules
