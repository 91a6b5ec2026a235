import TradingRules.Proofs.Dialogue
import TradingRules.Strategy.Basic

namespace TradingRules

theorem Condition.identify_stored {m : Type → Type} [Monad m] (newId : m String) (c : Condition) :
    c.stored.identify newId = pure c := rfl

theorem Strategy.identify_stored {m : Type → Type} [Monad m] [LawfulMonad m] (newId : m String)
    (st : Strategy) : st.stored.identify newId = pure st := by
  have h : (st.conditions.map (·.stored)).mapM (·.identify newId) = pure st.conditions := by
    induction st.conditions with
    | nil => rfl
    | cons c cs ih =>
      rw [List.map_cons, List.mapM_cons, ih, c.identify_stored]
      simp
  simp [identify, stored, h]

def Strategy.identities (st : Strategy) : List String :=
  st.conditions.map (·.id)

def Strategy.givenIdentities (st : Strategy (Option String)) : List String :=
  st.conditions.filterMap (·.id)

/-- Conditions from a document, the new identities asked for, in turn, and the conditions with
them. -/
inductive Condition.Identified :
    List (Condition (Option String)) → List String → List Condition → Prop
  | nil : Identified [] [] []
  | given {id : String} {rule : Rule} {cs : List (Condition (Option String))} {ids : List String}
      {cs' : List Condition} (h : Identified cs ids cs') :
      Identified (⟨some id, rule⟩ :: cs) ids (⟨id, rule⟩ :: cs')
  | new {id : String} {rule : Rule} {cs : List (Condition (Option String))} {ids : List String}
      {cs' : List Condition} (h : Identified cs ids cs') :
      Identified (⟨none, rule⟩ :: cs) (id :: ids) (⟨id, rule⟩ :: cs')

namespace Condition.Identified

variable {cs : List (Condition (Option String))} {ids : List String} {cs' : List Condition}

theorem map_rule (h : Identified cs ids cs') : cs'.map (·.rule) = cs.map (·.rule) := by
  induction h with
  | nil => rfl
  | given _ ih => exact congrArg _ ih
  | new _ ih => exact congrArg _ ih

theorem perm (h : Identified cs ids cs') :
    (cs'.map (·.id)).Perm (cs.filterMap (·.id) ++ ids) := by
  induction h with
  | nil => exact .nil
  | given _ ih => exact ih.cons _
  | new _ ih => exact (ih.cons _).trans List.perm_middle.symm

end Condition.Identified

/-- A strategy from a document and the same one with all its identities. -/
structure Strategy.IdentifiedAs (st : Strategy (Option String)) (ids : List String)
    (st' : Strategy) : Prop where
  conditions : Condition.Identified st.conditions ids st'.conditions
  connective : st'.connective = st.connective
  direction : st'.direction = st.direction
  exit : st'.exit = st.exit

theorem Strategy.IdentifiedAs.perm {st : Strategy (Option String)} {ids : List String}
    {st' : Strategy} (h : st.IdentifiedAs ids st') :
    st'.identities.Perm (st.givenIdentities ++ ids) :=
  h.conditions.perm

structure SavedStrategy.IdentifiedAs (saved : SavedStrategy (Option String)) (ids : List String)
    (saved' : SavedStrategy) : Prop where
  id : saved'.id = saved.id
  name : saved'.name = saved.name
  strategy : saved.strategy.IdentifiedAs ids saved'.strategy
  createdAt : saved'.createdAt = saved.createdAt
  updatedAt : saved'.updatedAt = saved.updatedAt

variable {Q : Type} {A : Q → Type} {newId : Dialogue Q A String}

section Asks

variable {kind : Q → Prop} (hnewId : newId.Asks kind)

include hnewId

theorem Condition.asks_identify (c : Condition (Option String)) :
    (c.identify newId).Asks kind := by
  obtain ⟨id, rule⟩ := c
  cases id with
  | none => exact Dialogue.asks_bind hnewId fun _ ↦ Dialogue.asks_pure _
  | some id => exact Dialogue.asks_pure _

theorem Strategy.asks_identify (st : Strategy (Option String)) :
    (st.identify newId).Asks kind :=
  Dialogue.asks_bind (Dialogue.asks_mapM (Condition.asks_identify hnewId) _)
    fun _ ↦ Dialogue.asks_pure _

theorem SavedStrategy.asks_identify (saved : SavedStrategy (Option String)) :
    (saved.identify newId).Asks kind :=
  Dialogue.asks_bind (Strategy.asks_identify hnewId saved.strategy) fun _ ↦ Dialogue.asks_pure _

end Asks

section Perform

variable {σ : Type} {answer : (q : Q) → σ → A q × σ}

theorem Strategy.exists_identifiedAs (st : Strategy (Option String)) (x : σ) :
    ∃ ids, st.IdentifiedAs ids (Dialogue.perform answer (st.identify newId) x).1 := by
  have h (cs : List (Condition (Option String))) (x : σ) :
      ∃ ids, Condition.Identified cs ids
        (Dialogue.perform answer (cs.mapM (·.identify newId)) x).1 := by
    induction cs generalizing x with
    | nil => exact ⟨[], .nil⟩
    | cons c cs ih =>
      obtain ⟨id, rule⟩ := c
      cases id with
      | some id =>
        obtain ⟨ids, hids⟩ := ih x
        exact ⟨ids, by simpa [List.mapM_cons, Condition.identify] using hids.given⟩
      | none =>
        obtain ⟨ids, hids⟩ := ih (Dialogue.perform answer newId x).2
        exact ⟨(Dialogue.perform answer newId x).1 :: ids,
          by simpa [List.mapM_cons, Condition.identify] using hids.new⟩
  obtain ⟨ids, hids⟩ := h st.conditions x
  exact ⟨ids, by simpa [identify] using hids, by simp [identify], by simp [identify],
    by simp [identify]⟩

theorem SavedStrategy.exists_identifiedAs (saved : SavedStrategy (Option String)) (x : σ) :
    ∃ ids, saved.IdentifiedAs ids (Dialogue.perform answer (saved.identify newId) x).1 := by
  obtain ⟨ids, hids⟩ : ∃ ids, saved.strategy.IdentifiedAs ids
      (Dialogue.perform answer (saved.strategy.identify newId) x).1 :=
    saved.strategy.exists_identifiedAs x
  exact ⟨ids, by simp [identify], by simp [identify], by simpa [identify] using hids,
    by simp [identify], by simp [identify]⟩

theorem SavedStrategy.id_perform_identify (saved : SavedStrategy (Option String)) (x : σ) :
    (Dialogue.perform answer (saved.identify newId) x).1.id = saved.id := by
  simp [identify]

theorem SavedStrategy.strategy_perform_identify (saved : SavedStrategy (Option String)) (x : σ) :
    (Dialogue.perform answer (saved.identify newId) x).1.strategy =
      (Dialogue.perform answer (saved.strategy.identify newId) x).1 := by
  simp [identify]

end Perform

end TradingRules
