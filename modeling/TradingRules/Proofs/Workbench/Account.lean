import TradingRules.Proofs.Workbench.Conduct

namespace TradingRules

open Workbench (Question Answer Exchange)

inductive Note
  | begun (op : Operation)
  | asked (e : Exchange)

def Note.given? : Note → Option (SavedStrategy (Option String))
  | .asked ⟨.call (.get _), .ok saved⟩ => some saved
  | _ => none

/-- A workbench, how it came to be as it is, and the state of the surroundings. -/
structure Account (σ : Type) where
  bench : Workbench
  notes : List Note
  state : σ

namespace Account

variable {σ : Type} (answer : (q : Question) → σ → Answer q × σ)

def opened (s : σ) : Account σ :=
  let c := Workbench.new.course answer s
  ⟨c.result, c.log.map .asked, c.state⟩

def next (a : Account σ) (op : Operation) : Account σ :=
  let c := (op.act a.bench).course answer a.state
  ⟨c.result, a.notes ++ .begun op :: c.log.map .asked, c.state⟩

def of (s : σ) (ops : List Operation) : Account σ :=
  ops.foldl (next answer) (opened answer s)

theorem of_append_singleton (s : σ) (ops : List Operation) (op : Operation) :
    of answer s (ops ++ [op]) = (of answer s ops).next answer op :=
  List.foldl_append ..

theorem notes_mono {before ops : List Operation} (h : before <+: ops) (s : σ) :
    (of answer s before).notes <+: (of answer s ops).notes := by
  obtain ⟨after, rfl⟩ := h
  rw [of, of, List.foldl_append]
  generalize before.foldl (next answer) (opened answer s) = a
  induction after generalizing a with
  | nil => exact List.prefix_rfl
  | cons op after ih => exact (List.prefix_append _ _).trans (ih (a.next answer op))

theorem exists_conduct (a : Account σ) (op : Operation) :
    ∃ r log, Conduct a.bench op r (a.next answer op).bench log ∧
      (a.next answer op).notes = a.notes ++ .begun op :: log.map .asked := by
  rw [next, Operation.act_eq_map_carryOut, Dialogue.course_map]
  exact ⟨_, _, conduct answer a.bench op a.state, rfl⟩

theorem exists_opened (s : σ) : ∃ id,
    (opened answer s).bench = ⟨.initial id, [], none⟩ ∧
      (opened answer s).notes = [.asked ⟨.newId, id⟩] :=
  ⟨_, rfl, rfl⟩

variable {answer}

/-- What holds of a new workbench and is kept by every way to carry out an operation holds through
every account. -/
theorem of_keeps {I : Workbench → List Note → Prop}
    (hnew : ∀ id, I ⟨.initial id, [], none⟩ [.asked ⟨.newId, id⟩])
    (hstep : ∀ {w w' op r log notes}, Conduct w op r w' log → I w notes →
      I w' (notes ++ .begun op :: log.map .asked)) (s : σ) (ops : List Operation) :
    I (of answer s ops).bench (of answer s ops).notes := by
  have hopened : I (opened answer s).bench (opened answer s).notes := by
    obtain ⟨id, hbench, hnotes⟩ := exists_opened answer s
    rw [hbench, hnotes]
    exact hnew id
  refine List.foldlRecOn (motive := fun a : Account σ ↦ I a.bench a.notes) ops _ hopened ?_
  intro a ha op _
  obtain ⟨r, log, hconduct, hnotes⟩ := exists_conduct answer a op
  rw [hnotes]
  exact hstep hconduct ha

end Account

end TradingRules
