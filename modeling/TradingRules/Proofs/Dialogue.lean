import TradingRules.Dialogue

namespace TradingRules.Dialogue

variable {Q : Type} {A : Q → Type} {α β : Type}

@[simp] theorem pure_bind (a : α) (f : α → Dialogue Q A β) : (pure a >>= f) = f a := rfl

theorem bind_pure (p : Dialogue Q A α) : (p >>= pure) = p := by
  induction p with
  | done a => rfl
  | ask q next ih => exact congrArg (Dialogue.ask q) (funext ih)

theorem bind_assoc {γ : Type} (p : Dialogue Q A α) (f : α → Dialogue Q A β)
    (g : β → Dialogue Q A γ) : (p >>= f >>= g) = p >>= fun a ↦ f a >>= g := by
  induction p with
  | done a => rfl
  | ask q next ih => exact congrArg (Dialogue.ask q) (funext ih)

instance : LawfulMonad (Dialogue Q A) :=
  .mk' (Dialogue Q A) bind_pure pure_bind bind_assoc

theorem run_bind {m : Type → Type} [Monad m] [LawfulMonad m] (answer : (q : Q) → m (A q))
    (p : Dialogue Q A α) (f : α → Dialogue Q A β) :
    (p >>= f).run answer = p.run answer >>= fun a ↦ (f a).run answer := by
  induction p with
  | done a =>
    change (f a).run answer = pure a >>= fun a ↦ (f a).run answer
    rw [LawfulMonad.pure_bind]
  | ask q next ih =>
    have hask : (Dialogue.ask q next).run answer = answer q >>= fun r ↦ (next r).run answer := rfl
    rw [hask, LawfulMonad.bind_assoc]
    exact congrArg (answer q >>= ·) (funext ih)

variable {σ : Type} (answer : (q : Q) → σ → A q × σ)

/-- The result of a dialogue and the state of the surroundings after it. -/
def perform (p : Dialogue Q A α) (s : σ) : α × σ :=
  StateT.run (p.run (m := StateM σ) answer) s

@[simp] theorem perform_pure (a : α) (s : σ) :
    perform answer (pure a : Dialogue Q A α) s = (a, s) := rfl

theorem perform_ask (q : Q) (next : A q → Dialogue Q A α) (s : σ) :
    perform answer (.ask q next) s = perform answer (next (answer q s).1) (answer q s).2 :=
  rfl

@[simp] theorem perform_bind (p : Dialogue Q A α) (f : α → Dialogue Q A β) (s : σ) :
    perform answer (p >>= f) s =
      perform answer (f (perform answer p s).1) (perform answer p s).2 := by
  induction p generalizing s with
  | done a => rfl
  | ask q next ih => exact ih (answer q s).1 (answer q s).2

@[simp] theorem perform_map (f : α → β) (p : Dialogue Q A α) (s : σ) :
    perform answer (f <$> p) s = (f (perform answer p s).1, (perform answer p s).2) := by
  rw [map_eq_pure_bind, perform_bind, perform_pure]

def Asks (kind : Q → Prop) : Dialogue Q A α → Prop
  | .done _ => True
  | .ask q next => kind q ∧ ∀ r, (next r).Asks kind

variable {kind : Q → Prop}

theorem asks_of_forall (h : ∀ q, kind q) (p : Dialogue Q A α) : p.Asks kind := by
  induction p with
  | done a => trivial
  | ask q next ih => exact ⟨h q, ih⟩

theorem asks_pure (a : α) : (pure a : Dialogue Q A α).Asks kind :=
  trivial

theorem asks_question {q : Q} (h : kind q) : (question q : Dialogue Q A (A q)).Asks kind :=
  ⟨h, fun _ ↦ trivial⟩

theorem asks_bind {p : Dialogue Q A α} {f : α → Dialogue Q A β} (hp : p.Asks kind)
    (hf : ∀ a, (f a).Asks kind) : (p >>= f).Asks kind := by
  induction p with
  | done a => exact hf a
  | ask q next ih => exact ⟨hp.1, fun r ↦ ih r (hp.2 r)⟩

theorem asks_mapM {f : α → Dialogue Q A β} (hf : ∀ a, (f a).Asks kind) (as : List α) :
    (as.mapM f).Asks kind := by
  induction as with
  | nil => exact asks_pure _
  | cons a as ih =>
    rw [List.mapM_cons]
    exact asks_bind (hf a) fun _ ↦ asks_bind ih fun _ ↦ asks_pure _

/-- An invariant of the answers to some questions is one of the dialogues that ask only those. -/
theorem perform_keeps {answer : (q : Q) → σ → A q × σ} {I : σ → Prop}
    (hanswer : ∀ q s, kind q → I s → I (answer q s).2) {p : Dialogue Q A α} (hp : p.Asks kind)
    {s : σ} (hs : I s) : I (perform answer p s).2 := by
  induction p generalizing s with
  | done a => exact hs
  | ask q next ih => exact ih _ (hp.2 _) (hanswer q s hp.1 hs)

/-- A question with the answer it got. -/
abbrev Exchange (Q : Type) (A : Q → Type) :=
  (q : Q) × A q

/-- How a dialogue went: its result, what was asked in turn, and the state after it. -/
structure Course (Q : Type) (A : Q → Type) (σ α : Type) where
  result : α
  log : List (Exchange Q A)
  state : σ

def Course.after (e : Exchange Q A) (c : Course Q A σ α) : Course Q A σ α :=
  { c with log := e :: c.log }

def course (answer : (q : Q) → σ → A q × σ) : Dialogue Q A α → σ → Course Q A σ α
  | .done a, s => ⟨a, [], s⟩
  | .ask q next, s =>
    .after ⟨q, (answer q s).1⟩ ((next (answer q s).1).course answer (answer q s).2)

variable (answer : (q : Q) → σ → A q × σ)

@[simp] theorem course_pure (a : α) (s : σ) :
    (pure a : Dialogue Q A α).course answer s = ⟨a, [], s⟩ := rfl

@[simp] theorem course_question (q : Q) (s : σ) :
    (question q : Dialogue Q A (A q)).course answer s =
      ⟨(answer q s).1, [⟨q, (answer q s).1⟩], (answer q s).2⟩ := rfl

@[simp] theorem course_bind (p : Dialogue Q A α) (f : α → Dialogue Q A β) (s : σ) :
    (p >>= f).course answer s =
      let c := p.course answer s
      let d := (f c.result).course answer c.state
      ⟨d.result, c.log ++ d.log, d.state⟩ := by
  induction p generalizing s with
  | done a => rfl
  | ask q next ih => exact congrArg (Course.after _) (ih (answer q s).1 (answer q s).2)

@[simp] theorem course_map (f : α → β) (p : Dialogue Q A α) (s : σ) :
    (f <$> p).course answer s =
      ⟨f (p.course answer s).result, (p.course answer s).log, (p.course answer s).state⟩ := by
  rw [map_eq_pure_bind, course_bind]
  simp

theorem exists_state_of_mem_log {p : Dialogue Q A α} {s : σ} {e : Exchange Q A}
    (he : e ∈ (p.course answer s).log) : ∃ s', e.2 = (answer e.1 s').1 := by
  induction p generalizing s with
  | done a => cases he
  | ask q next ih =>
    rcases List.mem_cons.mp he with rfl | he
    · exact ⟨s, rfl⟩
    · exact ih _ he

theorem perform_eq_course (p : Dialogue Q A α) (s : σ) :
    perform answer p s = ((p.course answer s).result, (p.course answer s).state) := by
  induction p generalizing s with
  | done a => rfl
  | ask q next ih => exact ih (answer q s).1 (answer q s).2

end TradingRules.Dialogue
