import TradingRules.Proofs.Document.Written

namespace TradingRules

theorem bind_eq_error_iff {ε α β : Type} {x : Except ε α} {f : α → Except ε β} {e : ε} :
    x >>= f = .error e ↔ x = .error e ∨ ∃ a, x = .ok a ∧ f a = .error e := by
  cases x <;> simp [bind, Except.bind]

/-- A check is passed exactly if something holds, and else reports exactly what is to blame. -/
structure Verdict {ε : Type} (check : Except ε Unit) (Holds : Prop) (Blames : ε → Prop) :
    Prop where
  ok_iff : check = .ok () ↔ Holds
  error_iff : ∀ e, check = .error e ↔ Blames e

namespace Verdict

variable {ε α : Type} {x y : Except ε Unit} {P P' : Prop} {Q Q' : ε → Prop}

theorem congr (h : Verdict x P Q) (hP : P ↔ P') (hQ : ∀ e, Q e ↔ Q' e) : Verdict x P' Q' where
  ok_iff := h.ok_iff.trans hP
  error_iff e := (h.error_iff e).trans (hQ e)

theorem ok : Verdict (.ok () : Except ε Unit) True fun _ ↦ False where
  ok_iff := iff_of_true rfl trivial
  error_iff _ := iff_of_false nofun not_false

theorem error (e : ε) : Verdict (.error e : Except ε Unit) False (e = ·) where
  ok_iff := iff_of_false nofun not_false
  error_iff _ := ⟨Except.error.inj, congrArg _⟩

theorem ite (c : Prop) [Decidable c] (e : ε) :
    Verdict (if c then .ok () else .error e) c fun e' ↦ ¬ c ∧ e = e' := by
  split
  · next h => exact ok.congr (iff_of_true trivial h) fun _ ↦ by simp [h]
  · next h => exact (error e).congr (iff_of_false not_false h) fun _ ↦ by simp [h]

theorem ite_not (c : Prop) [Decidable c] (e : ε) :
    Verdict (if c then .error e else .ok ()) (¬ c) fun e' ↦ c ∧ e = e' := by
  split
  · next h => exact (error e).congr (by simp [h]) fun _ ↦ by simp [h]
  · next h => exact ok.congr (by simp [h]) fun _ ↦ by simp [h]

theorem bind (hx : Verdict x P Q) (hy : Verdict y P' Q') :
    Verdict (x >>= fun _ ↦ y) (P ∧ P') fun e ↦ Q e ∨ P ∧ Q' e where
  ok_iff := by
    rw [bind_eq_ok_iff, ← hx.ok_iff, ← hy.ok_iff]
    exact ⟨fun ⟨_, h⟩ ↦ h, fun h ↦ ⟨(), h⟩⟩
  error_iff e := by
    rw [bind_eq_error_iff, ← hx.ok_iff, ← hx.error_iff, ← hy.error_iff]
    exact or_congr_right ⟨fun ⟨_, h⟩ ↦ h, fun h ↦ ⟨(), h⟩⟩

theorem forM {f : α → Except ε Unit} {P : α → Prop} {Q : α → ε → Prop}
    (h : ∀ a, Verdict (f a) (P a) (Q a)) (as : List α) :
    Verdict (as.forM f) (∀ a ∈ as, P a) fun e ↦
      ∃ before a after, as = before ++ a :: after ∧ (∀ b ∈ before, P b) ∧ Q a e := by
  induction as with
  | nil =>
    refine ok.congr (by simp) fun e ↦ iff_of_false not_false ?_
    rintro ⟨before, a, after, has, -⟩
    exact absurd has.symm (List.append_ne_nil_of_right_ne_nil _ (List.cons_ne_nil _ _))
  | cons a as ih =>
    refine ((h a).bind ih).congr (by simp) fun e ↦ ?_
    constructor
    · rintro (ha | ⟨ha, before, a', after, rfl, hbefore, ha'⟩)
      · exact ⟨[], a, as, rfl, nofun, ha⟩
      · exact ⟨a :: before, a', after, rfl, List.forall_mem_cons.mpr ⟨ha, hbefore⟩, ha'⟩
    · rintro ⟨before, a', after, has, hbefore, ha'⟩
      cases before with
      | nil =>
        obtain ⟨rfl, rfl⟩ := List.cons.inj has
        exact .inl ha'
      | cons b before =>
        obtain ⟨rfl, rfl⟩ := List.cons.inj has
        rw [List.forall_mem_cons] at hbefore
        exact .inr ⟨hbefore.1, before, a', after, rfl, hbefore.2, ha'⟩

end Verdict

end TradingRules
