import TradingRules.Document.Forgiving
import TradingRules.Proofs.Binary64.Rounding
import TradingRules.Proofs.Binary64.Spelling

namespace TradingRules

open Binary64 (units unitsOfOne unitsOfOne_pos)

inductive Number.Is : Number → ℕ → Prop
  | integer (n : ℕ) : Is (.integer n) n
  | real {x : Binary64} {n : ℕ} (hfinite : x.isFinite)
      (hplace : x.place? = some ((n * unitsOfOne : ℕ) : ℤ)) : Is (.real x) n

/-- Digits of a whole number, perhaps after a plus sign. -/
inductive SpellsCount : List Char → ℕ → Prop
  | plain {ds : List Char} (hne : ds ≠ []) (hds : ∀ c ∈ ds, c.isDigit) :
      SpellsCount ds (Nat.ofDigitChars 10 ds 0)
  | plus {ds : List Char} (hne : ds ≠ []) (hds : ∀ c ∈ ds, c.isDigit) :
      SpellsCount ('+' :: ds) (Nat.ofDigitChars 10 ds 0)

inductive Json.Counts : Json → UInt32 → Prop
  | number {k : Number} {n : UInt32} (h : k.Is n.toNat) : Counts (.number k) n
  | string {s : String} {n : UInt32} (h : SpellsCount (Text.trim s).toList n.toNat) :
      Counts (.string s) n

namespace Binary64

theorem toNat?_eq_some_iff {x : Binary64} {n : ℕ} :
    x.toNat? = some n ↔ x.isFinite ∧ x.place? = some ((n * unitsOfOne : ℕ) : ℤ) := by
  cases x with
  | infinite | nan => exact iff_of_false nofun fun h ↦ Bool.false_ne_true h.1
  | finite s rank =>
    have hpos := unitsOfOne_pos
    rw [toNat?, isFinite, and_iff_right rfl]
    generalize hu : units rank = u
    generalize unitsOfOne = one at hpos ⊢
    have hdiv : u % one = 0 ∧ u / one = n ↔ u = n * one := by
      constructor
      · rintro ⟨hmod, rfl⟩
        exact (Nat.div_mul_cancel (Nat.dvd_of_mod_eq_zero hmod)).symm
      · rintro rfl
        exact ⟨Nat.mul_mod_left n one, Nat.mul_div_cancel n hpos⟩
    have hplace (m : ℕ) : (finite s rank).place? = some (m : ℤ) ↔
        (s = false ∨ u = 0) ∧ u = m := by
      cases s with
      | false => simp [place?, hu]
      | true =>
        simp only [place?, hu, Option.some.injEq, reduceCtorEq, false_or]
        omega
    rw [hplace, ← hdiv]
    split
    · next h => simp [h]
    · next h =>
      apply iff_of_false nofun
      exact fun h' ↦ h ⟨h'.1, h'.2.1⟩

end Binary64

namespace Forgiving

theorem wholeNumber?_eq_some_iff {k : Number} {n : ℕ} : wholeNumber? k = some n ↔ k.Is n := by
  constructor
  · intro h
    cases k with
    | integer z =>
      rw [wholeNumber?] at h
      split at h
      · next hz =>
        obtain ⟨m, rfl⟩ := Int.eq_ofNat_of_zero_le hz
        obtain rfl := Option.some.inj h
        exact .integer m
      · cases h
    | real x =>
      obtain ⟨hfinite, hplace⟩ := Binary64.toNat?_eq_some_iff.mp h
      exact .real hfinite hplace
  · intro h
    cases h with
    | integer => simp [wholeNumber?]
    | real hfinite hplace => exact Binary64.toNat?_eq_some_iff.mpr ⟨hfinite, hplace⟩

theorem ofNat_eq_some_iff {m : ℕ} {n : UInt32} :
    (if m < UInt32.size then some (UInt32.ofNat m) else none) = some n ↔ m = n.toNat := by
  split
  · next hm =>
    rw [Option.some_inj, ← UInt32.toNat_inj, UInt32.toNat_ofNat_of_lt' hm]
  · next hm =>
    apply iff_of_false nofun
    rintro rfl
    exact hm n.toNat_lt_size

theorem digits?_eq_some_iff {s : String} {n : UInt32} :
    digits? s = some n ↔ SpellsCount s.toList n.toNat := by
  have hread (ds : List Char) : (if ds = [] then none
      else do
        let m ← Binary64.digitsValue? ds
        if m < UInt32.size then some (.ofNat m) else none) = some n ↔
      ds ≠ [] ∧ (∀ c ∈ ds, c.isDigit) ∧ Nat.ofDigitChars 10 ds 0 = n.toNat := by
    rw [Option.ite_none_left_eq_some]
    apply and_congr_right
    intro _
    simp only [Option.bind_eq_bind, Option.bind_eq_some_iff, ofNat_eq_some_iff,
      Binary64.digitsValue?_eq_some_iff]
    simp
  constructor
  · intro h
    unfold digits? at h
    dsimp only at h
    split at h
    · next rest hs =>
      obtain ⟨hne, hds, hn⟩ := (hread rest).mp h
      rw [hs, ← hn]
      exact .plus hne hds
    · obtain ⟨hne, hds, hn⟩ := (hread s.toList).mp h
      rw [← hn]
      exact .plain hne hds
  · intro h
    unfold digits?
    generalize s.toList = cs at h ⊢
    generalize hm : n.toNat = m at h
    dsimp only
    cases h with
    | plain hne hds =>
      split
      · exact absurd (hds '+' List.mem_cons_self) (by decide)
      · exact (hread cs).mpr ⟨hne, hds, hm.symm⟩
    | plus hne hds => exact (hread _).mpr ⟨hne, hds, hm.symm⟩

/-- What can be read as a count is exactly what stands for one. -/
theorem countOf_eq_some_iff {v : Json} {n : UInt32} : countOf v = some n ↔ v.Counts n := by
  constructor
  · intro h
    cases v with
    | number k =>
      obtain ⟨m, hm, hn⟩ := Option.bind_eq_some_iff.mp h
      obtain rfl := ofNat_eq_some_iff.mp hn
      exact .number (wholeNumber?_eq_some_iff.mp hm)
    | string s => exact .string (digits?_eq_some_iff.mp h)
    | null | bool | array | object => cases h
  · intro h
    cases h with
    | number h =>
      exact Option.bind_eq_some_iff.mpr
        ⟨_, wholeNumber?_eq_some_iff.mpr h, ofNat_eq_some_iff.mpr rfl⟩
    | string h => exact digits?_eq_some_iff.mpr h

theorem countOf_eq_none_iff {v : Json} : countOf v = none ↔ ∀ n, ¬ v.Counts n := by
  simp only [Option.eq_none_iff_forall_ne_some, ne_eq, countOf_eq_some_iff]

end Forgiving

end TradingRules
