import TradingRules.Proofs.Binary64.Shortest
import TradingRules.Proofs.Binary64.Spelling

namespace TradingRules.Binary64

/-- The least magnitude that is rounded to an infinity, half a step above the greatest number. -/
def overflow : Nat :=
  Nat.pow 2 1024 - Nat.pow 2 970

theorem two_mul_overflow :
    units (rankCount - 1) + units rankCount = 2 * (overflow * unitsOfOne) := by
  decide +kernel

theorem Nearest.lt_rankCount_iff {rank : Nat} {v : ℚ} (h : Nearest rank v) :
    rank < rankCount ↔ v < overflow * unitsOfOne := by
  have htwice : (units (rankCount - 1) + units rankCount : ℚ) = 2 * (overflow * unitsOfOne) := by
    exact_mod_cast two_mul_overflow
  constructor
  · intro hlt
    obtain hless | rfl : rank < rankCount - 1 ∨ rank = rankCount - 1 := by omega
    · have hrank : (units rank : ℚ) < units (rankCount - 1) := by
        exact_mod_cast units_strictMono hless
      have hsucc : (units (rank + 1) : ℚ) < units rankCount := by
        exact_mod_cast units_strictMono (by omega : rank + 1 < rankCount)
      linarith [h.high]
    · -- The greatest rank is odd, so the midpoint above it belongs to the infinity.
      have hhigh := (h.odd (by decide)).2
      rw [show rankCount - 1 + 1 = rankCount by decide, htwice] at hhigh
      linarith
  · intro hv
    by_contra hge
    have hrank : (units rankCount : ℚ) ≤ units rank := by
      exact_mod_cast units_strictMono.monotone (Nat.not_lt.mp hge)
    have hpred : (units (rankCount - 1) : ℚ) ≤ units (rank - 1) := by
      exact_mod_cast units_strictMono.monotone (by omega : rankCount - 1 ≤ rank - 1)
    linarith [h.low]

theorem isFinite_ofRank (negative : Bool) (rank : Nat) :
    (ofRank negative rank).isFinite ↔ rank < rankCount := by
  unfold ofRank
  split
  · next h => exact iff_of_true rfl h
  · next h => exact iff_of_false Bool.false_ne_true h

theorem overflow_bounds : (1 : ℚ) ≤ overflow ∧ (overflow : ℚ) ≤ 10 ^ (400 : Int) := by
  have hone : 1 ≤ overflow := by decide +kernel
  have hten : overflow ≤ 10 ^ 400 := by decide +kernel
  rw [zpow_ofNat]
  exact ⟨by exact_mod_cast hone, by exact_mod_cast hten⟩

theorem pow_le_of_length_toDigits {n k : Nat} (h : n ≠ 0)
    (hk : (Nat.toDigits 10 n).length = k + 1) : 10 ^ k ≤ n ∧ n < 10 ^ (k + 1) := by
  constructor
  · cases k with
    | zero => exact Nat.one_le_iff_ne_zero.mpr h
    | succ k =>
      by_contra hlt
      have hlength := (Nat.length_toDigits_le_iff (by decide) k.succ_pos).mpr (Nat.not_le.mp hlt)
      omega
  · exact (Nat.length_toDigits_le_iff (by decide) k.succ_pos).mp hk.le

theorem Decimal.value_bounds {d : Decimal} (h : d.digits ≠ 0) {size : Int}
    (hsize : d.exponent + (Nat.toDigits 10 d.digits).length = size) :
    10 ^ (size - 1) ≤ d.value ∧ d.value < 10 ^ size := by
  obtain ⟨n, e⟩ := d
  obtain ⟨k, hk⟩ := Nat.exists_eq_add_one.mpr (List.length_pos_iff.mpr Nat.toDigits_ne_nil :
    0 < (Nat.toDigits 10 n).length)
  obtain ⟨hlow, hhigh⟩ := pow_le_of_length_toDigits h hk
  have hpos : (0 : ℚ) < 10 ^ e := zpow_pos (by norm_num) e
  have hpow (j : Nat) : (10 : ℚ) ^ (e + j) = 10 ^ j * 10 ^ e := by
    rw [zpow_add₀ (by norm_num), zpow_natCast, mul_comm]
  subst hsize
  rw [hk, show e + ((k + 1 : Nat) : Int) - 1 = e + k by omega, hpow, hpow, value]
  constructor
  · exact mul_le_mul_of_nonneg_right (by exact_mod_cast hlow) hpos.le
  · exact mul_lt_mul_of_pos_right (by exact_mod_cast hhigh) hpos

theorem isFinite_ofRank_rank (negative : Bool) (d : Decimal) :
    (ofRank negative d.rank).isFinite ↔ d.value < overflow := by
  rw [isFinite_ofRank, d.nearest_rank.lt_rankCount_iff]
  exact mul_lt_mul_iff_left₀ (Nat.cast_pos.mpr unitsOfOne_pos)

theorem isFinite_ofDecimal_iff (negative : Bool) (n : Nat) (e : Int) :
    (ofDecimal negative n e).isFinite ↔ (n * 10 ^ e : ℚ) < overflow := by
  have hrank := isFinite_ofRank_rank negative ⟨n, e⟩
  obtain ⟨hone, hten⟩ := overflow_bounds
  change _ ↔ Decimal.value ⟨n, e⟩ < overflow
  unfold ofDecimal
  split
  · next hn =>
    rw [Decimal.value, hn, Nat.cast_zero, zero_mul]
    exact iff_of_true rfl (by linarith)
  next hn =>
  obtain ⟨hlow, hhigh⟩ := Decimal.value_bounds (d := ⟨n, e⟩) hn rfl
  dsimp only at hlow hhigh ⊢
  generalize e + ((Nat.toDigits 10 n).length : Int) = size at hlow hhigh ⊢
  -- Decimals far out of the range are not rounded at all.
  split
  · next hsize =>
    have hpow : (10 : ℚ) ^ (400 : Int) ≤ 10 ^ (size - 1) :=
      zpow_le_zpow_right₀ (by norm_num) (by omega)
    exact iff_of_false Bool.false_ne_true (by linarith)
  split
  · next hsize =>
    have hpow : (10 : ℚ) ^ size ≤ 10 ^ (0 : Int) :=
      zpow_le_zpow_right₀ (by norm_num) (by omega)
    rw [zpow_zero] at hpow
    exact iff_of_true rfl (by linarith)
  · rw [← hrank]
    unfold Decimal.rank ofQuotient
    split <;> rfl

inductive BeyondUnsigned : List Char → Prop
  | nan {cs : List Char} (h : cs.map Char.toLower = ['n', 'a', 'n']) : BeyondUnsigned cs
  | inf {cs : List Char} (h : cs.map Char.toLower = ['i', 'n', 'f']) : BeyondUnsigned cs
  | infinity {cs : List Char} (h : cs.map Char.toLower = ['i', 'n', 'f', 'i', 'n', 'i', 't', 'y']) :
      BeyondUnsigned cs
  | decimal {cs rest : List Char} {n scale : Nat} {e : Int} (hcs : SpellsDigits cs n scale)
      (hrest : SpellsExponent rest e) (h : (overflow : ℚ) ≤ n * 10 ^ (e - scale)) :
      BeyondUnsigned (cs ++ rest)

/-- These characters spell a number that is not finite. -/
inductive SpellsBeyond : List Char → Prop
  | plain {cs : List Char} (h : BeyondUnsigned cs) : SpellsBeyond cs
  | plus {cs : List Char} (h : BeyondUnsigned cs) : SpellsBeyond ('+' :: cs)
  | minus {cs : List Char} (h : BeyondUnsigned cs) : SpellsBeyond ('-' :: cs)

theorem beyondUnsigned_iff (negative : Bool) {cs : List Char} :
    BeyondUnsigned cs ↔ ∃ x, SpellsUnsigned negative cs x ∧ x.isFinite = false := by
  constructor
  · intro h
    cases h with
    | nan h => exact ⟨_, .nan h, rfl⟩
    | inf h => exact ⟨_, .inf h, rfl⟩
    | infinity h => exact ⟨_, .infinity h, rfl⟩
    | decimal hcs hrest h =>
      refine ⟨_, .decimal hcs hrest, ?_⟩
      rw [Bool.eq_false_iff, ne_eq, isFinite_ofDecimal_iff, not_lt]
      exact h
  · intro h
    obtain ⟨x, hx, hinfinite⟩ := h
    cases hx with
    | nan h => exact .nan h
    | inf h => exact .inf h
    | infinity h => exact .infinity h
    | decimal hcs hrest =>
      rw [Bool.eq_false_iff, ne_eq, isFinite_ofDecimal_iff, not_lt] at hinfinite
      exact .decimal hcs hrest hinfinite

theorem spellsBeyond_iff {cs : List Char} :
    SpellsBeyond cs ↔ ∃ x, Spells cs x ∧ x.isFinite = false := by
  constructor
  · intro h
    cases h with
    | plain h =>
      obtain ⟨x, hx, hinfinite⟩ := (beyondUnsigned_iff false).mp h
      exact ⟨x, .plain hx, hinfinite⟩
    | plus h =>
      obtain ⟨x, hx, hinfinite⟩ := (beyondUnsigned_iff false).mp h
      exact ⟨x, .plus hx, hinfinite⟩
    | minus h =>
      obtain ⟨x, hx, hinfinite⟩ := (beyondUnsigned_iff true).mp h
      exact ⟨x, .minus hx, hinfinite⟩
  · intro h
    obtain ⟨x, hx, hinfinite⟩ := h
    cases hx with
    | plain hx => exact .plain ((beyondUnsigned_iff false).mpr ⟨x, hx, hinfinite⟩)
    | plus hx => exact .plus ((beyondUnsigned_iff false).mpr ⟨x, hx, hinfinite⟩)
    | minus hx => exact .minus ((beyondUnsigned_iff true).mpr ⟨x, hx, hinfinite⟩)

theorem Spells.unique {cs : List Char} {x y : Binary64} (hx : Spells cs x) (hy : Spells cs y) :
    x = y := by
  rw [← String.toList_ofList (l := cs)] at hx hy
  rw [← ofNumeral?_eq_some_iff] at hx hy
  exact Option.some.inj (hx.symm.trans hy)

end TradingRules.Binary64
