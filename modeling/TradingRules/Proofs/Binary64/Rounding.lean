import Mathlib.Algebra.Order.Field.Basic
import Mathlib.Data.Rat.Cast.Order
import Mathlib.Tactic.Linarith
import Mathlib.Tactic.Ring
import TradingRules.Binary64.Shortest

namespace TradingRules.Binary64

theorem binade_pos : 0 < binade := by decide

theorem units_eq {scale q : Nat} (hq : scale = 0 ∨ binade ≤ q) (hlt : q < 2 * binade) :
    units (scale * binade + q) = q * Nat.pow 2 scale := by
  by_cases hsmall : q < binade
  · obtain rfl : scale = 0 := by omega
    rw [Nat.zero_mul, Nat.zero_add, units, if_pos hsmall]
    exact (Nat.mul_one q).symm
  · obtain ⟨r, rfl⟩ : ∃ r, q = binade + r := ⟨q - binade, by omega⟩
    have hr : r < binade := by omega
    have hrank : scale * binade + (binade + r) = r + (scale + 1) * binade := by ring
    have hge : ¬ r + (scale + 1) * binade < binade := by
      rw [Nat.add_one_mul]
      omega
    rw [hrank, units, if_neg hge, Nat.add_mul_mod_self_right, Nat.mod_eq_of_lt hr,
      Nat.add_mul_div_right _ _ binade_pos, Nat.div_eq_of_lt hr, Nat.zero_add,
      Nat.add_sub_cancel]

theorem exists_scale (rank : Nat) : ∃ scale q, rank = scale * binade + q ∧
    (scale = 0 ∨ binade ≤ q) ∧ q < 2 * binade := by
  by_cases hsmall : rank < binade
  · exact ⟨0, rank, by omega, .inl rfl, by omega⟩
  · have hdiv : 1 ≤ rank / binade := (Nat.one_le_div_iff binade_pos).mpr (by omega)
    have hmod := Nat.mod_lt rank binade_pos
    refine ⟨rank / binade - 1, binade + rank % binade, ?_, by omega, by omega⟩
    have hrank := Nat.div_add_mod' rank binade
    have hsub := Nat.sub_add_cancel hdiv
    calc
      rank = (rank / binade - 1 + 1) * binade + rank % binade := by rw [hsub, hrank]
      _ = (rank / binade - 1) * binade + (binade + rank % binade) := by ring

theorem units_top (scale : Nat) :
    units (scale * binade + 2 * binade) = 2 * binade * Nat.pow 2 scale := by
  have hrank : scale * binade + 2 * binade = (scale + 1) * binade + binade := by ring
  rw [hrank, units_eq (.inr (Nat.le_refl _)) (by decide)]
  simp only [Nat.pow_eq]
  ring

theorem units_succ {scale q : Nat} (hq : scale = 0 ∨ binade ≤ q) (hlt : q < 2 * binade) :
    units (scale * binade + q + 1) = (q + 1) * Nat.pow 2 scale := by
  rw [Nat.add_assoc]
  by_cases htop : q + 1 < 2 * binade
  · exact units_eq (by omega) htop
  · obtain rfl : q = 2 * binade - 1 := by omega
    exact units_top scale

theorem units_lt_succ (rank : Nat) : units rank < units (rank + 1) := by
  obtain ⟨scale, q, rfl, hq, hlt⟩ := exists_scale rank
  rw [units_eq hq hlt, units_succ hq hlt]
  exact Nat.mul_lt_mul_of_pos_right (Nat.lt_succ_self q) (Nat.pow_pos (by decide))

theorem units_strictMono : StrictMono units :=
  strictMono_nat_of_lt_succ units_lt_succ

theorem units_zero : units 0 = 0 := rfl

theorem units_pos {rank : Nat} (h : rank ≠ 0) : 0 < units rank := by
  have hlt := units_strictMono (Nat.pos_of_ne_zero h)
  rwa [units_zero] at hlt

theorem units_succ_le (rank : Nat) :
    units (rank + 1) ≤ 2 * binade * (units (rank + 1) - units rank) := by
  obtain ⟨scale, q, rfl, hq, hlt⟩ := exists_scale rank
  rw [units_eq hq hlt, units_succ hq hlt, ← Nat.sub_mul, Nat.add_sub_cancel_left, Nat.one_mul]
  exact Nat.mul_le_mul_right _ hlt

theorem roundQuotient_spec {num den q : Nat} (hden : 0 < den) (hq : roundQuotient num den = q) :
    2 * (q * den) ≤ 2 * num + den ∧ 2 * num ≤ 2 * (q * den) + den ∧
      (q % 2 = 1 → 2 * (q * den) < 2 * num + den ∧ 2 * num < 2 * (q * den) + den) := by
  have hnum := Nat.div_add_mod' num den
  have hmod := Nat.mod_lt num hden
  have hsucc := Nat.add_one_mul (num / den) den
  unfold roundQuotient at hq
  dsimp only at hq
  generalize num / den = k at hnum hsucc hq
  generalize num % den = m at hnum hmod hq
  split at hq
  · subst hq
    omega
  split at hq
  · subst hq
    omega
  · obtain hk | hk := Nat.mod_two_eq_zero_or_one k
    · rw [hk, Nat.add_zero] at hq
      subst hq
      omega
    · rw [hk] at hq
      subst hq
      omega

theorem roundQuotient_bounds (num den : Nat) :
    num / den ≤ roundQuotient num den ∧ roundQuotient num den ≤ num / den + 1 := by
  unfold roundQuotient
  dsimp only
  split
  · omega
  split <;> omega

theorem roundQuotient_mul (num den : Nat) {c : Nat} (hc : 0 < c) :
    roundQuotient (num * c) (den * c) = roundQuotient num den := by
  unfold roundQuotient
  simp only [Nat.mul_div_mul_right _ _ hc, Nat.mul_mod_mul_right, ← Nat.mul_assoc,
    Nat.mul_lt_mul_right hc]

theorem rankOfQuotient_mul (num den : Nat) {c : Nat} (hc : 0 < c) :
    rankOfQuotient (num * c) (den * c) = rankOfQuotient num den := by
  have hnum : num * c * unitsOfOne = num * unitsOfOne * c := Nat.mul_right_comm ..
  have hden (p : Nat) : den * c * p = den * p * c := Nat.mul_right_comm ..
  unfold rankOfQuotient
  simp only [hnum, hden, Nat.mul_div_mul_right _ _ hc, roundQuotient_mul _ _ hc]

/-- A magnitude in units is between the midpoints to the neighbours of a rank. The midpoints are
included where rounding to even takes them to the rank. -/
structure Nearest (rank : Nat) (v : ℚ) : Prop where
  low : (units (rank - 1) + units rank : ℚ) ≤ 2 * v
  high : 2 * v ≤ units rank + units (rank + 1)
  odd : rank % 2 = 1 → (units (rank - 1) + units rank : ℚ) < 2 * v ∧
    2 * v < units rank + units (rank + 1)

theorem nearest_div_iff {rank num den : Nat} (hden : 0 < den) : Nearest rank (num / den : ℚ) ↔
    (units (rank - 1) + units rank) * den ≤ 2 * num ∧
      2 * num ≤ (units rank + units (rank + 1)) * den ∧
      (rank % 2 = 1 → (units (rank - 1) + units rank) * den < 2 * num ∧
        2 * num < (units rank + units (rank + 1)) * den) := by
  have hden' : (0 : ℚ) < den := Nat.cast_pos.mpr hden
  have hle (a : Nat) : (a : ℚ) ≤ 2 * (num / den) ↔ a * den ≤ 2 * num := by
    rw [← mul_div_assoc, le_div_iff₀ hden']
    norm_cast
  have hlt (a : Nat) : (a : ℚ) < 2 * (num / den) ↔ a * den < 2 * num := by
    rw [← mul_div_assoc, lt_div_iff₀ hden']
    norm_cast
  have hle' (a : Nat) : 2 * (num / den : ℚ) ≤ a ↔ 2 * num ≤ a * den := by
    rw [← mul_div_assoc, div_le_iff₀ hden']
    norm_cast
  have hlt' (a : Nat) : 2 * (num / den : ℚ) < a ↔ 2 * num < a * den := by
    rw [← mul_div_assoc, div_lt_iff₀ hden']
    norm_cast
  simp only [← hle, ← hlt, ← hle', ← hlt', Nat.cast_add]
  exact ⟨fun h ↦ ⟨h.low, h.high, h.odd⟩, fun h ↦ ⟨h.1, h.2.1, h.2.2⟩⟩

namespace Nearest

variable {rank rank' : Nat} {u v w : ℚ}

theorem le_of_le (hu : Nearest rank u) (hv : Nearest rank' v) (huv : u ≤ v) : rank ≤ rank' := by
  by_contra hlt
  have hsucc : units (rank' + 1) ≤ units rank := units_strictMono.monotone (by omega)
  have hpred : units rank' ≤ units (rank - 1) := units_strictMono.monotone (by omega)
  have hmid : (units rank' + units (rank' + 1) : ℚ) ≤ units (rank - 1) + units rank := by
    exact_mod_cast Nat.add_le_add hpred hsucc
  -- Both magnitudes are the midpoint, so that both ranks are even; but they are neighbours.
  have hlow := hu.low
  have hhigh := hv.high
  have heven : ¬ rank % 2 = 1 := fun hodd ↦ by linarith [(hu.odd hodd).1]
  have heven' : ¬ rank' % 2 = 1 := fun hodd ↦ by linarith [(hv.odd hodd).2]
  have hgap : units (rank' + 1) < units rank := units_strictMono (by omega)
  have hless : (units rank' + units (rank' + 1) : ℚ) < units (rank - 1) + units rank := by
    exact_mod_cast Nat.add_lt_add_of_le_of_lt hpred hgap
  linarith

theorem unique (h : Nearest rank v) (h' : Nearest rank' v) : rank = rank' :=
  Nat.le_antisymm (le_of_le h h' le_rfl) (le_of_le h' h le_rfl)

theorem between (hu : Nearest rank u) (hw : Nearest rank w) (huv : u ≤ v) (hvw : v ≤ w) :
    Nearest rank v where
  low := by linarith [hu.low]
  high := by linarith [hw.high]
  odd := fun hodd ↦ ⟨by linarith [(hu.odd hodd).1], by linarith [(hw.odd hodd).2]⟩

end Nearest

theorem nearest_units (rank : Nat) : Nearest rank (units rank) := by
  have hpred : (units (rank - 1) : ℚ) ≤ units rank := by
    exact_mod_cast units_strictMono.monotone (Nat.sub_le rank 1)
  have hhigh : (units rank : ℚ) < units (rank + 1) := by
    exact_mod_cast units_lt_succ rank
  refine ⟨by linarith, by linarith, fun hodd ↦ ?_⟩
  have hlow : (units (rank - 1) : ℚ) < units rank := by
    exact_mod_cast units_strictMono (by omega : rank - 1 < rank)
  exact ⟨by linarith, by linarith⟩

section Scaled

variable {scale q : Nat} (hq : scale = 0 ∨ binade ≤ q) (hle : q ≤ 2 * binade)

include hq hle

theorem units_eq_of_le : units (scale * binade + q) = q * Nat.pow 2 scale := by
  obtain hlt | rfl := Nat.lt_or_eq_of_le hle
  · exact units_eq hq hlt
  · exact units_top scale

theorem le_units_succ : (q + 1) * Nat.pow 2 scale ≤ units (scale * binade + q + 1) := by
  obtain hlt | rfl := Nat.lt_or_eq_of_le hle
  · exact (units_succ hq hlt).ge
  · have hrank : scale * binade + 2 * binade + 1 = (scale + 1) * binade + binade + 1 := by ring
    rw [hrank, units_succ (.inr (Nat.le_refl _)) (by decide)]
    simp only [Nat.pow_eq, Nat.pow_succ]
    have hpos : 0 < 2 ^ scale := Nat.two_pow_pos scale
    nlinarith

theorem units_pred_add_units (hpos : q ≠ 0) (htop : scale = 0 ∨ q ≠ binade) :
    units (scale * binade + q - 1) + units (scale * binade + q) + Nat.pow 2 scale =
      2 * (q * Nat.pow 2 scale) := by
  obtain ⟨r, rfl⟩ := Nat.exists_eq_succ_of_ne_zero hpos
  have hpred : units (scale * binade + r) = r * Nat.pow 2 scale :=
    units_eq (by omega) (by omega)
  rw [units_eq_of_le hq hle, Nat.succ_eq_add_one, ← Nat.add_assoc, Nat.add_sub_cancel, hpred]
  ring

variable {num den : Nat}

/-- The midpoint below is no less than half a step away. It may be nearer at a power of two, where
the fraction is no less than the power. -/
theorem midpoint_le_of_scaled
    (hlow : 2 * (q * (den * Nat.pow 2 scale)) ≤ 2 * num + den * Nat.pow 2 scale)
    (hodd : q % 2 = 1 → 2 * (q * (den * Nat.pow 2 scale)) < 2 * num + den * Nat.pow 2 scale)
    (hnum : scale ≠ 0 → binade * Nat.pow 2 scale * den ≤ num) :
    (units (scale * binade + q - 1) + units (scale * binade + q)) * den ≤ 2 * num ∧
      (q % 2 = 1 →
        (units (scale * binade + q - 1) + units (scale * binade + q)) * den < 2 * num) := by
  by_cases hpos : q = 0
  · obtain rfl : scale = 0 := hq.resolve_right (by rw [hpos]; decide)
    simp [hpos, units_zero]
  by_cases htop : scale = 0 ∨ q ≠ binade
  · have hpred := units_pred_add_units hq hle hpos htop
    have hsum : (units (scale * binade + q - 1) + units (scale * binade + q)) * den +
        den * Nat.pow 2 scale = 2 * (q * (den * Nat.pow 2 scale)) := by
      calc
        _ = (units (scale * binade + q - 1) + units (scale * binade + q) + Nat.pow 2 scale) *
            den := by ring
        _ = _ := by rw [hpred]; ring
    omega
  · rw [not_or, not_not] at htop
    obtain ⟨hscale, rfl⟩ := htop
    have hunits := units_eq_of_le hq hle
    have hpred : units (scale * binade + binade - 1) ≤ units (scale * binade + binade) :=
      units_strictMono.monotone (Nat.sub_le _ _)
    have htwice : (units (scale * binade + binade - 1) + units (scale * binade + binade)) * den ≤
        2 * (binade * Nat.pow 2 scale * den) := by
      rw [← Nat.mul_assoc]
      exact Nat.mul_le_mul_right _ (by omega)
    have hfloor := hnum hscale
    exact ⟨by omega, fun hodd ↦ absurd hodd (by decide)⟩

theorem le_midpoint_of_scaled (den : Nat) :
    2 * (q * (den * Nat.pow 2 scale)) + den * Nat.pow 2 scale ≤
      (units (scale * binade + q) + units (scale * binade + q + 1)) * den := by
  have hunits := units_eq_of_le hq hle
  have hsucc := le_units_succ hq hle
  calc
    _ = (q * Nat.pow 2 scale + (q + 1) * Nat.pow 2 scale) * den := by ring
    _ ≤ _ := Nat.mul_le_mul_right _ (by omega)

/-- The nearest multiple of a power of two is the nearest rank, as long as the ranks around it are
no farther apart. -/
theorem nearest_of_scaled (hden : 0 < den)
    (hround : roundQuotient num (den * Nat.pow 2 scale) = q)
    (hnum : scale ≠ 0 → binade * Nat.pow 2 scale * den ≤ num) :
    Nearest (scale * binade + q) (num / den : ℚ) := by
  have hpow : 0 < Nat.pow 2 scale := Nat.pow_pos (by decide)
  obtain ⟨hlow, hhigh, hodd⟩ := roundQuotient_spec (Nat.mul_pos hden hpow) hround
  obtain ⟨hbelow, hbelow'⟩ :=
    midpoint_le_of_scaled hq hle hlow (fun hq ↦ (hodd hq).1) hnum
  have habove := le_midpoint_of_scaled hq hle den
  have hparity : (scale * binade + q) % 2 = q % 2 := by
    have hbinade : scale * binade = 2 * (scale * 0x8000000000000) := by
      simp only [binade]
      ring
    omega
  refine (nearest_div_iff hden).mpr ⟨hbelow, hhigh.trans habove, fun hrank ↦ ?_⟩
  have hq : q % 2 = 1 := by omega
  exact ⟨hbelow' hq, (hodd hq).2.trans_le habove⟩

end Scaled

theorem scale_bounds {u : Nat} (hu : 2 * binade ≤ u) :
    binade * Nat.pow 2 (u.log2 - 52) ≤ u ∧ u < 2 * binade * Nat.pow 2 (u.log2 - 52) := by
  have hne : u ≠ 0 := (Nat.lt_of_lt_of_le (by decide) hu).ne'
  have hlog : 52 ≤ u.log2 := (Nat.le_log2 hne).mpr (Nat.le_trans (by decide) hu)
  have hpow : binade * Nat.pow 2 (u.log2 - 52) = 2 ^ u.log2 := by
    obtain ⟨k, hk⟩ := Nat.exists_eq_add_of_le hlog
    rw [hk, Nat.add_sub_cancel_left, Nat.pow_add]
    rfl
  constructor
  · rw [hpow]
    exact Nat.log2_self_le hne
  · rw [Nat.mul_assoc, hpow, ← Nat.pow_succ']
    exact Nat.lt_log2_self

theorem nearest_rankOfQuotient (num : Nat) {den : Nat} (hden : 0 < den) :
    Nearest (rankOfQuotient num den) (num * unitsOfOne / den) := by
  unfold rankOfQuotient
  rw [← Nat.cast_mul]
  generalize num * unitsOfOne = n
  dsimp only
  split
  · next hu =>
    have hone : den * Nat.pow 2 0 = den := Nat.mul_one den
    have hround := (roundQuotient_bounds n den).2
    rw [hone]
    exact nearest_of_scaled (.inl rfl) (hround.trans (Nat.lt_of_le_of_lt (Nat.le_refl _) hu)) hden
      (congrArg _ hone) (absurd rfl)
  · next hu =>
    obtain ⟨hlow, hhigh⟩ := scale_bounds (Nat.not_lt.mp hu)
    have hpos : 0 < Nat.pow 2 ((n / den).log2 - 52) := Nat.pow_pos (by decide)
    have hround := roundQuotient_bounds n (den * Nat.pow 2 ((n / den).log2 - 52))
    rw [← Nat.div_div_eq_div_mul] at hround
    refine nearest_of_scaled (.inr ?_) ?_ hden rfl fun _ ↦ ?_
    · exact ((Nat.le_div_iff_mul_le hpos).mpr hlow).trans hround.1
    · exact hround.2.trans ((Nat.div_lt_iff_lt_mul hpos).mpr hhigh)
    · exact (Nat.le_div_iff_mul_le hden).mp hlow

theorem rankOfQuotient_eq {rank num den : Nat} (hden : 0 < den)
    (h : Nearest rank (num * unitsOfOne / den)) : rankOfQuotient num den = rank :=
  (nearest_rankOfQuotient num hden).unique h

theorem exists_units_eq {n k : Nat} (hn : n ≤ 2 * binade) (hk : 52 ≤ k) :
    ∃ rank, units rank = n * Nat.pow 2 k := by
  obtain rfl | hpos := Nat.eq_zero_or_pos n
  · exact ⟨0, by rw [units_zero, Nat.zero_mul]⟩
  obtain ⟨j, hj⟩ : ∃ j, j = 52 - n.log2 := ⟨_, rfl⟩
  have hsplit : n * Nat.pow 2 k = n * Nat.pow 2 j * Nat.pow 2 (k - j) := by
    simp only [Nat.pow_eq]
    rw [Nat.mul_assoc, ← Nat.pow_add]
    congr 2
    omega
  obtain hn | rfl := Nat.lt_or_eq_of_le hn
  · have hlog : n.log2 < 53 := (Nat.log2_lt hpos.ne').mpr hn
    have hsum : n.log2 + j = 52 := by omega
    have hlow : binade ≤ n * Nat.pow 2 j := by
      calc
        binade = 2 ^ (n.log2 + j) := by rw [hsum]; rfl
        _ = 2 ^ n.log2 * Nat.pow 2 j := Nat.pow_add ..
        _ ≤ n * Nat.pow 2 j := Nat.mul_le_mul_right _ (Nat.log2_self_le hpos.ne')
    have hhigh : n * Nat.pow 2 j < 2 * binade := by
      calc
        n * Nat.pow 2 j < 2 ^ (n.log2 + 1) * Nat.pow 2 j :=
          Nat.mul_lt_mul_of_pos_right Nat.lt_log2_self (Nat.pow_pos (by decide))
        _ = 2 ^ (n.log2 + 1 + j) := (Nat.pow_add ..).symm
        _ = 2 * binade := by rw [Nat.add_right_comm, hsum]; rfl
    exact ⟨(k - j) * binade + n * Nat.pow 2 j, by rw [units_eq (.inr hlow) hhigh, hsplit]⟩
  · exact ⟨k * binade + 2 * binade, units_top k⟩

theorem unitsOfOne_eq : ∃ k, 52 ≤ k ∧ unitsOfOne = Nat.pow 2 k :=
  ⟨1074, by decide, by decide +kernel⟩

theorem unitsOfOne_pos : 0 < unitsOfOne := by
  decide +kernel

/-- Whole numbers are exact that have no more than 53 binary digits before their last zeros. -/
theorem units_rankOfQuotient_mul_pow {n : Nat} (hn : n ≤ 2 * binade) (i : Nat) :
    units (rankOfQuotient (n * Nat.pow 2 i) 1) = n * Nat.pow 2 i * unitsOfOne := by
  obtain ⟨k, hk, hone⟩ := unitsOfOne_eq
  obtain ⟨rank, hrank⟩ := exists_units_eq hn (Nat.le_add_left_of_le hk : 52 ≤ i + k)
  have hsplit : n * Nat.pow 2 (i + k) = n * Nat.pow 2 i * unitsOfOne := by
    rw [hone]
    simp only [Nat.pow_eq, Nat.pow_add, Nat.mul_assoc]
  rw [hsplit] at hrank
  suffices h : rankOfQuotient (n * Nat.pow 2 i) 1 = rank by rw [h, hrank]
  refine rankOfQuotient_eq (by decide) ?_
  have h := nearest_units rank
  rwa [hrank, Nat.cast_mul, ← div_one ((n * Nat.pow 2 i : Nat) * unitsOfOne : ℚ),
    ← Nat.cast_one] at h

theorem units_rankOfQuotient_one {n : Nat} (hn : n ≤ 2 * binade) :
    units (rankOfQuotient n 1) = n * unitsOfOne := by
  have h := units_rankOfQuotient_mul_pow hn 0
  simpa only [Nat.pow_eq, Nat.pow_zero, Nat.mul_one] using h

theorem rankOfQuotient_le {num den num' den' : Nat} (hden : 0 < den) (hden' : 0 < den')
    (h : num * den' ≤ num' * den) : rankOfQuotient num den ≤ rankOfQuotient num' den' := by
  refine (nearest_rankOfQuotient num hden).le_of_le (nearest_rankOfQuotient num' hden') ?_
  have hpos : (0 : ℚ) < den := Nat.cast_pos.mpr hden
  have hpos' : (0 : ℚ) < den' := Nat.cast_pos.mpr hden'
  rw [div_le_div_iff₀ hpos hpos']
  have hunits : num * unitsOfOne * den' ≤ num' * unitsOfOne * den := by
    calc
      num * unitsOfOne * den' = num * den' * unitsOfOne := Nat.mul_right_comm ..
      _ ≤ num' * den * unitsOfOne := Nat.mul_le_mul_right _ h
      _ = num' * unitsOfOne * den := Nat.mul_right_comm ..
  exact_mod_cast hunits

theorem divRank_le (a : Nat) {b : Nat} (hb : unitsOfOne ≤ units b) : divRank a b ≤ a := by
  have hpos : 0 < units b := unitsOfOne_pos.trans_le hb
  refine (nearest_rankOfQuotient (units a) hpos).le_of_le (nearest_units a) ?_
  rw [div_le_iff₀ (Nat.cast_pos.mpr hpos)]
  exact mul_le_mul_of_nonneg_left (Nat.cast_le.mpr hb) (Nat.cast_nonneg _)

theorem le_mulRank (a : Nat) {b : Nat} (hb : unitsOfOne ≤ units b) : a ≤ mulRank a b := by
  have hone : (0 : ℚ) < unitsOfOne := Nat.cast_pos.mpr unitsOfOne_pos
  have hden : 0 < unitsOfOne * unitsOfOne := Nat.mul_pos unitsOfOne_pos unitsOfOne_pos
  refine (nearest_units a).le_of_le (nearest_rankOfQuotient (units a * units b) hden) ?_
  have hunits : units a * (unitsOfOne * unitsOfOne) ≤ units a * units b * unitsOfOne := by
    calc
      units a * (unitsOfOne * unitsOfOne) = units a * unitsOfOne * unitsOfOne :=
        (Nat.mul_assoc ..).symm
      _ ≤ units a * units b * unitsOfOne := Nat.mul_le_mul_right _ (Nat.mul_le_mul_left _ hb)
  rw [le_div_iff₀ (Nat.cast_pos.mpr hden)]
  exact_mod_cast hunits

end TradingRules.Binary64
