import Mathlib.Algebra.Order.Floor.Semiring
import Mathlib.Tactic.FieldSimp
import Mathlib.Tactic.Positivity
import TradingRules.Proofs.Binary64.Rounding

namespace TradingRules.Binary64

namespace Decimal

def value (d : Decimal) : ℚ :=
  d.digits * 10 ^ d.exponent

theorem scaled_eq (d : Decimal) :
    0 < d.scaled.2 ∧ (d.scaled.1 / d.scaled.2 : ℚ) = d.value * unitsOfOne := by
  obtain ⟨digits, exponent⟩ := d
  unfold scaled value
  by_cases h : 0 ≤ exponent
  · obtain ⟨n, rfl⟩ := Int.eq_ofNat_of_zero_le h
    rw [if_pos h, Int.toNat_natCast, Nat.pow_eq, zpow_natCast]
    refine ⟨Nat.one_pos, ?_⟩
    push_cast
    exact div_one _
  · obtain ⟨n, rfl⟩ : ∃ n : Nat, exponent = -n := ⟨exponent.natAbs, by omega⟩
    simp only [h, if_false, neg_neg, Int.toNat_natCast, Nat.pow_eq]
    refine ⟨Nat.pow_pos (by decide), ?_⟩
    rw [zpow_neg, zpow_natCast]
    push_cast
    ring

def rank (d : Decimal) : Nat :=
  if 0 ≤ d.exponent then rankOfQuotient (d.digits * Nat.pow 10 d.exponent.toNat) 1
  else rankOfQuotient d.digits (Nat.pow 10 (-d.exponent).toNat)

theorem nearest_rank (d : Decimal) : Nearest d.rank (d.value * unitsOfOne) := by
  obtain ⟨hden, hvalue⟩ := d.scaled_eq
  rw [← hvalue]
  unfold scaled rank at *
  split at hden
  · next h =>
    rw [if_pos h, if_pos h, Nat.cast_mul]
    exact nearest_rankOfQuotient (d.digits * Nat.pow 10 d.exponent.toNat) Nat.one_pos
  · next h =>
    rw [if_neg h, if_neg h, Nat.cast_mul]
    exact nearest_rankOfQuotient d.digits hden

end Decimal

theorem readsBack_iff {rank : Nat} {d : Decimal} :
    readsBack rank d ↔ Nearest rank (d.value * unitsOfOne) := by
  obtain ⟨hden, hvalue⟩ := d.scaled_eq
  rw [← hvalue, nearest_div_iff hden]
  unfold readsBack
  dsimp only
  split
  · next heven =>
    simp only [Bool.and_eq_true, decide_eq_true_eq]
    exact ⟨fun h ↦ ⟨h.1, h.2, fun hodd ↦ by omega⟩, fun h ↦ ⟨h.1, h.2.1⟩⟩
  · next hodd =>
    simp only [Bool.and_eq_true, decide_eq_true_eq]
    exact ⟨fun h ↦ ⟨h.1.le, h.2.le, fun _ ↦ h⟩, fun h ↦ h.2.2 (by omega)⟩

def step (exponent : Int) : ℚ :=
  10 ^ exponent * unitsOfOne

theorem step_pos (exponent : Int) : 0 < step exponent :=
  mul_pos (zpow_pos (by norm_num) _) (Nat.cast_pos.mpr unitsOfOne_pos)

theorem step_mono {a b : Int} (h : a ≤ b) : step a ≤ step b :=
  mul_le_mul_of_nonneg_right (zpow_le_zpow_right₀ (by norm_num) h) (Nat.cast_nonneg _)

theorem step_add (exponent : Int) (n : Nat) : step (exponent + n) = 10 ^ n * step exponent := by
  unfold step
  rw [zpow_add₀ (by norm_num), zpow_natCast]
  ring

theorem value_mul_unitsOfOne (d : Decimal) : d.value * unitsOfOne = d.digits * step d.exponent :=
  mul_assoc ..

theorem step_ofNat (n : Nat) : step n = (Nat.pow 10 n * unitsOfOne : Nat) := by
  rw [step, zpow_natCast, Nat.pow_eq]
  push_cast
  rfl

theorem step_neg (n : Nat) : step (-n) = unitsOfOne / (Nat.pow 10 n : Nat) := by
  rw [step, zpow_neg, zpow_natCast, Nat.pow_eq, Nat.cast_pow]
  push_cast
  ring

theorem div_mul_le_cast (num : Nat) {den : Nat} (hden : 0 < den) :
    ((num / den : Nat) * den : ℚ) ≤ num ∧ (num : ℚ) < ((num / den : Nat) + 1) * den := by
  constructor
  · exact_mod_cast Nat.div_mul_le_self num den
  · rw [mul_comm]
    exact_mod_cast Nat.lt_mul_div_succ num hden

theorem cut_spec (magnitude : Nat) (exponent : Int) :
    (cut magnitude exponent).1 * step exponent ≤ magnitude ∧
      (magnitude : ℚ) < ((cut magnitude exponent).1 + 1) * step exponent := by
  unfold cut
  by_cases h : 0 ≤ exponent
  · obtain ⟨n, rfl⟩ := Int.eq_ofNat_of_zero_le h
    rw [if_pos h, step_ofNat]
    exact div_mul_le_cast magnitude (Nat.mul_pos (Nat.pow_pos (by decide)) unitsOfOne_pos)
  · rw [if_neg h]
    obtain ⟨n, rfl⟩ : ∃ n : Nat, exponent = -n := ⟨exponent.natAbs, by omega⟩
    have hpow : (0 : ℚ) < (Nat.pow 10 n : Nat) := Nat.cast_pos.mpr (Nat.pow_pos (by decide))
    have hdiv := div_mul_le_cast (magnitude * Nat.pow 10 n) unitsOfOne_pos
    rw [step_neg, neg_neg, Int.toNat_natCast, mul_div_assoc', mul_div_assoc', div_le_iff₀ hpow,
      lt_div_iff₀ hpow]
    exact_mod_cast hdiv

theorem of_onGrid {tie : Tie} {rank : Nat} {exponent : Int} {d : Decimal}
    (h : onGrid tie rank exponent = some d) : d.exponent = exponent ∧
      (d.digits = (cut (units rank) exponent).1 ∨ d.digits = (cut (units rank) exponent).1 + 1) ∧
      readsBack rank d := by
  unfold onGrid at h
  dsimp only at h
  split at h
  · cases h
  · next hbelow _ =>
    obtain rfl := Option.some.inj h
    exact ⟨rfl, .inl rfl, hbelow⟩
  · next _ habove =>
    obtain rfl := Option.some.inj h
    exact ⟨rfl, .inr rfl, habove⟩
  · next hbelow habove =>
    split at h
    · obtain rfl := Option.some.inj h
      exact ⟨rfl, .inl rfl, hbelow⟩
    · obtain rfl := Option.some.inj h
      exact ⟨rfl, .inr rfl, habove⟩
    · split at h
      · obtain rfl := Option.some.inj h
        exact ⟨rfl, .inl rfl, hbelow⟩
      · obtain rfl := Option.some.inj h
        exact ⟨rfl, .inr rfl, habove⟩

theorem exists_onGrid (tie : Tie) {rank : Nat} {exponent : Int}
    (h : readsBack rank ⟨(cut (units rank) exponent).1, exponent⟩ ∨
      readsBack rank ⟨(cut (units rank) exponent).1 + 1, exponent⟩) :
    ∃ d, onGrid tie rank exponent = some d := by
  unfold onGrid
  dsimp only
  split
  · next hbelow habove => simp [hbelow, habove] at h
  · exact ⟨_, rfl⟩
  · exact ⟨_, rfl⟩
  · split
    · exact ⟨_, rfl⟩
    · exact ⟨_, rfl⟩
    · split <;> exact ⟨_, rfl⟩

/-- If any decimal of a grid is read back, one of the two next to the magnitude is. -/
theorem exists_onGrid_of_nearest (tie : Tie) {rank n : Nat} {exponent : Int}
    (h : Nearest rank (n * step exponent)) : ∃ d, onGrid tie rank exponent = some d := by
  obtain ⟨hbelow, habove⟩ := cut_spec (units rank) exponent
  have hpos := step_pos exponent
  refine exists_onGrid tie ?_
  simp only [readsBack_iff, value_mul_unitsOfOne]
  generalize (cut (units rank) exponent).1 = k at *
  obtain hn | hn := Nat.lt_or_ge k n
  · have hn : ((k + 1 : Nat) : ℚ) * step exponent ≤ n * step exponent :=
      mul_le_mul_of_nonneg_right (Nat.cast_le.mpr hn) hpos.le
    refine .inr ((nearest_units rank).between h ?_ hn)
    push_cast
    exact habove.le
  · have hn : (n : ℚ) * step exponent ≤ k * step exponent :=
      mul_le_mul_of_nonneg_right (Nat.cast_le.mpr hn) hpos.le
    exact .inl (h.between (nearest_units rank) hn hbelow)

theorem lt_step_iff (magnitude k j : Nat) : (magnitude : ℚ) < step (k + 1 - j) ↔
    magnitude * Nat.pow 10 j < Nat.pow 10 (k + 1) * unitsOfOne := by
  have hpow : (0 : ℚ) < 10 ^ j := pow_pos (by norm_num) _
  have hsucc : ((k : Int) + 1) = (k + 1 : Nat) := rfl
  rw [← mul_lt_mul_iff_left₀ hpow, mul_comm (step _), ← step_add, sub_add_cancel, hsucc, step_ofNat]
  exact_mod_cast Iff.rfl

theorem leadingPlace_spec {magnitude : Nat} (fuel n : Nat)
    (hlow : step (n - 330) ≤ magnitude) (hhigh : (magnitude : ℚ) < step (n + fuel + 1 - 330)) :
    step (leadingPlace magnitude fuel n) ≤ magnitude ∧
      (magnitude : ℚ) < step (leadingPlace magnitude fuel n + 1) := by
  induction fuel generalizing n with
  | zero => exact ⟨hlow, by simpa [leadingPlace, sub_add_eq_add_sub] using hhigh⟩
  | succ fuel ih =>
    rw [leadingPlace]
    split
    · next h =>
      simp only [← lt_step_iff] at h
      refine ⟨hlow, ?_⟩
      rw [sub_add_eq_add_sub]
      exact h
    · next h =>
      simp only [← lt_step_iff, not_lt] at h
      refine ih (n + 1) ?_ ?_
      · push_cast
        exact h
      · refine lt_of_lt_of_eq hhigh ?_
        push_cast
        ring_nf

theorem exists_search (tie : Tie) {rank : Nat} {place : Int} {c : Nat}
    (hc : ∃ d, onGrid tie rank (place - c) = some d) (fuel : Nat) {count : Nat}
    (hle : count ≤ c) (hlt : c < count + fuel) :
    ∃ c', c' ≤ c ∧ onGrid tie rank (place - c') = some (search tie rank place fuel count) := by
  induction fuel generalizing count with
  | zero => omega
  | succ fuel ih =>
    rw [search]
    split
    · next d hd => exact ⟨count, hle, hd⟩
    · next hnone =>
      have hne : count ≠ c := by
        rintro rfl
        obtain ⟨d, hd⟩ := hc
        rw [hnone] at hd
        cases hd
      exact ih (by omega) (by omega)

variable {rank : Nat} {place : Int}

theorem exists_onGrid_eighteen (tie : Tie) (hrank : rank ≠ 0) (hlow : step place ≤ units rank) :
    ∃ d, onGrid tie rank (place - (17 : Nat)) = some d := by
  obtain ⟨hbelow, habove⟩ := cut_spec (units rank) (place - (17 : Nat))
  refine exists_onGrid tie (.inl ?_)
  rw [readsBack_iff, value_mul_unitsOfOne]
  dsimp only
  generalize (cut (units rank) (place - (17 : Nat))).1 = k at *
  have hplace : step place = 10 ^ 17 * step (place - (17 : Nat)) := by
    rw [← step_add, sub_add_cancel]
  have hpos := step_pos (place - (17 : Nat))
  obtain ⟨r, rfl⟩ := Nat.exists_eq_succ_of_ne_zero hrank
  have hgap : (units (r + 1) : ℚ) ≤ 2 * binade * (units (r + 1) - units r) := by
    have h := units_succ_le r
    have hlt := (units_lt_succ r).le
    rw [← Nat.cast_sub hlt]
    exact_mod_cast h
  have hbinade : (binade : ℚ) = 4503599627370496 := by norm_num [binade]
  have hnext : (units (r + 1) : ℚ) < units (r + 1 + 1) := by exact_mod_cast units_lt_succ (r + 1)
  rw [hbinade] at hgap
  rw [hplace] at hlow
  rw [Nat.succ_eq_add_one] at *
  have hlow' : (units (r + 1 - 1) + units (r + 1) : ℚ) < 2 * (k * step (place - (17 : Nat))) := by
    rw [Nat.add_sub_cancel]
    linarith
  have hhigh' : 2 * (k * step (place - (17 : Nat))) < units (r + 1) + units (r + 1 + 1) := by
    linarith
  exact ⟨hlow'.le, hhigh'.le, fun _ ↦ ⟨hlow', hhigh'⟩⟩

theorem cut_bounds {magnitude : Nat} (hlow : step place ≤ magnitude)
    (hhigh : (magnitude : ℚ) < step (place + 1)) (c : Nat) :
    10 ^ c ≤ (cut magnitude (place - c)).1 ∧ (cut magnitude (place - c)).1 < 10 ^ (c + 1) := by
  obtain ⟨hbelow, habove⟩ := cut_spec magnitude (place - c)
  have hplace : step place = 10 ^ c * step (place - c) := by
    rw [← step_add, sub_add_cancel]
  have hnext : step (place + 1) = 10 ^ (c + 1) * step (place - c) := by
    rw [← step_add]
    congr 1
    push_cast
    ring
  have hpos := step_pos (place - c)
  generalize (cut magnitude (place - c)).1 = k at *
  constructor
  · have h : (10 : ℚ) ^ c * step (place - c) < (k + 1) * step (place - c) := by linarith
    have h := lt_of_mul_lt_mul_right h hpos.le
    exact Nat.lt_succ_iff.mp (by exact_mod_cast h)
  · have h : (k : ℚ) * step (place - c) < 10 ^ (c + 1) * step (place - c) := by linarith
    have h := lt_of_mul_lt_mul_right h hpos.le
    exact_mod_cast h

theorem step_neg_le_one {n : Nat} (h : unitsOfOne ≤ Nat.pow 10 n) : step (-n) ≤ 1 := by
  have hpow : (0 : ℚ) < (Nat.pow 10 n : Nat) := Nat.cast_pos.mpr (Nat.pow_pos (by decide))
  rw [step_neg, div_le_one hpow]
  exact_mod_cast h

theorem leadingPlace_units (hrank : rank ≠ 0) (hlt : rank < rankCount) :
    step (leadingPlace (units rank) 660 0) ≤ units rank ∧
      (units rank : ℚ) < step (leadingPlace (units rank) 660 0 + 1) := by
  have hone : step (-(330 : Nat)) ≤ 1 := step_neg_le_one (by decide +kernel)
  have htop : (units rank : ℚ) < step (331 : Nat) := by
    rw [step_ofNat, Nat.cast_lt]
    exact (units_strictMono hlt).trans (by decide +kernel)
  have hpos : (1 : ℚ) ≤ units rank := by exact_mod_cast units_pos hrank
  exact leadingPlace_spec 660 0 (hone.trans hpos) htop

def Decimal.normal (d : Decimal) : Decimal :=
  if d.digits = 10 then ⟨1, d.exponent + 1⟩ else d

theorem Decimal.value_normal (d : Decimal) : d.normal.value = d.value := by
  unfold normal
  split
  · next h =>
    rw [value, value, h, zpow_add₀ (by norm_num)]
    push_cast
    ring
  · rfl

/-- What is known of the shortest decimal if there is any decimal with its last digit at a place. -/
theorem exists_shortest (tie : Tie) (hrank : rank ≠ 0) (hlt : rank < rankCount) {c : Nat}
    (hc : ∃ d, onGrid tie rank (leadingPlace (units rank) 660 0 - c) = some d) :
    ∃ c' d, c' ≤ c ∧ c' ≤ 17 ∧ onGrid tie rank (leadingPlace (units rank) 660 0 - c') = some d ∧
      shortest tie rank = d.normal := by
  have hlow := (leadingPlace_units hrank hlt).1
  by_cases h : c ≤ 17
  · obtain ⟨c', hle, hd⟩ := exists_search tie hc 18 (Nat.zero_le c) (by omega)
    exact ⟨c', _, hle, by omega, hd, rfl⟩
  · obtain ⟨c', hle, hd⟩ :=
      exists_search tie (exists_onGrid_eighteen tie hrank hlow) 18 (Nat.zero_le 17) (by omega)
    exact ⟨c', _, by omega, hle, hd, rfl⟩

theorem shortest_spec (tie : Tie) (hrank : rank ≠ 0) (hlt : rank < rankCount) :
    (shortest tie rank).rank = rank ∧ 0 < (shortest tie rank).digits ∧
      (shortest tie rank).digits ≤ 10 ^ 18 := by
  obtain ⟨hlow, hhigh⟩ := leadingPlace_units hrank hlt
  obtain ⟨c, d, -, hc, hd, hshortest⟩ :=
    exists_shortest tie hrank hlt (exists_onGrid_eighteen tie hrank hlow)
  obtain ⟨-, hdigits, hback⟩ := of_onGrid hd
  obtain ⟨hfew, hmany⟩ := cut_bounds hlow hhigh c
  have hpos : 0 < 10 ^ c := Nat.pow_pos (by decide)
  have hmost : 10 ^ (c + 1) ≤ 10 ^ 18 := Nat.pow_le_pow_right (by decide) (by omega)
  rw [hshortest]
  refine ⟨?_, ?_, ?_⟩
  · have hnearest := d.normal.nearest_rank
    rw [d.value_normal] at hnearest
    exact hnearest.unique (readsBack_iff.mp hback)
  · unfold Decimal.normal
    split
    · exact Nat.one_pos
    · omega
  · unfold Decimal.normal
    split
    · exact Nat.one_le_pow _ _ (by decide)
    · omega

theorem le_leadingPlace (magnitude fuel n : Nat) :
    (n : Int) - 330 ≤ leadingPlace magnitude fuel n := by
  induction fuel generalizing n with
  | zero => exact Int.le_refl _
  | succ fuel ih =>
    rw [leadingPlace]
    split
    · exact Int.le_refl _
    · have h := ih (n + 1)
      omega

theorem Decimal.normal_le (d : Decimal) :
    d.normal.digits ≤ d.digits ∧ d.exponent ≤ d.normal.exponent := by
  unfold normal
  split
  · next h =>
    rw [h]
    exact ⟨Nat.one_le_ofNat, Int.le_add_one (Int.le_refl _)⟩
  · exact ⟨Nat.le_refl _, Int.le_refl _⟩

theorem le_exponent_shortest (tie : Tie) (hrank : rank ≠ 0) (hlt : rank < rankCount) :
    -347 ≤ (shortest tie rank).exponent := by
  have hlow := (leadingPlace_units hrank hlt).1
  obtain ⟨c, d, -, hc, hd, hshortest⟩ :=
    exists_shortest tie hrank hlt (exists_onGrid_eighteen tie hrank hlow)
  have hexponent := (of_onGrid hd).1
  have hplace := le_leadingPlace (units rank) 660 0
  have hnormal := d.normal_le.2
  rw [hshortest]
  omega

theorem units_succ_le_twice (hrank : rank ≠ 0) : units (rank + 1) ≤ 2 * units rank := by
  obtain ⟨scale, q, rfl, hq, hlt⟩ := exists_scale rank
  have hpos : q ≠ 0 := by
    rintro rfl
    obtain rfl := hq.resolve_right (by decide)
    exact hrank rfl
  rw [units_eq hq hlt, units_succ hq hlt, ← Nat.mul_assoc]
  exact Nat.mul_le_mul_right _ (by omega)

theorem step_neg_succ (j : Nat) : step (-j) = 10 * step (-(j + 1 : Nat)) := by
  have h := step_add (-(j + 1 : Nat)) 1
  rw [pow_one] at h
  rw [← h]
  congr 1
  push_cast
  ring

theorem cut_le_twice {n : Nat} {exponent : Int} (h : Nearest rank (n * step exponent)) :
    (cut (units rank) exponent).1 ≤ 2 * n := by
  have hcut := (cut_spec (units rank) exponent).1
  have hpred : (0 : ℚ) ≤ units (rank - 1) := Nat.cast_nonneg _
  have hunits : (units rank : ℚ) ≤ 2 * n * step exponent := by linarith [h.low]
  have hle := le_of_mul_le_mul_right (hcut.trans hunits) (step_pos exponent)
  exact_mod_cast hle

/-- A number that is nearest to some decimal has its leading digit no lower than next to the last
digit of the decimal. -/
theorem le_place (hrank : rank ≠ 0) (hhigh : (units rank : ℚ) < step (place + 1)) {n j : Nat}
    (hn : n ≠ 0) (h : Nearest rank (n * step (-j))) : -(j + 1 : Nat) ≤ place := by
  by_contra hless
  have hsucc : (units (rank + 1) : ℚ) ≤ 2 * units rank := by
    exact_mod_cast units_succ_le_twice hrank
  have hpos : (1 : ℚ) ≤ n := by exact_mod_cast Nat.pos_of_ne_zero hn
  have hone : step (-j) ≤ n * step (-j) := le_mul_of_one_le_left (step_pos _).le hpos
  have hmono : step (place + 1) ≤ step (-(j + 1 : Nat)) := step_mono (by omega)
  linarith [h.high, step_neg_succ j]

/-- What is found on a grid has no more digits than a decimal needs on that grid or a finer one. -/
theorem digits_le_of_onGrid {tie : Tie} (hlow : step place ≤ units rank)
    (hhigh : (units rank : ℚ) < step (place + 1)) {c c' n : Nat} {d : Decimal} (hle : c' ≤ c)
    (hd : onGrid tie rank (place - c') = some d) (h : Nearest rank (n * step (place - c))) :
    d.digits ≤ 2 * n + 1 := by
  have htwice := cut_le_twice h
  have hdigits := (of_onGrid hd).2.1
  obtain heq | hless := Nat.eq_or_lt_of_le hle
  · rw [heq] at hdigits
    omega
  · have hmore : 10 ^ (c' + 1) ≤ 10 ^ c := Nat.pow_le_pow_right (by decide) hless
    have hfew := (cut_bounds hlow hhigh c').2
    have hfew' := (cut_bounds hlow hhigh c).1
    omega

/-- A number that is nearest to some decimal is not written with many more digits, nor with more
than one place more. -/
theorem shortest_le (tie : Tie) (hrank : rank ≠ 0) (hlt : rank < rankCount) {n j : Nat}
    (hn : n ≠ 0) (h : Nearest rank (n * step (-j))) :
    (shortest tie rank).digits ≤ 2 * n + 10 ∧ -(j + 1 : Nat) ≤ (shortest tie rank).exponent := by
  obtain ⟨hlow, hhigh⟩ := leadingPlace_units hrank hlt
  have hfound := @exists_shortest rank tie hrank hlt
  generalize leadingPlace (units rank) 660 0 = place at *
  have hplace := le_place hrank hhigh hn h
  by_cases hfine : -(j : Int) ≤ place
  · obtain ⟨c, hc⟩ : ∃ c : Nat, place = c - j := ⟨(place + j).toNat, by omega⟩
    have hgrid : -(j : Int) = place - c := by omega
    rw [hgrid] at h
    obtain ⟨c', d, hle, -, hd, hshortest⟩ := hfound (exists_onGrid_of_nearest tie h)
    have hexponent := (of_onGrid hd).1
    have hdigits := digits_le_of_onGrid hlow hhigh hle hd h
    have hnormal := d.normal_le
    rw [hshortest]
    omega
  · -- The leading digit stands after the last one of the decimal, as in 0.00999... for 0.01.
    have hgrid : -(j + 1 : Nat) = place - (0 : Nat) := by omega
    have hten : (n * step (-j) : ℚ) = (10 * n : Nat) * step (-(j + 1 : Nat)) := by
      rw [step_neg_succ]
      push_cast
      ring
    rw [hten, hgrid] at h
    obtain ⟨c', d, hle, -, hd, hshortest⟩ := hfound (exists_onGrid_of_nearest tie h)
    obtain rfl := Nat.le_zero.mp hle
    obtain ⟨hexponent, hdigits, -⟩ := of_onGrid hd
    have hfew := (cut_bounds hlow hhigh 0).2
    have hnormal := d.normal_le
    rw [hshortest]
    omega

end TradingRules.Binary64
