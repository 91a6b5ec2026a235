import TradingRules.Proofs.Json.Reals

namespace TradingRules

namespace Binary64

theorem Decimal.rank_written (d : Decimal) : d.written.rank = d.rank := by
  unfold written
  split
  · next h =>
    have hten : d.digits * Nat.pow 10 (d.exponent.toNat + 1) =
        d.digits * Nat.pow 10 d.exponent.toNat * 10 := by
      rw [Nat.mul_assoc]
      rfl
    have hneg : ¬ (0 : Int) ≤ -1 := by decide
    rw [rank, rank, if_pos h.1, if_neg hneg, hten]
    exact rankOfQuotient_mul _ 1 (by decide)
  · rfl

theorem Decimal.length_toDigits_le {d : Decimal} {n : Nat} (hd : 0 < d.digits)
    (hlt : d.digits * 10 ^ d.exponent.toNat < 10 ^ n) :
    d.exponent.toNat + (Nat.toDigits 10 d.digits).length ≤ n := by
  have hpow : 10 ^ d.exponent.toNat < 10 ^ n := (Nat.le_mul_of_pos_left _ hd).trans_lt hlt
  have hless := (Nat.pow_lt_pow_iff_right (by decide : 1 < 10)).mp hpow
  obtain ⟨k, rfl⟩ := Nat.exists_eq_add_of_lt hless
  rw [Nat.add_assoc, Nat.pow_add, Nat.mul_comm] at hlt
  have hdigits := Nat.lt_of_mul_lt_mul_left hlt
  have hlength := (Nat.length_toDigits_le_iff (by decide) (Nat.succ_pos k)).mpr hdigits
  omega

end Binary64

namespace Json

open Binary64

/-- The rank a magnitude has after it was written and read, if the reader takes it for a number. -/
def rereadRank? (rank : Nat) : Option Nat :=
  scaleByTen (rankOfQuotient (shortest .even rank).written.digits 1) 5
    (shortest .even rank).written.exponent

theorem unitsOfOne_le_units {n : Nat} (hn : 0 < n) : unitsOfOne ≤ units (rankOfQuotient n 1) := by
  have hone : units (rankOfQuotient 1 1) = 1 * unitsOfOne := units_rankOfQuotient_one (by decide)
  have hle : rankOfQuotient 1 1 ≤ rankOfQuotient n 1 :=
    rankOfQuotient_le (by decide) (by decide) (Nat.mul_le_mul_right 1 hn)
  calc
    unitsOfOne = 1 * unitsOfOne := (Nat.one_mul _).symm
    _ = units (rankOfQuotient 1 1) := hone.symm
    _ ≤ units (rankOfQuotient n 1) := units_strictMono.monotone hle

theorem exists_scaleByTen (fuel rank : Nat) {exponent : Int} (hneg : exponent < 0)
    (hfuel : -308 * fuel ≤ exponent) : ∃ r, scaleByTen rank fuel exponent = some r ∧ r ≤ rank := by
  induction fuel generalizing rank exponent with
  | zero => omega
  | succ fuel ih =>
    have hnot : ¬ 0 ≤ exponent := Int.not_le.mpr hneg
    obtain ⟨power, hpower⟩ : ∃ power : Nat → Nat, ∀ n, rankOfQuotient (Nat.pow 10 n) 1 = power n :=
      ⟨_, fun _ ↦ rfl⟩
    have hdiv (n : Nat) : divRank rank (power n) ≤ rank := by
      rw [← hpower]
      exact divRank_le rank (unitsOfOne_le_units (Nat.pow_pos (by decide)))
    rw [scaleByTen]
    simp only [if_neg hnot, hpower]
    split
    · exact ⟨_, rfl, hdiv _⟩
    · split
      · exact ⟨0, rfl, Nat.zero_le _⟩
      · have hstep : exponent + 308 < 0 ∧ -308 * (fuel : Int) ≤ exponent + 308 := by omega
        obtain ⟨r, hr, hle⟩ := ih (divRank rank (power 308)) hstep.1 hstep.2
        exact ⟨r, hr, hle.trans (hdiv 308)⟩

/-- Powers of ten up to the twenty-second are exact, since five to that power is below 2 ^ 53. -/
theorem units_rankOfQuotient_pow {k : Nat} (hk : k ≤ 22) :
    units (rankOfQuotient (Nat.pow 10 k) 1) = Nat.pow 10 k * unitsOfOne := by
  have hfive : Nat.pow 5 k ≤ 2 * binade :=
    (Nat.pow_le_pow_right (by decide : 0 < 5) hk).trans (by decide)
  have hsplit : Nat.pow 10 k = Nat.pow 5 k * Nat.pow 2 k := Nat.mul_pow 5 2 k
  rw [hsplit]
  exact units_rankOfQuotient_mul_pow hfive k

theorem scaleByTen_of_exact {n k : Nat} (hn : n ≤ 2 * binade) (hk : k ≠ 0) (hle : k ≤ 22)
    (fuel : Nat) : scaleByTen (rankOfQuotient n 1) (fuel + 1) (-k) =
      some (rankOfQuotient n (Nat.pow 10 k)) := by
  have habs : (-k : Int).natAbs = k := by omega
  rw [scaleByTen]
  dsimp only
  rw [habs, if_pos (by omega), if_neg (by omega), divRank, units_rankOfQuotient_one hn,
    units_rankOfQuotient_pow hle, rankOfQuotient_mul _ _ unitsOfOne_pos]

section Written

variable {rank : Nat} (hrank : rank ≠ 0) (hlt : rank < rankOfQuotient (10 ^ 14) 1)

include hlt

theorem lt_rankCount_of_lt : rank < rankCount :=
  hlt.trans (by decide +kernel)

include hrank

/-- The shortest decimal of a number below 10 ^ 14 has its last digit after the point, or it is
written with a zero there. -/
theorem written_shortest :
    ((shortest .even rank).exponent < 0 ∧
      (shortest .even rank).written = shortest .even rank) ∨
    ((shortest .even rank).written.exponent = -1 ∧
      (shortest .even rank).written.digits < 10 ^ 15) := by
  obtain ⟨hback, hpos, -⟩ := shortest_spec .even hrank (lt_rankCount_of_lt hlt)
  generalize shortest .even rank = d at *
  by_cases hneg : d.exponent < 0
  · exact .inl ⟨hneg, if_neg (by omega)⟩
  have hwhole : 0 ≤ d.exponent := Int.not_lt.mp hneg
  have hless : d.digits * 10 ^ d.exponent.toNat < 10 ^ 14 := by
    by_contra hge
    have hle : rankOfQuotient (10 ^ 14) 1 ≤ d.rank := by
      rw [Decimal.rank, if_pos hwhole]
      exact rankOfQuotient_le (by decide) (by decide) (Nat.mul_le_mul_right 1 (Nat.not_lt.mp hge))
    omega
  have hlength := Decimal.length_toDigits_le hpos hless
  have hwritten : d.written = ⟨d.digits * Nat.pow 10 (d.exponent.toNat + 1), -1⟩ :=
    if_pos ⟨hwhole, by omega⟩
  rw [hwritten]
  refine .inr ⟨rfl, ?_⟩
  calc
    d.digits * 10 ^ (d.exponent.toNat + 1) = d.digits * 10 ^ d.exponent.toNat * 10 := by
      rw [Nat.pow_succ, Nat.mul_assoc]
    _ < 10 ^ 15 := by omega

theorem digits_written_lt : (shortest .even rank).written.digits < wordLimit := by
  have hmany := (shortest_spec .even hrank (lt_rankCount_of_lt hlt)).2.2
  have hlimit : 10 ^ 18 < wordLimit := by decide
  rcases written_shortest hrank hlt with ⟨-, hwritten⟩ | ⟨-, hdigits⟩
  · rw [hwritten]
    exact hmany.trans_lt hlimit
  · exact hdigits.trans (by decide)

theorem exists_rereadRank : ∃ r, rereadRank? rank = some r ∧ r < rankCount := by
  have hlow := le_exponent_shortest .even hrank (lt_rankCount_of_lt hlt)
  have hexponent : (shortest .even rank).written.exponent < 0 ∧
      -308 * (5 : Nat) ≤ (shortest .even rank).written.exponent := by
    rcases written_shortest hrank hlt with ⟨hneg, hwritten⟩ | ⟨hone, -⟩
    · rw [hwritten]
      omega
    · omega
  have hdigits := digits_written_lt hrank hlt
  unfold rereadRank?
  generalize (shortest .even rank).written = d at *
  obtain ⟨r, hr, hle⟩ := exists_scaleByTen 5 (rankOfQuotient d.digits 1) hexponent.1 hexponent.2
  have hword : rankOfQuotient d.digits 1 ≤ rankOfQuotient wordLimit 1 :=
    rankOfQuotient_le (by decide) (by decide) (Nat.mul_le_mul_right 1 hdigits.le)
  have hfinite : rankOfQuotient wordLimit 1 < rankCount := by decide +kernel
  exact ⟨r, hr, by omega⟩

theorem exists_read?_magnitudeText :
    ∃ m : Numeral, Numeral.read? (magnitudeText documentLayout rank) = some (m, []) ∧
      m.number? = (rereadRank? rank).map fun r ↦ .real (.ofRank false r) := by
  obtain ⟨m, hspells, htext⟩ :=
    exists_spells_magnitudeText hrank (lt_rankCount_of_lt hlt)
  refine ⟨m, ?_, hspells.number?_eq (digits_written_lt hrank hlt)⟩
  rw [htext]
  exact Numeral.read?_text hspells.wellFormed

theorem rereadRank_of_nearest {n j : Nat} (hfew : 2 * n + 10 ≤ 2 * binade) (hj : j ≤ 21)
    (h : rankOfQuotient n (Nat.pow 10 j) = rank) : rereadRank? rank = some rank := by
  have hpos : 0 < Nat.pow 10 j := Nat.pow_pos (by decide)
  have hn : n ≠ 0 := by
    rintro rfl
    have hzero : rankOfQuotient 0 (Nat.pow 10 j) ≤ rankOfQuotient 0 1 :=
      rankOfQuotient_le hpos (by decide) (by rw [Nat.zero_mul, Nat.zero_mul])
    have hnone : rankOfQuotient 0 1 = 0 := by decide +kernel
    omega
  have hnearest : Nearest rank (n * step (-j)) := by
    rw [step_neg, mul_div_assoc', ← h]
    exact nearest_rankOfQuotient n hpos
  have hcount := lt_rankCount_of_lt hlt
  obtain ⟨hdigits, hexponent⟩ := shortest_le .even hrank hcount hn hnearest
  have hback := (shortest_spec .even hrank hcount).1
  have hwritten := written_shortest hrank hlt
  unfold rereadRank?
  generalize shortest .even rank = d at *
  have hexact : d.written.digits ≤ 2 * binade ∧
      ∃ k : Nat, k ≠ 0 ∧ k ≤ 22 ∧ d.written.exponent = -k := by
    rcases hwritten with ⟨hneg, hwritten⟩ | ⟨hone, hsmall⟩
    · rw [hwritten]
      exact ⟨hdigits.trans hfew, d.exponent.natAbs, by omega⟩
    · have hbinade : 10 ^ 15 ≤ 2 * binade := by decide
      exact ⟨hsmall.le.trans hbinade, 1, by omega⟩
  rw [← d.rank_written] at hback
  generalize d.written = w at *
  obtain ⟨hdigits, k, hk, hle, hexponent⟩ := hexact
  have hneg : ¬ 0 ≤ w.exponent := by omega
  have htoNat : (-w.exponent).toNat = k := by omega
  rw [Decimal.rank, if_neg hneg, htoNat] at hback
  rw [hexponent, scaleByTen_of_exact hdigits hk hle, hback]

end Written

theorem read?_minus {cs tail : List Char} {m : Numeral} (h : Numeral.read? cs = some (m, tail))
    (hm : m.negative = false) :
    Numeral.read? ('-' :: cs) = some ({ m with negative := true }, tail) := by
  unfold Numeral.read? at h ⊢
  have hminus : takeMinus ('-' :: cs) = (true, cs) := rfl
  rw [hminus]
  dsimp only at h ⊢
  split at h
  · cases h
  · next hwhole =>
    simp only [Option.bind_eq_bind, Option.bind_eq_some_iff, Option.some.injEq, Prod.mk.injEq] at h
    obtain ⟨⟨f, cs₁⟩, hf, ⟨e, cs₂⟩, he, rfl, rfl⟩ := h
    have hsame : (takeMinus cs).2 = cs := by
      unfold takeMinus at hm ⊢
      split at hm
      · cases hm
      · rfl
    rw [hsame] at hwhole hf ⊢
    rw [if_neg hwhole, Option.bind_eq_bind, hf, Option.bind_some, Option.bind_eq_bind, he]
    rfl

theorem exists_read?_finite {rank : Nat} (hlt : rank < rankCount) :
    ∃ m : Numeral, m.negative = false ∧
      Numeral.read? (magnitudeText documentLayout rank) = some (m, []) := by
  by_cases hrank : rank = 0
  · subst hrank
    exact ⟨⟨false, ['0'], some ['0'], none⟩, rfl, rfl⟩
  · obtain ⟨m, hspells, htext⟩ := exists_spells_magnitudeText hrank hlt
    rw [htext]
    exact ⟨m, hspells.wellFormed.negative, Numeral.read?_text hspells.wellFormed⟩

end Json

theorem Number.readable_real {x : Binary64} (hx : x.isFinite) : (Number.real x).Readable := by
  rw [Readable, Json.writeNumber, if_pos hx]
  cases x with
  | infinite s => cases hx
  | nan => cases hx
  | finite s rank =>
    obtain ⟨m, hm, hread⟩ := Json.exists_read?_finite rank.isLt
    cases s with
    | false => exact ⟨m, by rw [Binary64.text, String.toList_ofList, hread]⟩
    | true =>
      exact ⟨_, by rw [Binary64.text, String.toList_ofList, Json.read?_minus hread hm]⟩

end TradingRules
