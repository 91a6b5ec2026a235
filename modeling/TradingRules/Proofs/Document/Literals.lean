import TradingRules.Proofs.Binary64.Overflow
import TradingRules.Proofs.Document.Counts
import TradingRules.Proofs.Json.Literals
import TradingRules.Proofs.Json.Rereading

namespace TradingRules

open Binary64

namespace Binary64

theorem rankOfQuotient_lt_rankCount {n : ℕ} (hn : n ≤ 2 * binade) :
    rankOfQuotient n 1 < rankCount := by
  have hle : rankOfQuotient n 1 ≤ rankOfQuotient (2 * binade) 1 :=
    rankOfQuotient_le (by decide) (by decide) (Nat.mul_le_mul_right 1 hn)
  exact hle.trans_lt (by decide +kernel)

theorem rankOfQuotient_zero (den : ℕ) : rankOfQuotient 0 den = 0 := by
  simp [rankOfQuotient, roundQuotient]

theorem rankOfQuotient_mul_self (n : ℕ) {c : ℕ} (hc : 0 < c) :
    rankOfQuotient (n * c) c = rankOfQuotient n 1 := by
  have h := rankOfQuotient_mul n 1 hc
  rwa [Nat.one_mul] at h

theorem place?_ofRank (negative : Bool) {rank : ℕ} (h : rank < rankCount) :
    (ofRank negative rank).place? = some (if negative then -(units rank : ℤ) else units rank) := by
  rw [ofRank, dif_pos h]
  cases negative <;> rfl

end Binary64

theorem Number.is_ofRank {negative : Bool} {rank n : ℕ} (h : rank < rankCount)
    (hunits : units rank = n * unitsOfOne) (hsign : negative → n = 0) :
    (Number.real (ofRank negative rank)).Is n := by
  refine .real ((isFinite_ofRank negative rank).mpr h) ?_
  rw [place?_ofRank negative h, hunits]
  cases negative with
  | false => rfl
  | true =>
    obtain rfl := hsign rfl
    simp

theorem Number.is_integer_iff {z : ℤ} {n : ℕ} : (Number.integer z).Is n ↔ z = n := by
  constructor
  · intro h
    cases h
    rfl
  · rintro rfl
    exact .integer n

namespace Json

theorem exists_of_takeDigits {cs : List Char} {n : ℕ} (hcs : ∀ c ∈ cs, c.isDigit)
    (hn : n < wordLimit) (hlarge : wordLimit ≤ Nat.ofDigitChars 10 cs n) :
    ∃ s c rest, takeDigits n cs = (s, c :: rest) ∧ wordLimit ≤ 10 * s + 9 := by
  induction cs generalizing n with
  | nil => exact absurd hn (Nat.not_lt.mpr hlarge)
  | cons c cs ih =>
    rw [List.forall_mem_cons] at hcs
    rw [Nat.ofDigitChars_cons] at hlarge
    have hdigit : c.toNat - 48 ≤ 9 := by
      have hbounds : 48 ≤ c.toNat ∧ c.toNat ≤ 57 := Char.isDigit_iff_toNat.mp hcs.1
      omega
    rw [takeDigits]
    by_cases hnext : 10 * n + (c.toNat - 48) < wordLimit
    · obtain ⟨s, d, rest, htake, hs⟩ := ih hcs.2 hnext hlarge
      exact ⟨s, d, rest, (if_pos hnext).trans htake, hs⟩
    · exact ⟨n, c, cs, if_neg hnext, by omega⟩

theorem le_of_scaleByTen {rank fuel r : ℕ} {exponent : ℤ} (hrank : rank ≠ 0) (hexp : 0 ≤ exponent)
    (h : scaleByTen rank fuel exponent = some r) : rank ≤ r ∧ r < rankCount := by
  cases fuel with
  | zero => cases h
  | succ fuel =>
    rw [scaleByTen] at h
    dsimp only at h
    rw [if_pos hexp, if_neg hrank, if_pos hexp] at h
    split at h
    · split at h
      · next hlt =>
        obtain rfl := Option.some.inj h
        have hpow : 0 < Nat.pow 10 exponent.toNat := Nat.pow_pos (by decide)
        exact ⟨le_mulRank rank (unitsOfOne_le_units hpow), hlt⟩
      · cases h
    · cases h

theorem scaleByTen_zero (fuel : ℕ) (exponent : ℤ) : scaleByTen 0 (fuel + 1) exponent = some 0 := by
  have hmul (b : ℕ) : mulRank 0 b = 0 := by
    rw [mulRank, units_zero, Nat.zero_mul, rankOfQuotient_zero]
  have hdiv (b : ℕ) : divRank 0 b = 0 := by
    rw [divRank, units_zero, rankOfQuotient_zero]
  rw [scaleByTen]
  simp only [hmul, hdiv]
  split
  · split <;> rfl
  · rfl

/-- An exact multiple of a power of ten that is a whole number is that number. -/
theorem scaleByTen_eq_whole {d n : ℕ} {t : ℤ} (hd : d ≤ 2 * binade) (hlow : -22 ≤ t)
    (hhigh : t ≤ 22) (hn : n ≤ 2 * binade) (h : (d * 10 ^ t : ℚ) = n) (fuel : ℕ) :
    scaleByTen (rankOfQuotient d 1) (fuel + 1) t = some (rankOfQuotient n 1) := by
  obtain ⟨k, ht⟩ := Int.eq_nat_or_neg t
  have hk : k ≤ 22 := by omega
  by_cases hneg : t < 0
  · obtain rfl : t = -k := by omega
    have hdigits : d = n * Nat.pow 10 k := by
      rw [zpow_neg, zpow_natCast, ← div_eq_mul_inv, div_eq_iff (by positivity)] at h
      exact_mod_cast h
    have hpow : 0 < Nat.pow 10 k := Nat.pow_pos (by decide)
    rw [scaleByTen_of_exact hd (by omega) hk, hdigits, rankOfQuotient_mul_self n hpow]
  · obtain rfl : t = k := by omega
    have hproduct : mulRank (rankOfQuotient d 1) (rankOfQuotient (Nat.pow 10 k) 1) =
        rankOfQuotient n 1 := by
      rw [zpow_natCast] at h
      have hnat : d * Nat.pow 10 k = n := by exact_mod_cast h
      have hone : 0 < unitsOfOne * unitsOfOne := Nat.mul_pos unitsOfOne_pos unitsOfOne_pos
      rw [mulRank, units_rankOfQuotient_one hd, units_rankOfQuotient_pow hk, Nat.mul_mul_mul_comm,
        hnat, rankOfQuotient_mul_self n hone]
    rw [scaleByTen]
    dsimp only
    rw [Int.natAbs_natCast, if_pos (by omega), if_pos (by omega), Int.toNat_natCast, hproduct,
      if_pos (rankOfQuotient_lt_rankCount hn)]

namespace Numeral

def IsPlain (m : Numeral) : Prop :=
  m.negative = false ∧ m.fraction = none ∧ m.exponent = none

def digits (m : Numeral) : ℕ :=
  Nat.ofDigitChars 10 (m.whole ++ m.fraction.getD []) 0

def scale (m : Numeral) : ℤ :=
  m.exponent.getD 0 - (m.fraction.getD []).length

def value (m : Numeral) : ℚ :=
  (if m.negative then -1 else 1) * (m.digits * 10 ^ m.scale)

/-- Digits and exponent are small enough for binary64 to hold them and the power of ten, or nothing
but zeros are multiplied. -/
def IsShort (m : Numeral) : Prop :=
  m.digits = 0 ∨ (m.digits ≤ 2 * binade ∧ -22 ≤ m.scale ∧ m.scale ≤ 22)

variable {m : Numeral} {cs : List Char} {n : ℕ}

theorem number?_of_whole (h : m.SpelledBy cs) (hf : m.fraction = none) (he : m.exponent = none) :
    m.number? =
      if m.negative then
        if m.digits ≠ 0 ∧ 2 * m.digits ≤ wordLimit then some (.integer (-m.digits))
        else if m.digits < wordLimit then some (.real (Binary64.ofNat m.digits).negate)
        else m.real?.map .real
      else if m.digits < wordLimit then some (.integer m.digits)
      else m.real?.map .real := by
  have hdigits : m.digits = Nat.ofDigitChars 10 m.whole 0 := by
    rw [digits, hf, Option.getD_none, List.append_nil]
  rw [number?, hf, he, digitsValue?_eq_some_iff.mpr ⟨h.whole, hdigits.symm⟩]

theorem magnitude_of_value (h : m.value = n) :
    (m.digits * 10 ^ m.scale : ℚ) = n ∧ (m.negative → n = 0) := by
  have hpos : (0 : ℚ) ≤ m.digits * 10 ^ m.scale :=
    mul_nonneg (Nat.cast_nonneg _) (zpow_nonneg (by norm_num) _)
  have hn : (0 : ℚ) ≤ n := Nat.cast_nonneg n
  rw [value] at h
  cases hsign : m.negative with
  | false => simpa [hsign] using h
  | true =>
    simp only [hsign, if_true] at h
    have hzero : (n : ℚ) = 0 := by linarith
    refine ⟨by linarith, fun _ ↦ ?_⟩
    exact_mod_cast hzero

theorem scaleByTen_of_isShort (hshort : m.IsShort) (h : (m.digits * 10 ^ m.scale : ℚ) = n)
    (hn : n ≤ 2 * binade) (fuel : ℕ) :
    scaleByTen (rankOfQuotient m.digits 1) (fuel + 1) m.scale = some (rankOfQuotient n 1) := by
  obtain hzero | ⟨hdigits, hlow, hhigh⟩ := hshort
  · obtain rfl : n = 0 := by
      rw [hzero, Nat.cast_zero, zero_mul] at h
      exact_mod_cast h.symm
    rw [hzero, rankOfQuotient_zero, scaleByTen_zero]
  · exact scaleByTen_eq_whole hdigits hlow hhigh hn h fuel

/-- A short numeral, in whatever notation, that stands for a whole number is read as that number. -/
theorem number?_of_isShort (h : m.SpelledBy cs) (hshort : m.IsShort) (hvalue : m.value = n)
    (hn : n ≤ 2 * binade) : ∃ k, m.number? = some k ∧ k.Is n := by
  obtain ⟨hmagnitude, hsign⟩ := magnitude_of_value hvalue
  have hlt : m.digits < wordLimit := by
    obtain hzero | ⟨hdigits, -⟩ := hshort
    · rw [hzero]
      decide
    · exact hdigits.trans_lt (by decide)
  by_cases hreal : m.fraction ≠ none ∨ m.exponent ≠ none
  · have hscale := scaleByTen_of_isShort hshort hmagnitude hn 4
    refine ⟨_, ?_, Number.is_ofRank (rankOfQuotient_lt_rankCount hn) (units_rankOfQuotient_one hn)
      hsign⟩
    rw [number?_of_isReal hreal, real?_eq rfl hlt]
    change ((scaleByTen (rankOfQuotient m.digits 1) 5 m.scale).map _).map _ = _
    rw [hscale]
    rfl
  · rw [not_or, not_not, not_not] at hreal
    have hnumber := number?_of_whole h hreal.1 hreal.2
    have hscale : m.scale = 0 := by simp [scale, hreal]
    have hdigits : m.digits = n := by
      rw [hscale, zpow_zero, mul_one] at hmagnitude
      exact_mod_cast hmagnitude
    cases hnegative : m.negative with
    | false =>
      rw [hnegative, if_neg (by decide), if_pos hlt, hdigits] at hnumber
      exact ⟨_, hnumber, .integer n⟩
    | true =>
      obtain rfl := hsign hnegative
      rw [hnegative, if_pos rfl, hdigits] at hnumber
      exact ⟨_, hnumber, .real (by decide +kernel) (by decide +kernel)⟩

theorem not_is_of_real? (h : m.SpelledBy cs) (hf : m.fraction = none) (he : m.exponent = none)
    (hlarge : wordLimit ≤ m.digits) {x : Binary64} (hx : m.real? = some x) (hn : n < UInt32.size) :
    ¬ (Number.real x).Is n := by
  rw [digits, hf, Option.getD_none, List.append_nil] at hlarge
  obtain ⟨s, c, rest, htake, hs⟩ := exists_of_takeDigits h.whole (by decide) hlarge
  have hs : UInt32.size ≤ s := by
    have hsizes : 10 * UInt32.size + 9 ≤ wordLimit := by decide
    omega
  have hreal : m.real? = (scaleByTen (rankOfQuotient s 1) 5 (rest.length + 1 : ℕ)).map
      (.ofRank m.negative) := by
    simp [real?, htake, hf, he, takeDigits]
  rw [hreal] at hx
  obtain ⟨r, hr, rfl⟩ := Option.map_eq_some_iff.mp hx
  have hunits : UInt32.size * unitsOfOne ≤ units (rankOfQuotient s 1) := by
    rw [← units_rankOfQuotient_one (by decide : UInt32.size ≤ 2 * binade)]
    exact units_strictMono.monotone
      (rankOfQuotient_le (by decide) (by decide) (Nat.mul_le_mul_right 1 hs))
  have hpos : rankOfQuotient s 1 ≠ 0 := by
    intro hzero
    rw [hzero, units_zero] at hunits
    exact absurd hunits (Nat.not_le.mpr (Nat.mul_pos (by decide) unitsOfOne_pos))
  obtain ⟨hle, hlt⟩ := le_of_scaleByTen hpos (Int.natCast_nonneg _) hr
  have hbig : n * unitsOfOne < units r := by
    calc
      n * unitsOfOne < UInt32.size * unitsOfOne := Nat.mul_lt_mul_of_pos_right hn unitsOfOne_pos
      _ ≤ units (rankOfQuotient s 1) := hunits
      _ ≤ units r := units_strictMono.monotone hle
  intro hint
  cases hint with
  | real _ hplace =>
    rw [place?_ofRank m.negative hlt, Option.some_inj] at hplace
    generalize n * unitsOfOne = u at hbig hplace
    split at hplace <;> omega

theorem number?_of_isPlain (h : m.SpelledBy cs) (hplain : m.IsPlain) {k : Number}
    (hk : m.number? = some k) (hn : n < UInt32.size) : k.Is n ↔ m.digits = n := by
  obtain ⟨hsign, hf, he⟩ := hplain
  rw [number?_of_whole h hf he, hsign, if_neg (by decide)] at hk
  split at hk
  · obtain rfl := Option.some.inj hk
    rw [Number.is_integer_iff, Nat.cast_inj]
  · next hlarge =>
    rw [Nat.not_lt] at hlarge
    obtain ⟨x, hx, rfl⟩ := Option.map_eq_some_iff.mp hk
    refine iff_of_false (not_is_of_real? h hf he hlarge hx hn) ?_
    rintro rfl
    exact absurd (hn.trans_le (by decide : UInt32.size ≤ wordLimit)) (Nat.not_lt.mpr hlarge)

/-- The text of a numeral is a count only if it consists of digits. -/
theorem spellsCount_iff (h : m.SpelledBy cs) : SpellsCount cs n ↔ m.IsPlain ∧ m.digits = n := by
  obtain ⟨hwhole, hne, -, -, es, hes, hcs⟩ := h
  have hdigits (hf : m.fraction = none) : m.digits = Nat.ofDigitChars 10 m.whole 0 := by
    rw [digits, hf, Option.getD_none, List.append_nil]
  constructor
  · intro hcount
    cases hcount with
    | plain _ hds =>
      have hno {c : Char} (hc : c.isDigit = false) : c ∉ cs := by
        intro hmem
        exact Bool.false_ne_true (hc.symm.trans (hds c hmem))
      have hsign : m.negative = false := by
        by_contra hsign
        rw [Bool.not_eq_false] at hsign
        exact hno (by decide : '-'.isDigit = false) (by simp [hcs, hsign, signText])
      have hf : m.fraction = none := by
        by_contra hf
        obtain ⟨fs, hf⟩ := Option.ne_none_iff_exists'.mp hf
        exact hno (by decide : '.'.isDigit = false) (by simp [hcs, hf, fractionText])
      have he : es = [] ∧ m.exponent = none := by
        generalize m.exponent = e at hes ⊢
        cases hes with
        | absent => exact ⟨rfl, rfl⟩
        | small => exact absurd (by simp [hcs]) (hno (by decide : 'e'.isDigit = false))
        | capital => exact absurd (by simp [hcs]) (hno (by decide : 'E'.isDigit = false))
      refine ⟨⟨hsign, hf, he.2⟩, ?_⟩
      rw [hdigits hf, hcs, hsign, hf, he.1]
      simp [signText, fractionText]
    | plus _ hds =>
      obtain ⟨d, ds, hd⟩ := List.exists_cons_of_ne_nil hne
      have hdigit : d.isDigit := hwhole d (by simp [hd])
      rw [hd] at hcs
      cases hsign : m.negative with
      | true => simp [hsign, signText] at hcs
      | false =>
        simp only [hsign, signText, Bool.false_eq_true, if_false, List.nil_append,
          List.cons_append, List.cons.injEq] at hcs
        rw [← hcs.1] at hdigit
        exact absurd hdigit (by decide)
  · rintro ⟨⟨hsign, hf, he⟩, rfl⟩
    obtain rfl : es = [] := by
      rw [he] at hes
      cases hes
      rfl
    have hcs : cs = m.whole := by simp [hcs, hsign, hf, signText, fractionText]
    rw [hcs, hdigits hf]
    exact .plain hne hwhole

end Numeral

end Json

end TradingRules
