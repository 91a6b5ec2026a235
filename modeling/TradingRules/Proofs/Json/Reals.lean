import TradingRules.Proofs.Binary64.Shortest
import TradingRules.Proofs.Json.Numerals

namespace TradingRules

namespace Json

theorem ofDigitChars_mono (cs : List Char) (n : Nat) : n ≤ Nat.ofDigitChars 10 cs n := by
  rw [Nat.ofDigitChars_eq_ofDigitChars_zero]
  exact (Nat.le_mul_of_pos_left n (Nat.pow_pos (by decide))).trans (Nat.le_add_right _ _)

theorem takeDigits_eq {cs : List Char} {n : Nat} (h : Nat.ofDigitChars 10 cs n < wordLimit) :
    takeDigits n cs = (Nat.ofDigitChars 10 cs n, []) := by
  induction cs generalizing n with
  | nil => rfl
  | cons c cs ih =>
    rw [Nat.ofDigitChars_cons] at h ⊢
    have hnext : 10 * n + (c.toNat - 48) < wordLimit := (ofDigitChars_mono cs _).trans_lt h
    rw [takeDigits]
    exact (if_pos hnext).trans (ih h)

theorem splitDigits_of_isDigit {ds rest : List Char} (hds : ∀ c ∈ ds, c.isDigit)
    (hrest : ∀ c ∈ rest.head?, c.isDigit = false) : splitDigits (ds ++ rest) = (ds, rest) := by
  have hnone : rest.takeWhile Char.isDigit = [] ∧ rest.dropWhile Char.isDigit = rest := by
    cases rest with
    | nil => exact ⟨rfl, rfl⟩
    | cons c rest => simp [hrest c rfl]
  rw [splitDigits, List.takeWhile_append_of_pos hds, List.dropWhile_append_of_pos hds, hnone.1,
    hnone.2, List.append_nil]

namespace Numeral

def exponentText : Option Int → List Char
  | none => []
  | some z => 'e' :: (if z < 0 then '-' else '+') :: Nat.toDigits 10 z.natAbs

def fractionText : Option (List Char) → List Char
  | none => []
  | some ds => '.' :: ds

def text (m : Numeral) : List Char :=
  m.whole ++ (fractionText m.fraction ++ exponentText m.exponent)

structure WellFormed (m : Numeral) : Prop where
  negative : m.negative = false
  whole : ∀ c ∈ m.whole, c.isDigit
  whole_ne : m.whole ≠ []
  zero : m.whole.head? = some '0' → m.whole.length = 1
  fraction : ∀ ds, m.fraction = some ds → ds ≠ [] ∧ ∀ c ∈ ds, c.isDigit

theorem readExponent?_exponentText (e : Option Int) :
    readExponent? (exponentText e) = some (e, []) := by
  cases e with
  | none => rfl
  | some z =>
    obtain ⟨c, cs, hcs⟩ := List.exists_cons_of_ne_nil (@Nat.toDigits_ne_nil z.natAbs 10)
    have hsplit := splitDigits_toDigits z.natAbs
    have hvalue := digitsValue?_toDigits z.natAbs
    rw [hcs] at hsplit hvalue
    by_cases hz : z < 0
    · have hsign : -|z| = z := by rw [abs_of_neg hz, neg_neg]
      simp [exponentText, readExponent?, hz, takeSign, takeMinus, hcs, hsplit, hvalue, hsign]
    · have hsign : |z| = z := abs_of_nonneg (Int.not_lt.mp hz)
      simp [exponentText, readExponent?, hz, takeSign, hcs, hsplit, hvalue, hsign]

theorem head?_exponentText (e : Option Int) :
    ∀ c ∈ (exponentText e).head?, c.isDigit = false ∧ c ≠ '.' := by
  cases e <;> simp [exponentText]

theorem readFraction?_fractionText {f : Option (List Char)}
    (hf : ∀ ds, f = some ds → ds ≠ [] ∧ ∀ c ∈ ds, c.isDigit) {rest : List Char}
    (hrest : ∀ c ∈ rest.head?, c.isDigit = false ∧ c ≠ '.') :
    readFraction? (fractionText f ++ rest) = some (f, rest) := by
  cases f with
  | none =>
    cases rest with
    | nil => rfl
    | cons c rest => simp [fractionText, readFraction?, (hrest c rfl).2]
  | some ds =>
    obtain ⟨hne, hds⟩ := hf ds rfl
    obtain ⟨d, ds, rfl⟩ := List.exists_cons_of_ne_nil hne
    have hsplit := splitDigits_of_isDigit hds fun c hc ↦ (hrest c hc).1
    simp only [fractionText, List.cons_append, readFraction?] at hsplit ⊢
    rw [hsplit]

theorem head?_tail (m : Numeral) :
    ∀ c ∈ (fractionText m.fraction ++ exponentText m.exponent).head?, c.isDigit = false := by
  cases m.fraction with
  | none => exact fun c hc ↦ (head?_exponentText m.exponent c hc).1
  | some ds => simp [fractionText]

theorem read?_text {m : Numeral} (h : m.WellFormed) : read? m.text = some (m, []) := by
  have hminus : takeMinus m.text = (false, m.text) := by
    obtain ⟨c, cs, hcs⟩ := List.exists_cons_of_ne_nil h.whole_ne
    have hc : c.isDigit := h.whole c (by simp [hcs])
    have hne : c ≠ '-' := by
      rintro rfl
      cases hc
    simp [text, hcs, takeMinus, hne]
  have hwhole : ¬ (m.whole = [] ∨ m.whole.head? = some '0' ∧ m.whole.length ≠ 1) := by
    rintro (hnil | ⟨hzero, hlength⟩)
    · exact h.whole_ne hnil
    · exact hlength (h.zero hzero)
  have hfraction := readFraction?_fractionText h.fraction (head?_exponentText m.exponent)
  unfold read?
  rw [hminus]
  dsimp only
  rw [text, splitDigits_of_isDigit h.whole m.head?_tail]
  simp only [if_neg hwhole, hfraction, readExponent?_exponentText, Option.bind_eq_bind,
    Option.bind_some]
  rw [← h.negative]

/-- A numeral with a point or an exponent, and the decimal it is read as. -/
structure Spells (m : Numeral) (d : Binary64.Decimal) : Prop where
  wellFormed : m.WellFormed
  isReal : m.fraction ≠ none ∨ m.exponent ≠ none
  digits : Nat.ofDigitChars 10 (m.whole ++ m.fraction.getD []) 0 = d.digits
  exponent : m.exponent.getD 0 - (m.fraction.getD []).length = d.exponent

theorem real?_eq {m : Numeral} {n : Nat}
    (hdigits : Nat.ofDigitChars 10 (m.whole ++ m.fraction.getD []) 0 = n) (hlt : n < wordLimit) :
    m.real? = (scaleByTen (Binary64.rankOfQuotient n 1) 5
      (m.exponent.getD 0 - (m.fraction.getD []).length)).map (.ofRank m.negative) := by
  rw [Nat.ofDigitChars_append] at hdigits
  rw [← hdigits] at hlt
  have hwhole := takeDigits_eq ((ofDigitChars_mono _ _).trans_lt hlt)
  have hfraction := takeDigits_eq hlt
  simp [real?, hwhole, hfraction, hdigits]

theorem number?_of_isReal {m : Numeral} (h : m.fraction ≠ none ∨ m.exponent ≠ none) :
    m.number? = m.real?.map .real := by
  unfold number?
  split
  · next hf he _ => simp [hf, he] at h
  · rfl

theorem Spells.number?_eq {m : Numeral} {d : Binary64.Decimal} (h : m.Spells d)
    (hlt : d.digits < wordLimit) : m.number? =
      (scaleByTen (Binary64.rankOfQuotient d.digits 1) 5 d.exponent).map
        fun rank ↦ .real (.ofRank false rank) := by
  rw [number?_of_isReal h.isReal, real?_eq h.digits hlt, h.exponent, h.wellFormed.negative,
    Option.map_map]
  rfl

end Numeral

structure Digits (n : Nat) (ds : List Char) : Prop where
  isDigit : ∀ c ∈ ds, c.isDigit
  ne_nil : ds ≠ []
  head : ds.head? ≠ some '0'
  value : Nat.ofDigitChars 10 ds 0 = n

theorem digits_toDigits {n : Nat} (h : n ≠ 0) : Digits n (Nat.toDigits 10 n) :=
  ⟨fun _ ↦ isDigit_of_mem_toDigits, Nat.toDigits_ne_nil, head?_toDigits n h,
    Nat.ofDigitChars_ten_toDigits⟩

namespace Digits

open Numeral

variable {n : Nat} {ds : List Char} (h : Digits n ds)

include h

theorem isDigit_append_zeros (k : Nat) : ∀ c ∈ ds ++ List.replicate k '0', c.isDigit := by
  intro c hc
  rcases List.mem_append.mp hc with hc | hc
  · exact h.isDigit c hc
  · rw [(List.mem_replicate.mp hc).2]
    rfl

theorem spells_fraction (k : Nat) : (⟨false, ['0'], some (List.replicate k '0' ++ ds), none⟩ :
    Numeral).Spells ⟨n, -(k + ds.length : Nat)⟩ where
  wellFormed := by
    refine ⟨rfl, by simp, by simp, fun _ ↦ rfl, ?_⟩
    intro ds' hds'
    obtain rfl := Option.some.inj hds'
    refine ⟨by simp [h.ne_nil], ?_⟩
    intro c hc
    have hc : c ∈ ds ++ List.replicate k '0' := List.mem_append.mpr (List.mem_append.mp hc).symm
    exact h.isDigit_append_zeros k c hc
  isReal := by simp
  digits := by
    have hzero : Nat.ofDigitChars 10 (['0'] ++ List.replicate k '0') 0 = 0 := by
      rw [← List.replicate_one, ← List.replicate_add, Nat.ofDigitChars_replicate_zero, Nat.mul_zero]
    rw [Option.getD_some, ← List.append_assoc, Nat.ofDigitChars_append, hzero, h.value]
  exponent := by simp

theorem spells_whole (k : Nat) : (⟨false, ds ++ List.replicate k '0', some ['0'], none⟩ :
    Numeral).Spells ⟨n * Nat.pow 10 (k + 1), -1⟩ where
  wellFormed := by
    refine ⟨rfl, h.isDigit_append_zeros k, by simp [h.ne_nil], ?_, ?_⟩
    · intro hzero
      rw [List.head?_append_of_ne_nil _ h.ne_nil] at hzero
      exact absurd hzero h.head
    · intro ds' hds'
      obtain rfl := Option.some.inj hds'
      simp
  isReal := by simp
  digits := by
    rw [Option.getD_some, ← List.replicate_one, List.append_assoc, ← List.replicate_add,
      Nat.ofDigitChars_append, h.value, Nat.ofDigitChars_replicate_zero, Nat.mul_comm]
    rfl
  exponent := by simp

theorem spells_mixed {k : Nat} (hk : k ≠ 0) (hlt : k < ds.length) (e : Option Int) :
    (⟨false, ds.take k, some (ds.drop k), e⟩ : Numeral).Spells
      ⟨n, e.getD 0 - (ds.length - k : Nat)⟩ where
  wellFormed := by
    refine ⟨rfl, fun c hc ↦ h.isDigit c (List.mem_of_mem_take hc), ?_, ?_, ?_⟩
    · simp [hk, h.ne_nil]
    · intro hzero
      rw [List.head?_take, if_neg hk] at hzero
      exact absurd hzero h.head
    · intro ds' hds'
      obtain rfl := Option.some.inj hds'
      refine ⟨by simpa using hlt, fun c hc ↦ h.isDigit c (List.mem_of_mem_drop hc)⟩
  isReal := by simp
  digits := by rw [Option.getD_some, List.take_append_drop, h.value]
  exponent := by simp

theorem spells_digit (hone : ds.length = 1) (z : Int) :
    (⟨false, ds, none, some z⟩ : Numeral).Spells ⟨n, z⟩ where
  wellFormed := ⟨rfl, h.isDigit, h.ne_nil, fun _ ↦ hone, by simp⟩
  isReal := by simp
  digits := by rw [Option.getD_none, List.append_nil, h.value]
  exponent := by simp

end Digits

end Json

namespace Binary64

open Json

/-- The decimal as its text is read: a whole number is written with a zero after the point. -/
def Decimal.written (d : Decimal) : Decimal :=
  if 0 ≤ d.exponent ∧ d.exponent + (Nat.toDigits 10 d.digits).length ≤ 16 then
    ⟨d.digits * Nat.pow 10 (d.exponent.toNat + 1), -1⟩
  else d

theorem exists_spells_positionalText {d : Decimal} {ds : List Char} (h : Digits d.digits ds)
    {place : Int} (hplace : place = d.exponent + ds.length - 1) :
    ∃ m : Numeral, m.Spells (if 0 ≤ d.exponent then
        ⟨d.digits * Nat.pow 10 (d.exponent.toNat + 1), -1⟩ else d) ∧
      positionalText ".0" ds place = m.text := by
  obtain ⟨n, exponent⟩ := d
  have hlength := List.length_pos_iff.mpr h.ne_nil
  dsimp only at *
  unfold positionalText
  by_cases hneg : place < 0
  · obtain ⟨k, hk⟩ : ∃ k : Nat, -place - 1 = k := ⟨(-place - 1).toNat, by omega⟩
    have hspells := h.spells_fraction k
    have hexponent : -(k + ds.length : Nat) = exponent := by omega
    rw [hexponent] at hspells
    rw [if_pos hneg, if_neg (by omega)]
    refine ⟨_, hspells, ?_⟩
    simp [Numeral.text, Numeral.fractionText, Numeral.exponentText, zeros, hk]
  rw [if_neg hneg]
  dsimp only
  by_cases hwhole : ds.length ≤ place.toNat + 1
  · have hzeros : zeros ((place.toNat + 1 : Nat) - ds.length) =
        List.replicate exponent.toNat '0' := by
      unfold zeros
      congr 1
      omega
    rw [if_pos hwhole, if_pos (by omega), hzeros]
    refine ⟨_, h.spells_whole exponent.toNat, ?_⟩
    simp [Numeral.text, Numeral.fractionText, Numeral.exponentText]
  · have hspells := h.spells_mixed (Nat.succ_ne_zero place.toNat) (Nat.not_le.mp hwhole) none
    have hexponent : (0 : Int) - (ds.length - (place.toNat + 1) : Nat) = exponent := by omega
    rw [Option.getD_none, hexponent] at hspells
    rw [if_neg hwhole, if_neg (by omega)]
    refine ⟨_, hspells, ?_⟩
    simp [Numeral.text, Numeral.fractionText, Numeral.exponentText]

theorem exists_spells_exponentText {d : Decimal} {ds : List Char} (h : Digits d.digits ds)
    {place : Int} (hplace : place = d.exponent + ds.length - 1) :
    ∃ m : Numeral, m.Spells d ∧ exponentText ds place = m.text := by
  obtain ⟨n, exponent⟩ := d
  dsimp only at *
  match ds with
  | [] => exact absurd rfl h.ne_nil
  | [c] =>
    have hspells := h.spells_digit rfl place
    have hexponent : place = exponent := by simpa using hplace
    rw [hexponent] at hspells
    refine ⟨_, hspells, ?_⟩
    simp [exponentText, Numeral.text, Numeral.fractionText, Numeral.exponentText, hexponent]
  | c :: c' :: rest =>
    have hspells := h.spells_mixed Nat.one_ne_zero (by simp) (some place)
    have hexponent : place - ((c :: c' :: rest).length - 1 : Nat) = exponent := by
      simp at hplace ⊢
      omega
    rw [Option.getD_some, hexponent] at hspells
    refine ⟨_, hspells, ?_⟩
    simp [exponentText, Numeral.text, Numeral.fractionText, Numeral.exponentText]

variable {rank : Nat}

/-- The text of a magnitude is a numeral of its shortest decimal. -/
theorem exists_spells_magnitudeText (hrank : rank ≠ 0) (hlt : rank < rankCount) :
    ∃ m : Numeral, m.Spells (shortest .even rank).written ∧
      magnitudeText documentLayout rank = m.text := by
  obtain ⟨-, hpos, -⟩ := shortest_spec .even hrank hlt
  have htie : documentLayout.tie = .even := rfl
  rw [magnitudeText, if_neg hrank, htie]
  dsimp only
  generalize shortest .even rank = d at *
  have hdigits := digits_toDigits hpos.ne'
  have hlength := List.length_pos_iff.mpr hdigits.ne_nil
  obtain ⟨place, hplace⟩ : ∃ place, place = d.exponent + (Nat.toDigits 10 d.digits).length - 1 :=
    ⟨_, rfl⟩
  have hlayout : documentLayout.positional place = true ↔ -5 ≤ place ∧ place < 16 := by
    simp [documentLayout]
  rw [← hplace]
  unfold Decimal.written
  by_cases hposition : documentLayout.positional place = true
  · rw [if_pos hposition]
    rw [hlayout] at hposition
    have hwhole : (0 ≤ d.exponent ∧ d.exponent + (Nat.toDigits 10 d.digits).length ≤ 16) ↔
        0 ≤ d.exponent := by omega
    simp only [hwhole]
    exact exists_spells_positionalText hdigits hplace
  · rw [if_neg hposition]
    rw [hlayout] at hposition
    rw [if_neg (by omega)]
    exact exists_spells_exponentText hdigits hplace

end Binary64

end TradingRules
