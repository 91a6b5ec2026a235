import TradingRules.Json.Reader
import TradingRules.Json.Writer
import Mathlib.Data.List.TakeWhile

namespace TradingRules.Json

/-- What can stand after a numeral without being taken for a part of it. -/
def EndsNumeral (rest : List Char) : Prop :=
  ∀ c ∈ rest.head?, c.isDigit = false ∧ c ≠ '.' ∧ c ≠ 'e' ∧ c ≠ 'E'

theorem endsNumeral_nil : EndsNumeral [] := by simp [EndsNumeral]

theorem endsNumeral_cons {c : Char} {rest : List Char} (hd : c.isDigit = false) (hp : c ≠ '.')
    (he : c ≠ 'e') (hE : c ≠ 'E') : EndsNumeral (c :: rest) := by
  simp [EndsNumeral, hd, hp, he, hE]

theorem takeMinus_append {cs : List Char} (hcs : cs ≠ []) (rest : List Char) :
    takeMinus (cs ++ rest) = ((takeMinus cs).1, (takeMinus cs).2 ++ rest) := by
  obtain ⟨c, cs, rfl⟩ := List.exists_cons_of_ne_nil hcs
  by_cases hc : c = '-'
  · subst hc; rfl
  · simp [takeMinus, hc]

theorem takeSign_append {cs : List Char} (hcs : cs ≠ []) (rest : List Char) :
    takeSign (cs ++ rest) = ((takeSign cs).1, (takeSign cs).2 ++ rest) := by
  have h := takeMinus_append hcs rest
  obtain ⟨c, cs, rfl⟩ := List.exists_cons_of_ne_nil hcs
  by_cases hc : c = '+'
  · subst hc; rfl
  · simpa [takeSign, hc] using h

section Continued

variable {rest : List Char} (hrest : EndsNumeral rest)

include hrest

theorem splitDigits_append (cs : List Char) :
    splitDigits (cs ++ rest) = ((splitDigits cs).1, (splitDigits cs).2 ++ rest) := by
  induction cs with
  | nil =>
    cases rest with
    | nil => rfl
    | cons c rest => simp [splitDigits, (hrest c rfl).1]
  | cons c cs ih =>
    simp only [splitDigits, Prod.mk.injEq] at ih
    cases hc : c.isDigit
    · simp [splitDigits, hc]
    · simp [splitDigits, hc, ih]

theorem readFraction?_append {cs tail : List Char} {f : Option (List Char)}
    (h : readFraction? cs = some (f, tail)) :
    readFraction? (cs ++ rest) = some (f, tail ++ rest) := by
  cases cs with
  | nil =>
    obtain ⟨rfl, rfl⟩ : none = f ∧ [] = tail := by simpa [readFraction?] using h
    cases rest with
    | nil => rfl
    | cons c rest => simp [readFraction?, (hrest c rfl).2.1]
  | cons c cs =>
    by_cases hc : c = '.'
    · subst hc
      simp only [List.cons_append, readFraction?, splitDigits_append hrest] at h ⊢
      split at h
      · simp at h
      · next digits tail' hne hsplit =>
        obtain ⟨rfl, rfl⟩ : some digits = f ∧ tail' = tail := by simpa using h
        simp only [hsplit]
    · obtain ⟨rfl, rfl⟩ : none = f ∧ c :: cs = tail := by simpa [readFraction?, hc] using h
      simp [readFraction?, hc]

theorem readExponent?_append {cs tail : List Char} {e : Option Int}
    (h : readExponent? cs = some (e, tail)) :
    readExponent? (cs ++ rest) = some (e, tail ++ rest) := by
  cases cs with
  | nil =>
    obtain ⟨rfl, rfl⟩ : none = e ∧ [] = tail := by simpa [readExponent?] using h
    cases rest with
    | nil => rfl
    | cons c rest => simp [readExponent?, (hrest c rfl).2.2]
  | cons c cs =>
    by_cases hmark : c = 'e' ∨ c = 'E'
    · simp only [List.cons_append, readExponent?, if_pos hmark] at h ⊢
      have hcs : cs ≠ [] := by
        rintro rfl
        simp [takeSign, takeMinus, splitDigits] at h
      rw [takeSign_append hcs, splitDigits_append hrest]
      dsimp only
      split at h
      · simp at h
      · next digits tail' hne hsplit =>
        simp only [Option.map_eq_some_iff, Prod.mk.injEq] at h
        obtain ⟨n, hn, rfl, rfl⟩ := h
        simp [hsplit, hn]
    · obtain ⟨rfl, rfl⟩ : none = e ∧ c :: cs = tail := by simpa [readExponent?, hmark] using h
      simp [readExponent?, hmark]

theorem read?_append {cs tail : List Char} {n : Numeral}
    (h : Numeral.read? cs = some (n, tail)) :
    Numeral.read? (cs ++ rest) = some (n, tail ++ rest) := by
  have hcs : cs ≠ [] := by
    rintro rfl
    simp [Numeral.read?, takeMinus, splitDigits] at h
  unfold Numeral.read? at h ⊢
  simp only [takeMinus_append hcs, splitDigits_append hrest] at h ⊢
  split at h
  · simp at h
  · next hwhole =>
    simp only [Option.bind_eq_bind, Option.bind_eq_some_iff, Option.some.injEq, Prod.mk.injEq] at h
    obtain ⟨⟨f, cs₁⟩, hf, ⟨e, cs₂⟩, he, rfl, rfl⟩ := h
    rw [if_neg hwhole, readFraction?_append hrest hf, Option.bind_eq_bind, Option.bind_some,
      readExponent?_append hrest he]
    rfl

end Continued

theorem isDigit_of_mem_toDigits {n : Nat} {c : Char} (h : c ∈ Nat.toDigits 10 n) : c.isDigit :=
  Nat.isDigit_of_mem_toDigits (by decide) (by decide) h

theorem splitDigits_toDigits (n : Nat) :
    splitDigits (Nat.toDigits 10 n) = (Nat.toDigits 10 n, []) := by
  have h : ∀ c ∈ Nat.toDigits 10 n, c.isDigit = true := fun _ ↦ isDigit_of_mem_toDigits
  rw [splitDigits, List.takeWhile_eq_self_iff.mpr h, List.dropWhile_eq_nil_iff.mpr h]

theorem takeMinus_toDigits (n : Nat) :
    takeMinus (Nat.toDigits 10 n) = (false, Nat.toDigits 10 n) := by
  unfold takeMinus
  split
  · next heq =>
    have h := isDigit_of_mem_toDigits (n := n) (c := '-') (by rw [heq]; simp)
    exact absurd h (by decide)
  · rfl

theorem head?_toDigits (n : Nat) (h : n ≠ 0) : (Nat.toDigits 10 n).head? ≠ some '0' := by
  induction n using Nat.strongRecOn with
  | ind n ih =>
    by_cases hn : n < 10
    · rw [Nat.toDigits_of_lt_base hn]
      have hdigit : ∀ d < 10, d ≠ 0 → d.digitChar ≠ '0' := by decide
      simpa using hdigit n hn h
    · rw [Nat.toDigits_of_base_le (by decide) (by omega)]
      have hhead := ih (n / 10) (by omega) (by omega)
      cases hd : Nat.toDigits 10 (n / 10) with
      | nil => exact absurd hd Nat.toDigits_ne_nil
      | cons c cs => simpa [hd] using hhead

theorem digitsValue?_toDigits (n : Nat) : Binary64.digitsValue? (Nat.toDigits 10 n) = some n := by
  have h : (Nat.toDigits 10 n).all Char.isDigit = true :=
    List.all_eq_true.mpr fun _ ↦ isDigit_of_mem_toDigits
  rw [Binary64.digitsValue?, if_pos h, Option.some.injEq]
  exact Nat.ofDigitChars_eq_foldl.symm.trans Nat.ofDigitChars_ten_toDigits

end TradingRules.Json

namespace TradingRules

open Json

/-- The number that the text of a number is read as, if it is in range. -/
def Number.reread? (n : Number) : Option Number :=
  (Numeral.read? (writeNumber n)).bind (·.1.number?)

def Number.Readable (n : Number) : Prop :=
  ∃ m, Numeral.read? (writeNumber n) = some (m, [])

/-- The text of the number is a numeral with that value. -/
def Number.Legible (n : Number) : Prop :=
  ∃ m, Numeral.read? (writeNumber n) = some (m, []) ∧ m.number? = some n

theorem Number.reread?_eq {n : Number} {m : Numeral} {tail : List Char}
    (h : Numeral.read? (writeNumber n) = some (m, tail)) : n.reread? = m.number? := by
  rw [reread?, h, Option.bind_some]

theorem Number.Legible.readable {n : Number} (h : n.Legible) : n.Readable :=
  h.imp fun _ ↦ And.left

theorem Number.Legible.reread?_eq_some {n : Number} (h : n.Legible) : n.reread? = some n := by
  obtain ⟨m, hread, hvalue⟩ := h
  rw [reread?_eq hread, hvalue]

theorem Number.read?_ofNat (n : Nat) :
    Numeral.read? (writeNumber (.integer n)) =
      some (⟨false, Nat.toDigits 10 n, none, none⟩, []) := by
  have hwrite : writeNumber (.integer n) = Nat.toDigits 10 n := Nat.toList_repr
  have hzero : ¬ ((Nat.toDigits 10 n).head? = some '0' ∧ (Nat.toDigits 10 n).length ≠ 1) := by
    rintro ⟨hhead, hlength⟩
    have hn : n = 0 := by_contra fun hn ↦ head?_toDigits n hn hhead
    simp [hn] at hlength
  simp only [Numeral.read?, hwrite, takeMinus_toDigits, splitDigits_toDigits,
    Nat.toDigits_ne_nil, hzero, or_self, if_false]
  rfl

theorem Number.readable_ofNat (n : Nat) : (Number.integer n).Readable :=
  ⟨_, read?_ofNat n⟩

theorem Number.legible_ofNat {n : Nat} (h : n < wordLimit) : (Number.integer n).Legible :=
  ⟨_, read?_ofNat n, by simp [Numeral.number?, digitsValue?_toDigits, h]⟩

end TradingRules
