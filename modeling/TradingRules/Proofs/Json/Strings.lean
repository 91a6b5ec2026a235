import TradingRules.Json.Reader
import TradingRules.Json.Writer

namespace TradingRules.Json

theorem hexValue?_digitChar : ∀ d < 16, hexValue? d.digitChar = some d := by
  decide

theorem lowHex_eq {n : Nat} (h : n < 256) :
    lowHex n = [(n / 16).digitChar, (n % 16).digitChar] := by
  rw [lowHex, Nat.toDigits_of_lt_base (by omega), Nat.toDigits_of_lt_base (by omega)]
  rfl

theorem readHex?_lowHex {n : Nat} (h : n < 256) (rest : List Char) :
    readHex? ('0' :: '0' :: (lowHex n ++ rest)) = some (n, rest) := by
  have hhigh := hexValue?_digitChar (n / 16) (by omega)
  have hlow := hexValue?_digitChar (n % 16) (by omega)
  simp only [lowHex_eq h, List.cons_append, List.nil_append, readHex?, hhigh, hlow,
    show hexValue? '0' = some 0 from rfl, Option.bind_eq_bind, Option.bind_some]
  congr
  omega

theorem readString_writeChar (fuel : Nat) (done : List Char) (c : Char) (rest : List Char) :
    readString (fuel + 1) (some done) (writeChar c ++ rest) =
      readString fuel (some (c :: done)) rest := by
  unfold writeChar
  split
  · simp [readString, simpleEscape?]
  · simp [readString, simpleEscape?]
  · simp [readString, simpleEscape?]
  · simp [readString, simpleEscape?]
  · simp [readString, simpleEscape?]
  next hquote hback _ _ _ =>
    split
    next h8 =>
      have : c = Char.ofNat 8 := by rw [← h8, Char.ofNat_toNat]
      simp [readString, simpleEscape?, this]
    split
    next h12 =>
      have : c = Char.ofNat 12 := by rw [← h12, Char.ofNat_toNat]
      simp [readString, simpleEscape?, this]
    split
    next hlow =>
      have hread := readHex?_lowHex (n := c.toNat) (by omega) rest
      have hhigh : isHighSurrogate c.toNat = false := by simp [isHighSurrogate]; omega
      have hpair : isLowSurrogate c.toNat = false := by simp [isLowSurrogate]; omega
      simp [readString, hread, hhigh, hpair]
    next hlow =>
      have hq : c ≠ '"' := fun h ↦ hquote h
      have hb : c ≠ '\\' := fun h ↦ hback h
      simp [readString, hq, hb, hlow]

theorem readString_writeString (cs : List Char) (rest : List Char) :
    ∀ (fuel : Nat) (done : List Char), cs.length < fuel →
      readString fuel (some done) (cs.flatMap writeChar ++ '"' :: rest) =
        some (some (.ofList (done.reverse ++ cs)), rest) := by
  induction cs with
  | nil =>
    intro fuel done hfuel
    obtain ⟨fuel, rfl⟩ : ∃ n, fuel = n + 1 := ⟨fuel - 1, by simp at hfuel; omega⟩
    simp [readString]
  | cons c cs ih =>
    intro fuel done hfuel
    obtain ⟨fuel, rfl⟩ : ∃ n, fuel = n + 1 := ⟨fuel - 1, by simp at hfuel; omega⟩
    rw [List.flatMap_cons, List.append_assoc, readString_writeChar,
      ih fuel (c :: done) (by simpa using hfuel)]
    simp

theorem writeChar_ne_nil (c : Char) : writeChar c ≠ [] := by
  unfold writeChar
  split <;> try simp
  split <;> try simp
  split <;> try simp
  split <;> simp

end TradingRules.Json
