import TradingRules.Proofs.Binary64.Spelling
import TradingRules.Proofs.Json.Reals
import TradingRules.Proofs.Json.RoundTrip

namespace TradingRules.Json

open Binary64 (SpellsWhole cut_iff digitsValue?_eq_some_iff)

inductive SpellsExponent : List Char → Option Int → Prop
  | absent : SpellsExponent [] none
  | small {cs : List Char} {e : Int} (h : SpellsWhole cs e) : SpellsExponent ('e' :: cs) (some e)
  | capital {cs : List Char} {e : Int} (h : SpellsWhole cs e) : SpellsExponent ('E' :: cs) (some e)

namespace Numeral

def signText (negative : Bool) : List Char :=
  if negative then ['-'] else []

/-- A text of these characters is a numeral with these parts: after a sign the digits of a whole
number without zeros in front of it, then a fraction and an exponent, each of which may be
missing. -/
structure SpelledBy (m : Numeral) (cs : List Char) : Prop where
  whole : ∀ c ∈ m.whole, c.isDigit
  whole_ne : m.whole ≠ []
  zero : m.whole.head? = some '0' → m.whole.length = 1
  fraction : ∀ ds, m.fraction = some ds → ds ≠ [] ∧ ∀ c ∈ ds, c.isDigit
  text : ∃ es, SpellsExponent es m.exponent ∧
    cs = signText m.negative ++ (m.whole ++ (fractionText m.fraction ++ es))

end Numeral

theorem splitDigits_eq_iff {cs ds rest : List Char} : splitDigits cs = (ds, rest) ↔
    cs = ds ++ rest ∧ (∀ c ∈ ds, c.isDigit) ∧ ∀ c ∈ rest.head?, c.isDigit = false := by
  rw [splitDigits, Prod.mk.injEq]
  exact cut_iff Char.isDigit

theorem takeSign_cases (cs : List Char) :
    (∃ ds, cs = '+' :: ds ∧ takeSign cs = (false, ds)) ∨
      (∃ ds, cs = '-' :: ds ∧ takeSign cs = (true, ds)) ∨ takeSign cs = (false, cs) := by
  unfold takeSign takeMinus
  split
  · exact .inl ⟨_, rfl, rfl⟩
  · split
    · exact .inr (.inl ⟨_, rfl, rfl⟩)
    · exact .inr (.inr rfl)

theorem spellsWhole_iff {cs : List Char} {e : Int} : SpellsWhole cs e ↔
    (takeSign cs).2 ≠ [] ∧ (∀ c ∈ (takeSign cs).2, c.isDigit) ∧
      (if (takeSign cs).1 then -(Nat.ofDigitChars 10 (takeSign cs).2 0 : Int)
        else Nat.ofDigitChars 10 (takeSign cs).2 0) = e := by
  constructor
  · intro h
    cases h with
    | plain hne hds =>
      have htake : takeSign cs = (false, cs) := by
        obtain ⟨ds, rfl, -⟩ | ⟨ds, rfl, -⟩ | htake := takeSign_cases cs
        · exact absurd (hds '+' List.mem_cons_self) (by decide)
        · exact absurd (hds '-' List.mem_cons_self) (by decide)
        · exact htake
      rw [htake]
      exact ⟨hne, hds, rfl⟩
    | plus hne hds | minus hne hds => exact ⟨hne, hds, rfl⟩
  · rintro ⟨hne, hds, rfl⟩
    obtain ⟨ds, rfl, htake⟩ | ⟨ds, rfl, htake⟩ | htake := takeSign_cases cs <;>
      rw [htake] at hne hds ⊢
    · exact .plus hne hds
    · exact .minus hne hds
    · exact .plain hne hds

theorem readExponent?_eq_some_iff {cs : List Char} {e : Option Int} :
    readExponent? cs = some (e, []) ↔ SpellsExponent cs e := by
  have hread {c : Char} {rest : List Char} (hc : c = 'e' ∨ c = 'E') :
      readExponent? (c :: rest) = some (e, []) ↔ ∃ z, SpellsWhole rest z ∧ e = some z := by
    simp only [readExponent?, if_pos hc, spellsWhole_iff]
    generalize takeSign rest = taken
    obtain ⟨negative, digits⟩ := taken
    dsimp only
    constructor
    · intro h
      split at h
      · cases h
      · next ds tail hnil hsplit =>
        obtain ⟨n, hn, heq⟩ := Option.map_eq_some_iff.mp h
        obtain ⟨hn, rfl⟩ := digitsValue?_eq_some_iff.mp hn
        obtain ⟨rfl, rfl⟩ := Prod.mk.inj heq
        obtain ⟨rfl, hds, -⟩ := splitDigits_eq_iff.mp hsplit
        rw [List.append_nil]
        exact ⟨_, ⟨hnil, hds, rfl⟩, rfl⟩
    · rintro ⟨z, ⟨hne, hds, rfl⟩, rfl⟩
      have hsplit : splitDigits digits = (digits, []) :=
        splitDigits_eq_iff.mpr ⟨(List.append_nil digits).symm, hds, by simp⟩
      obtain ⟨d, ds, rfl⟩ := List.exists_cons_of_ne_nil hne
      rw [hsplit]
      dsimp only
      rw [digitsValue?_eq_some_iff.mpr ⟨hds, rfl⟩]
      rfl
  constructor
  · intro h
    cases cs with
    | nil =>
      obtain ⟨rfl, -⟩ := Prod.mk.inj (Option.some.inj h)
      exact .absent
    | cons c rest =>
      by_cases hc : c = 'e' ∨ c = 'E'
      · obtain ⟨z, hz, rfl⟩ := (hread hc).mp h
        obtain rfl | rfl := hc
        · exact .small hz
        · exact .capital hz
      · simp [readExponent?, hc] at h
  · intro h
    cases h with
    | absent => rfl
    | small h => exact (hread (.inl rfl)).mpr ⟨_, h, rfl⟩
    | capital h => exact (hread (.inr rfl)).mpr ⟨_, h, rfl⟩

theorem fractionText_of_readFraction? {cs rest : List Char} {f : Option (List Char)}
    (h : readFraction? cs = some (f, rest)) : cs = Numeral.fractionText f ++ rest ∧
      ∀ ds, f = some ds → ds ≠ [] ∧ ∀ c ∈ ds, c.isDigit := by
  unfold readFraction? at h
  split at h
  · next tail =>
    split at h
    · cases h
    · next ds tail' hnil hsplit =>
      obtain ⟨rfl, rfl⟩ := Prod.mk.inj (Option.some.inj h)
      obtain ⟨rfl, hds, -⟩ := splitDigits_eq_iff.mp hsplit
      refine ⟨rfl, ?_⟩
      intro ds' hds'
      obtain rfl := Option.some.inj hds'
      exact ⟨hnil, hds⟩
  · obtain ⟨rfl, rfl⟩ := Prod.mk.inj (Option.some.inj h)
    exact ⟨rfl, nofun⟩

theorem SpellsExponent.head {es : List Char} {e : Option Int} (h : SpellsExponent es e) :
    ∀ c ∈ es.head?, c.isDigit = false ∧ c ≠ '.' := by
  cases h <;> simp

namespace Numeral

variable {m : Numeral} {cs : List Char}

theorem takeMinus_signText {cs : List Char} (hcs : ∀ c ∈ cs.head?, c ≠ '-') (negative : Bool) :
    takeMinus (signText negative ++ cs) = (negative, cs) := by
  cases negative with
  | true => rfl
  | false =>
    cases cs with
    | nil => rfl
    | cons c cs => simp [signText, takeMinus, hcs c rfl]

theorem eq_signText_of_takeMinus {cs rest : List Char} {negative : Bool}
    (h : takeMinus cs = (negative, rest)) : cs = signText negative ++ rest := by
  unfold takeMinus at h
  split at h <;> obtain ⟨rfl, rfl⟩ := Prod.mk.inj h <;> rfl

/-- What is read as a numeral, up to the end of the text, is what the grammar allows. -/
theorem read?_eq_some_iff : read? cs = some (m, []) ↔ m.SpelledBy cs := by
  constructor
  · intro h
    unfold read? at h
    generalize htake : takeMinus cs = taken at h
    obtain ⟨negative, unsigned⟩ := taken
    dsimp only at h
    generalize hsplit : splitDigits unsigned = parts at h
    obtain ⟨whole, tail⟩ := parts
    dsimp only at h
    split at h
    · cases h
    next hstart =>
    rw [not_or, not_and, not_not] at hstart
    simp only [Option.bind_eq_bind, Option.bind_eq_some_iff] at h
    obtain ⟨⟨f, es⟩, hf, ⟨e, rest⟩, he, heq⟩ := h
    obtain ⟨rfl, rfl⟩ := Prod.mk.inj (Option.some.inj heq)
    obtain ⟨rfl, hwhole, -⟩ := splitDigits_eq_iff.mp hsplit
    obtain ⟨rfl, hfraction⟩ := fractionText_of_readFraction? hf
    have hes := readExponent?_eq_some_iff.mp he
    exact ⟨hwhole, hstart.1, hstart.2, hfraction, es, hes, eq_signText_of_takeMinus htake⟩
  · rintro ⟨hwhole, hne, hzero, hfraction, es, hes, rfl⟩
    have hminus : ∀ c ∈ (m.whole ++ (fractionText m.fraction ++ es)).head?, c ≠ '-' := by
      obtain ⟨d, ds, hds⟩ := List.exists_cons_of_ne_nil hne
      have hd : d.isDigit := hwhole d (by simp [hds])
      rw [hds]
      rintro c hc rfl
      obtain rfl := Option.some.inj hc
      cases hd
    have htail : ∀ c ∈ (fractionText m.fraction ++ es).head?, c.isDigit = false := by
      cases m.fraction with
      | none => exact fun c hc ↦ (hes.head c hc).1
      | some ds => simp [fractionText]
    have hstart : ¬ (m.whole = [] ∨ m.whole.head? = some '0' ∧ m.whole.length ≠ 1) := by
      rw [not_or, not_and, not_not]
      exact ⟨hne, hzero⟩
    unfold read?
    rw [takeMinus_signText hminus]
    dsimp only
    rw [splitDigits_of_isDigit hwhole htail]
    simp only [if_neg hstart, readFraction?_fractionText hfraction hes.head,
      readExponent?_eq_some_iff.mpr hes, Option.bind_eq_bind, Option.bind_some]

def IsMark (c : Char) : Prop :=
  c.isDigit ∨ c ∈ ['-', '+', '.', 'e', 'E']

theorem IsMark.plain {c : Char} (h : IsMark c) : Text.isBlank c = false ∧ writeChar c = [c] := by
  obtain hdigit | hmem := h
  · have hbounds : 48 ≤ c.toNat ∧ c.toNat ≤ 57 := Char.isDigit_iff_toNat.mp hdigit
    have hne {d : Char} (hd : d.isDigit = false) : c ≠ d := Text.ne_of_isDigit hdigit hd
    refine ⟨Text.isBlank_of_isDigit hdigit, ?_⟩
    unfold writeChar
    split
    · exact absurd rfl (hne (by decide))
    · exact absurd rfl (hne (by decide))
    · exact absurd rfl (hne (by decide))
    · exact absurd rfl (hne (by decide))
    · exact absurd rfl (hne (by decide))
    · rw [if_neg (by omega), if_neg (by omega), if_neg (by omega)]
  · simp only [List.mem_cons, List.not_mem_nil, or_false] at hmem
    obtain rfl | rfl | rfl | rfl | rfl := hmem <;> decide

theorem isMark_of_spellsExponent {es : List Char} {e : Option Int} (h : SpellsExponent es e) :
    ∀ c ∈ es, IsMark c := by
  have hwhole {cs : List Char} {z : Int} (h : SpellsWhole cs z) : ∀ c ∈ cs, IsMark c := by
    cases h with
    | plain _ hds => exact fun c hc ↦ .inl (hds c hc)
    | plus _ hds | minus _ hds =>
      exact List.forall_mem_cons.mpr ⟨.inr (by decide), fun c hc ↦ .inl (hds c hc)⟩
  cases h with
  | absent => exact nofun
  | small h | capital h => exact List.forall_mem_cons.mpr ⟨.inr (by decide), hwhole h⟩

theorem SpelledBy.isMark (h : m.SpelledBy cs) : ∀ c ∈ cs, IsMark c := by
  obtain ⟨hwhole, -, -, hfraction, es, hes, rfl⟩ := h
  have hsign : ∀ c ∈ signText m.negative, IsMark c := by
    cases m.negative with
    | true => exact List.forall_mem_cons.mpr ⟨.inr (by decide), nofun⟩
    | false => exact nofun
  have hpoint : ∀ c ∈ fractionText m.fraction, IsMark c := by
    cases hf : m.fraction with
    | none => exact nofun
    | some ds =>
      exact List.forall_mem_cons.mpr ⟨.inr (by decide), fun c hc ↦ .inl ((hfraction ds hf).2 c hc)⟩
  simp only [List.forall_mem_append]
  exact ⟨hsign, fun c hc ↦ .inl (hwhole c hc), hpoint, isMark_of_spellsExponent hes⟩

end Numeral

section Texts

variable {m : Numeral} {s : String} (h : m.SpelledBy s.toList)

include h

theorem readText_numeral : readText s = ⟨.number m.number?, true⟩ := by
  have hvalue := readValue_numeral (2 * s.toList.length + 1) 127 (Numeral.read?_eq_some_iff.mpr h)
  simp [readText, hvalue, skipBlanks]

theorem readText_quoted : readText ("\"" ++ s ++ "\"") = ⟨.string (some s), true⟩ := by
  have hwrite : s.toList.flatMap writeChar = s.toList := by
    calc
      s.toList.flatMap writeChar = s.toList.flatMap fun c ↦ [c] :=
        List.flatMap_congr fun c hc ↦ (h.isMark c hc).plain.2
      _ = s.toList := List.flatMap_singleton' _
  have hcompact : (Json.string s).compact = "\"" ++ s ++ "\"" := by
    apply String.toList_injective
    simp [compact, write, writeString, hwrite]
  rw [← hcompact]
  exact readText_compact (by simp [Json.Within])

theorem trim_numeral : Text.trim s = s := by
  have hdrop {cs : List Char} (hcs : ∀ c ∈ cs, Numeral.IsMark c) : Text.dropBlanks cs = cs := by
    cases cs with
    | nil => rfl
    | cons c cs => simp [Text.dropBlanks, (hcs c List.mem_cons_self).plain.1]
  have hreverse : ∀ c ∈ s.toList.reverse, Numeral.IsMark c := by
    simpa using h.isMark
  rw [Text.trim, Text.dropBlanksEnd, hdrop h.isMark, hdrop hreverse, List.reverse_reverse,
    String.ofList_toList]

end Texts

end TradingRules.Json
