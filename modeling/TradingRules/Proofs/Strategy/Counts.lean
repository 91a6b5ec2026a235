import TradingRules.Proofs.Document.Literals
import TradingRules.Proofs.Strategy.Fields

namespace TradingRules

namespace Forgiving

open Json (Numeral)

variable {text : String} {m : Numeral}

theorem count_eq_ok {s : Source} {v : Json} (hv : s.toJson? = some v) (hnull : v ≠ .null) :
    count .text s = .ok (countOf v) := by
  have hpresent : v.present? = some v := by
    cases v <;> first | rfl | exact absurd rfl hnull
  have h : count .text s = .ok (v.present?.bind countOf) := optional_eq_ok countOf hv
  rwa [hpresent] at h

theorem count_quoted (h : m.SpelledBy text.toList) :
    ∃ found, count .text (.string (some text)) = .ok found ∧
      ∀ n, found = some n ↔ m.IsPlain ∧ m.digits = n.toNat := by
  refine ⟨countOf (.string text), count_eq_ok rfl nofun, fun n ↦ ?_⟩
  have hcount : countOf (.string text) = digits? (Text.trim text) := rfl
  rw [hcount, digits?_eq_some_iff, Json.trim_numeral h, Numeral.spellsCount_iff h]

theorem count_number (k : Number) : ∃ found, count .text (.number (some k)) = .ok found ∧
    ∀ n, found = some n ↔ k.Is n.toNat := by
  refine ⟨countOf (.number k), count_eq_ok rfl nofun, fun n ↦ ?_⟩
  rw [countOf_eq_some_iff]
  constructor
  · intro h
    cases h with
    | number h => exact h
  · exact .number

theorem count_malformed : count .text (.number none) = .error .malformed :=
  rfl

theorem count_agrees_iff (h : m.SpelledBy text.toList) :
    count .text (.number m.number?) = count .text (.string (some text)) ↔
      ∃ k, m.number? = some k ∧ (m.IsPlain ∨ ∀ n : UInt32, ¬ k.Is n.toNat) := by
  obtain ⟨quoted, hquoted, hstring⟩ := count_quoted h
  rw [hquoted]
  cases hk : m.number? with
  | none => simp [count_malformed]
  | some k =>
    obtain ⟨found, hfound, hnumber⟩ := count_number k
    have hplain (hplain : m.IsPlain) (n : UInt32) : k.Is n.toNat ↔ m.digits = n.toNat :=
      Numeral.number?_of_isPlain h hplain hk n.toNat_lt_size
    rw [hfound, Except.ok.injEq]
    constructor
    · rintro rfl
      refine ⟨k, rfl, ?_⟩
      by_cases hm : m.IsPlain
      · exact .inl hm
      · exact .inr fun n hn ↦ hm ((hstring n).mp ((hnumber n).mpr hn)).1
    · rintro ⟨k', hk', hcases⟩
      obtain rfl := Option.some.inj hk'
      ext n
      rw [hnumber, hstring]
      obtain hm | hnone := hcases
      · rw [hplain hm, and_iff_right hm]
      · exact iff_of_false (hnone n) fun hn ↦ hnone n ((hplain hn.1 n).mpr hn.2)

end Forgiving

namespace Strategy

/-- A numeral as a count, given as a number and as a string. -/
theorem counts_as_numbers_and_strings {text : String} {m : Json.Numeral}
    (h : m.SpelledBy text.toList) :
    let number := (Json.readText text).root
    let string := (Json.readText ("\"" ++ text ++ "\"")).root
    (Json.readText text).ended ∧ (Json.readText ("\"" ++ text ++ "\"")).ended ∧
      (∃ found, Forgiving.count .text string = .ok found ∧
        ∀ n, found = some n ↔ m.IsPlain ∧ m.digits = n.toNat) ∧
      (∀ k, m.number? = some k → ∃ found, Forgiving.count .text number = .ok found ∧
        ∀ n, found = some n ↔ k.Is n.toNat) ∧
      (m.number? = none → Forgiving.count .text number = .error .malformed) ∧
      (∀ n : UInt32, m.IsShort → m.value = n.toNat →
        Forgiving.count .text number = .ok (some n)) ∧
      (Forgiving.count .text number = Forgiving.count .text string ↔
        ∃ k, m.number? = some k ∧ (m.IsPlain ∨ ∀ n : UInt32, ¬ k.Is n.toNat)) ∧
      (Forgiving.count .text number = Forgiving.count .text string →
        (∀ side p, ∀ name ∈ (Condition.Field.parameter side p).spellings, ∀ before after closed,
          Condition.decoder .text (.object (before ++ (some name, number) :: after) closed) =
            Condition.decoder .text (.object (before ++ (some name, string) :: after) closed)) ∧
        ∀ before after closed,
          Exit.decoder .text (.object (before ++ (some "timePeriod", number) :: after) closed) =
            Exit.decoder .text
              (.object (before ++ (some "timePeriod", string) :: after) closed)) := by
  intro number string
  have hread := Json.readText_numeral h
  have hread' := Json.readText_quoted h
  have hnumber : number = .number m.number? := congrArg Json.Reading.root hread
  have hstring : string = .string (some text) := congrArg Json.Reading.root hread'
  rw [hnumber, hstring]
  refine ⟨by rw [hread], by rw [hread'], Forgiving.count_quoted h, ?_, ?_, ?_,
    Forgiving.count_agrees_iff h, ?_⟩
  · intro k hk
    rw [hk]
    exact Forgiving.count_number k
  · intro hnone
    rw [hnone, Forgiving.count_malformed]
  · intro n hshort hvalue
    have hn : n.toNat ≤ 2 * Binary64.binade := n.toNat_lt_size.le.trans (by decide)
    obtain ⟨k, hk, hint⟩ := Json.Numeral.number?_of_isShort h hshort hvalue hn
    obtain ⟨found, hfound, hcount⟩ := Forgiving.count_number k
    rw [hk, hfound, (hcount n).mpr hint]
  · intro hagree
    constructor
    · intro side p name hname before after closed
      have hfield := Condition.field?_of_spelling hname
      exact Condition.places.decode_congr_member .text hfield hagree before after closed
    · intro before after closed
      exact Exit.places.decode_congr_member .text (i := .timePeriod) rfl hagree before after closed

theorem twenty_counts :
    let m : Json.Numeral := ⟨false, ['2', '0'], none, none⟩
    let m' : Json.Numeral := ⟨false, ['2'], some ['0'], some 1⟩
    m.SpelledBy "20".toList ∧ m.IsPlain ∧
      Forgiving.count .text (Json.readText "20").root =
        Forgiving.count .text (Json.readText ("\"" ++ "20" ++ "\"")).root ∧
      m'.SpelledBy "2.0e1".toList ∧ m'.IsShort ∧ m'.value = (20 : UInt32).toNat ∧
      Forgiving.count .text (Json.readText "2.0e1").root = .ok (some 20) := by
  intro m m'
  have hspelled : m.SpelledBy "20".toList := Json.Numeral.read?_eq_some_iff.mp rfl
  have hplain : m.IsPlain := ⟨rfl, rfl, rfl⟩
  have hspelled' : m'.SpelledBy "2.0e1".toList := Json.Numeral.read?_eq_some_iff.mp rfl
  have hshort : m'.IsShort := .inr (by decide)
  have hvalue : m'.value = (20 : UInt32).toNat := by
    have hdigits : m'.digits = 20 := by decide
    have hscale : m'.scale = 0 := by decide
    have htwenty : (20 : UInt32).toNat = 20 := rfl
    rw [Json.Numeral.value, hdigits, hscale, htwenty]
    norm_num [m']
  obtain ⟨-, -, -, -, -, -, hagree, -⟩ := counts_as_numbers_and_strings hspelled
  obtain ⟨-, -, -, -, -, hcount, -⟩ := counts_as_numbers_and_strings hspelled'
  exact ⟨hspelled, hplain, hagree.mpr ⟨.integer 20, rfl, .inl hplain⟩, hspelled', hshort, hvalue,
    hcount 20 hshort hvalue⟩

/-- Fifty with a fraction of zero counts as a number. As a string it does not, and an average over
fifty periods becomes one over the usual twenty. With more digits than a number holds, a whole
numeral may not even count as a number. -/
theorem decimal_string_is_no_count :
    let m : Json.Numeral := ⟨false, ['5', '0'], some ['0'], none⟩
    let long : Json.Numeral := ⟨false, "1000000001".toList, some "0000000000".toList, none⟩
    let before := "\x7b\"id\":\"a\",\"indicator\":\"SMA\",\"operator\":\"less_than\",\"period\":"
    let condition (n : UInt32) : Condition (Option String) :=
      ⟨some "a", .sma n, .lessThan, "", none, none⟩
    (m.SpelledBy "50.0".toList ∧ m.value = 50 ∧
      Forgiving.count .text (Json.readText "50.0").root = .ok (some 50) ∧
      Forgiving.count .text (Json.readText "\"50.0\"").root = .ok none ∧
      Condition.decoder.ofText (before ++ "50.0\x7d") = .ok (condition 50) ∧
      Condition.decoder.ofText (before ++ "\"50.0\"\x7d") = .ok (condition 20)) ∧
    long.SpelledBy "1000000001.0000000000".toList ∧ long.value = 1000000001 ∧
      Forgiving.count .text (Json.readText "1000000001.0000000000").root = .ok none := by
  intro m long before condition
  have hvalue : m.value = 50 := by
    have hdigits : m.digits = 500 := by decide
    have hscale : m.scale = -1 := by decide
    rw [Json.Numeral.value, hdigits, hscale]
    norm_num [m]
  have hlong : long.value = 1000000001 := by
    have hdigits : long.digits = 10000000010000000000 := by decide +kernel
    have hscale : long.scale = -10 := by decide +kernel
    rw [Json.Numeral.value, hdigits, hscale]
    norm_num [long]
  exact ⟨⟨Json.Numeral.read?_eq_some_iff.mp rfl, hvalue, by decide +kernel, by decide +kernel,
    by decide +kernel, by decide +kernel⟩, Json.Numeral.read?_eq_some_iff.mp rfl, hlong,
    by decide +kernel⟩

end Strategy

end TradingRules
