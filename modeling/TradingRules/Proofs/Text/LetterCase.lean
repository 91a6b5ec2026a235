import Mathlib.Data.List.TakeWhile
import TradingRules.Store.Table
import TradingRules.Text.LowerCase

namespace TradingRules

namespace Text

theorem toLower_eq_self_or_capital (c : Char) :
    c.toLower = c ∨ ∃ n < 26, c = Char.ofNat (65 + n) := by
  unfold Char.toLower
  split
  · next h =>
    have hleast : 65 ≤ c.toNat := h.1
    have hgreatest : c.toNat ≤ 90 := h.2
    refine .inr ⟨c.toNat - 65, by omega, ?_⟩
    rw [Nat.add_sub_cancel' hleast, Char.ofNat_toNat]
  · exact .inl rfl

theorem toLower_of_isDigit {c : Char} (h : c.isDigit) : c.toLower = c := by
  obtain hc | ⟨n, hn, rfl⟩ := toLower_eq_self_or_capital c
  · exact hc
  · have hcapital : ∀ n < 26, (Char.ofNat (65 + n)).isDigit = false := by decide
    exact absurd h (Bool.eq_false_iff.mp (hcapital n hn))

theorem isBlank_of_isDigit {c : Char} (h : c.isDigit) : isBlank c = false := by
  have hbounds : 48 ≤ c.toNat ∧ c.toNat ≤ 57 := Char.isDigit_iff_toNat.mp h
  rw [isBlank]
  simp only [Bool.or_eq_false_iff, Bool.and_eq_false_iff, decide_eq_false_iff_not]
  omega

theorem ne_of_isDigit {c d : Char} (hc : c.isDigit) (hd : d.isDigit = false) : c ≠ d := by
  rintro rfl
  exact Bool.false_ne_true (hd.symm.trans hc)

theorem apply_toLower {β : Type} {f : Char → β}
    (h : ∀ n < 26, f (Char.ofNat (65 + n)).toLower = f (Char.ofNat (65 + n))) (c : Char) :
    f c.toLower = f c := by
  obtain hc | ⟨n, hn, rfl⟩ := toLower_eq_self_or_capital c
  · rw [hc]
  · exact h n hn

theorem isCased_toLower (c : Char) : isCased c.toLower = isCased c :=
  apply_toLower (by decide +kernel) c

theorem isCaseIgnorable_toLower (c : Char) : isCaseIgnorable c.toLower = isCaseIgnorable c :=
  apply_toLower (by decide +kernel) c

theorem lowerChar_toLower (c : Char) : lowerChar c.toLower = lowerChar c :=
  apply_toLower (by decide +kernel) c

theorem utf8Size_toLower (c : Char) : c.toLower.utf8Size = c.utf8Size :=
  apply_toLower (by decide +kernel) c

theorem toNat_toLower_eq_iff {n : Nat} (h : ∀ k < 26, 65 + k ≠ n ∧ 97 + k ≠ n) (c : Char) :
    c.toLower.toNat = n ↔ c.toNat = n := by
  obtain hc | ⟨k, hk, rfl⟩ := toLower_eq_self_or_capital c
  · rw [hc]
  · have hcapital : ∀ k < 26, (Char.ofNat (65 + k)).toNat = 65 + k ∧
        (Char.ofNat (65 + k)).toLower.toNat = 97 + k := by decide +kernel
    rw [(hcapital k hk).1, (hcapital k hk).2]
    exact iff_of_false (h k hk).2 (h k hk).1

theorem meetsCased_map_toLower (cs : List Char) :
    meetsCased (cs.map Char.toLower) = meetsCased cs := by
  have hskip : isCaseIgnorable ∘ Char.toLower = isCaseIgnorable := funext isCaseIgnorable_toLower
  simp only [meetsCased, List.dropWhile_map, hskip]
  cases cs.dropWhile isCaseIgnorable with
  | nil => rfl
  | cons c cs => exact isCased_toLower c

theorem lowerAfter_map_toLower (before cs : List Char) :
    lowerAfter (before.map Char.toLower) (cs.map Char.toLower) = lowerAfter before cs := by
  induction cs generalizing before with
  | nil => rfl
  | cons c cs ih =>
    simp only [List.map_cons, lowerAfter, toNat_toLower_eq_iff (n := 0x3A3) (by omega),
      meetsCased_map_toLower, lowerChar_toLower]
    rw [← List.map_cons, ih]

theorem sameIgnoringAsciiCase_iff {s t : String} :
    sameIgnoringAsciiCase s t ↔ s.toList.map Char.toLower = t.toList.map Char.toLower := by
  simp [sameIgnoringAsciiCase]

/-- Equality up to ASCII case is finer than equality of the lower cases. -/
theorem lowerCase_eq_of_same {s t : String} (h : sameIgnoringAsciiCase s t) :
    lowerCase s = lowerCase t := by
  rw [lowerCase, lowerCase, ← lowerAfter_map_toLower [] s.toList, sameIgnoringAsciiCase_iff.mp h,
    lowerAfter_map_toLower]

theorem utf8ByteSize_map_toLower (cs : List Char) :
    (String.ofList (cs.map Char.toLower)).utf8ByteSize = (String.ofList cs).utf8ByteSize := by
  induction cs with
  | nil => rfl
  | cons c cs ih =>
    simp only [List.map_cons, String.ofList_cons, String.utf8ByteSize_append, ih,
      String.utf8ByteSize_singleton, utf8Size_toLower]

theorem utf8ByteSize_eq_of_same {s t : String} (h : sameIgnoringAsciiCase s t) :
    s.utf8ByteSize = t.utf8ByteSize := by
  have hs := utf8ByteSize_map_toLower s.toList
  rw [sameIgnoringAsciiCase_iff.mp h, utf8ByteSize_map_toLower] at hs
  simpa using hs.symm

def NulFree (s : String) : Prop :=
  ∀ c ∈ s.toList, c.toNat ≠ 0

theorem NulFree.takeWhile_eq {s : String} (h : NulFree s) :
    s.toList.takeWhile (·.toNat ≠ 0) = s.toList :=
  List.takeWhile_eq_self_iff.mpr fun c hc ↦ by simpa using h c hc

theorem mem_of_mem_trim {s : String} {c : Char} (h : c ∈ (trim s).toList) : c ∈ s.toList := by
  simp only [trim, dropBlanksEnd, String.toList_ofList, List.mem_reverse] at h
  have h := List.mem_reverse.mp ((List.dropWhile_sublist _).mem h)
  exact (List.dropWhile_sublist _).mem h

theorem NulFree.trim {s : String} (h : NulFree s) : NulFree (trim s) :=
  fun c hc ↦ h c (mem_of_mem_trim hc)

end Text

/-- For texts without NUL the names of a table are compared as a whole. -/
theorem sameName_eq {s t : String} (hs : Text.NulFree s) (ht : Text.NulFree t) :
    sameName s t = Text.sameIgnoringAsciiCase s t := by
  rw [Bool.eq_iff_iff]
  simp only [sameName, hs.takeWhile_eq, ht.takeWhile_eq, Bool.and_eq_true, decide_eq_true_eq,
    Text.sameIgnoringAsciiCase_iff]
  exact ⟨fun h ↦ h.2, fun h ↦
    ⟨Text.utf8ByteSize_eq_of_same (Text.sameIgnoringAsciiCase_iff.mpr h), h⟩⟩

end TradingRules
