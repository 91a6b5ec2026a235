import TradingRules.Proofs.Json.Numerals
import TradingRules.Proofs.Text.LetterCase
import TradingRules.Proofs.Time.Calendar
import TradingRules.Time.Reading

namespace TradingRules

namespace Instant

section Padded

variable (width n : Nat)

theorem isDigit_padded : ∀ c ∈ padded width n, c.isDigit := by
  intro c hc
  rcases List.mem_append.mp hc with hc | hc
  · rw [List.eq_of_mem_replicate hc]
    rfl
  · exact Json.isDigit_of_mem_toDigits hc

theorem length_padded :
    (padded width n).length = max width (Nat.toDigits 10 n).length := by
  rw [padded, List.length_append, List.length_replicate]
  omega

theorem value_padded : Nat.ofDigitChars 10 (padded width n) 0 = n := by
  rw [padded, Nat.ofDigitChars_append, Nat.ofDigitChars_replicate_zero, Nat.mul_zero,
    Nat.ofDigitChars_ten_toDigits]

theorem length_padded_of_lt {width n : Nat} (hwidth : 0 < width) (h : n < 10 ^ width) :
    (padded width n).length = width := by
  have hdigits := (Nat.length_toDigits_le_iff (by decide) hwidth).mpr h
  rw [length_padded]
  omega

theorem exists_padded (hwidth : 0 < width) :
    ∃ c cs, padded width n = c :: cs ∧ c.isDigit := by
  cases hcs : padded width n with
  | nil =>
    have hlength := length_padded width n
    rw [hcs, List.length_nil] at hlength
    omega
  | cons c cs => exact ⟨c, cs, rfl, isDigit_padded width n c (hcs ▸ List.mem_cons_self)⟩

end Padded

/-- A point in time in a year of the calendar. More than a thousand million nanoseconds go only with
the last second of a minute. -/
structure InCalendar (t : Instant) : Prop where
  year : Time.firstYear ≤ (Time.Date.ofDays (t.seconds / 86400)).year ∧
    (Time.Date.ofDays (t.seconds / 86400)).year ≤ Time.lastYear
  nanos : t.nanos < 1000000000 ∨ t.seconds % 60 = 59 ∧ t.nanos < 2000000000

end Instant

namespace Time

open Instant

variable {α β : Type}

theorem bind_ok {r : Reader α} {f : α → Reader β} {cs rest : List Char} {a : α}
    (h : r cs = .ok (a, rest)) : (r >>= f) cs = f a rest := by
  have hbind : (r >>= f) cs = r cs >>= fun x ↦ f x.1 x.2 := rfl
  rw [hbind, h]
  rfl

theorem bind_get (f : List Char → Reader β) (cs : List Char) : (get >>= f) cs = f cs cs :=
  rfl

theorem bind_set (f : PUnit → Reader β) (cs rest : List Char) :
    (set rest >>= f) cs = f ⟨⟩ rest :=
  rfl

theorem exists_of_bind_eq_ok {r : Reader α} {f : α → Reader β} {cs : List Char}
    {x : β × List Char} (h : (r >>= f) cs = .ok x) :
    ∃ a rest, r cs = .ok (a, rest) ∧ f a rest = .ok x := by
  have hbind : (r >>= f) cs = r cs >>= fun x ↦ f x.1 x.2 := rfl
  rw [hbind] at h
  cases hcs : r cs with
  | error fault =>
    rw [hcs] at h
    cases h
  | ok y =>
    rw [hcs] at h
    exact ⟨y.1, y.2, rfl, h⟩

theorem readNumber_append (least most : Nat) {ds rest : List Char} (hds : ∀ c ∈ ds, c.isDigit)
    (hleast : least ≤ ds.length) (hmost : ds.length ≤ most)
    (hend : ds.length = most ∨ ∀ c ∈ rest.head?, c.isDigit = false) :
    readNumber least most (ds ++ rest) = .ok (Nat.ofDigitChars 10 ds 0, rest) := by
  have hdigits : ((ds ++ rest).take most).takeWhile Char.isDigit = ds := by
    have hrest : (rest.take (most - ds.length)).takeWhile Char.isDigit = [] := by
      rcases hend with hall | hhead
      · rw [hall, Nat.sub_self]
        rfl
      · cases rest with
        | nil => rw [List.take_nil]; rfl
        | cons c rest =>
          cases most - ds.length with
          | zero => rfl
          | succ k => simp [hhead c rfl]
    rw [List.take_append, List.take_of_length_le hmost, List.takeWhile_append_of_pos hds, hrest,
      List.append_nil]
  simp only [readNumber, hdigits, if_neg (Nat.not_lt.mpr hleast), List.drop_left,
    Nat.ofDigitChars_eq_foldl]
  rfl

theorem readField_padded {least low high n : Nat} (hleast : least ≤ 2) (hn : low ≤ n ∧ n ≤ high)
    (hlt : n < 100) (rest : List Char) :
    readField least low high (padded 2 n ++ rest) = .ok (n, rest) := by
  have hlength : (padded 2 n).length = 2 := length_padded_of_lt (by decide) hlt
  have hread : readNumber least 2 (padded 2 n ++ rest) = _ :=
    readNumber_append least 2 (isDigit_padded 2 n) (by omega) (by omega) (.inl hlength)
  rw [value_padded] at hread
  rw [readField, bind_ok hread, if_pos hn]
  rfl

theorem readYear_unsigned {cs rest : List Char} {n : Nat}
    (hsign : cs.head? ≠ some '-' ∧ cs.head? ≠ some '+')
    (hread : readNumber 1 4 cs = .ok (n, rest)) (hn : n < 10 ^ 6) :
    readYear cs = .ok ((n : Int), rest) := by
  have hrange : ¬ ((n : Int) < -0x80000000 ∨ 0x80000000 ≤ (n : Int)) := by omega
  rw [readYear, bind_get]
  simp only [hsign.1, hsign.2, or_self, if_false]
  rw [bind_ok hread, if_neg hrange]
  rfl

theorem readYear_signed {sign : Char} {cs rest : List Char} {n : Nat}
    (hsign : sign = '-' ∨ sign = '+')
    (hread : readNumber 1 (cs.length + 1) cs = .ok (n, rest)) (hn : n < 10 ^ 6) :
    readYear (sign :: cs) = .ok (if sign = '-' then -(n : Int) else n, rest) := by
  have hrange : ¬ ((if sign = '-' then -(n : Int) else n) < -0x80000000 ∨
      0x80000000 ≤ (if sign = '-' then -(n : Int) else n)) := by
    split <;> omega
  have hhead : (sign :: cs).head? = some '-' ∨ (sign :: cs).head? = some '+' := by simpa using hsign
  rw [readYear, bind_get]
  simp only
  rw [if_pos hhead, if_pos hhead]
  simp only [List.tail_cons, List.length_cons, List.head?_cons, Option.some.injEq]
  rw [bind_set, bind_ok hread, if_neg hrange]
  rfl

theorem readYear_yearText {year : Int} (hyear : firstYear ≤ year ∧ year ≤ lastYear)
    (rest : List Char) : readYear (yearText year ++ '-' :: rest) = .ok (year, '-' :: rest) := by
  have hsmall : year.natAbs < 10 ^ 6 := by
    simp only [firstYear, lastYear] at hyear
    omega
  have hend : ∀ c ∈ ('-' :: rest).head?, c.isDigit = false := by simp
  rw [yearText]
  split
  case isTrue hplain =>
    have hlength : (padded 4 year.toNat).length = 4 := length_padded_of_lt (by decide) (by omega)
    have hread := readNumber_append 1 4 (isDigit_padded 4 year.toNat) (by omega) (by omega)
      (.inr hend)
    obtain ⟨c, cs, hcs, hc⟩ := exists_padded 4 year.toNat (by decide)
    have hsign {d : Char} (hd : d.isDigit = false) :
        (padded 4 year.toNat ++ '-' :: rest).head? ≠ some d := by
      simp [hcs, Text.ne_of_isDigit hc hd]
    rw [value_padded] at hread
    rw [readYear_unsigned ⟨hsign (by decide), hsign (by decide)⟩ hread (by omega),
      Int.toNat_of_nonneg hplain.1]
  case isFalse =>
    have hlength := length_padded 4 year.natAbs
    have hread := readNumber_append 1 ((padded 4 year.natAbs ++ '-' :: rest).length + 1)
      (isDigit_padded 4 year.natAbs) (by omega) (by simp; omega) (.inr hend)
    rw [value_padded] at hread
    rw [List.cons_append, readYear_signed (by split <;> simp) hread hsmall]
    congr 2
    grind

theorem readNanos_of_ne {cs : List Char} (hcs : ∀ c ∈ cs.head?, c ≠ '.') :
    readNanos cs = .ok (0, cs) := by
  rw [readNanos, bind_get]
  split
  · exact absurd rfl (hcs '.' rfl)
  · rfl

theorem readNanos_padded {width n : Nat} (hwidth : 0 < width ∧ width ≤ 9) (hn : n < 10 ^ width)
    {rest : List Char} (hrest : ∀ c ∈ rest.head?, c.isDigit = false) :
    readNanos ('.' :: (padded width n ++ rest)) = .ok (n * 10 ^ (9 - width), rest) := by
  have hlength := length_padded_of_lt hwidth.1 hn
  have hread := readNumber_append 1 9 (isDigit_padded width n) (by omega) (by omega) (.inr hrest)
  have hdrop : (modify (·.dropWhile Char.isDigit) : Reader PUnit) rest = .ok (⟨⟩, rest) := by
    have hmodify : (modify (·.dropWhile Char.isDigit) : Reader PUnit) rest =
        .ok (⟨⟩, rest.dropWhile Char.isDigit) := rfl
    rw [hmodify]
    cases rest with
    | nil => rfl
    | cons c rest => simp [hrest c rfl]
  have hplaces : (padded width n ++ rest).length - rest.length = width := by simp [hlength]
  rw [value_padded] at hread
  rw [readNanos, bind_get]
  simp only
  rw [bind_set, bind_ok hread, bind_get, bind_ok hdrop, hplaces]
  rfl

theorem readNanos_fractionText {nanos : Nat} (hnanos : nanos < 1000000000) {rest : List Char}
    (hrest : ∀ c ∈ rest.head?, c ≠ '.' ∧ c.isDigit = false) :
    readNanos (fractionText nanos ++ rest) = .ok (nanos, rest) := by
  have hdigit : ∀ c ∈ rest.head?, c.isDigit = false := fun c hc ↦ (hrest c hc).2
  simp only [fractionText]
  split_ifs with hzero hmillis hmicros
  · rw [hzero]
    exact readNanos_of_ne fun c hc ↦ (hrest c hc).1
  · have hvalue : nanos / 1000000 * 10 ^ (9 - 3) = nanos :=
      Nat.div_mul_cancel (Nat.dvd_of_mod_eq_zero hmillis)
    rw [List.cons_append, readNanos_padded (by decide) (by omega) hdigit, hvalue]
  · have hvalue : nanos / 1000 * 10 ^ (9 - 6) = nanos :=
      Nat.div_mul_cancel (Nat.dvd_of_mod_eq_zero hmicros)
    rw [List.cons_append, readNanos_padded (by decide) (by omega) hdigit, hvalue]
  · rw [List.cons_append, readNanos_padded (by decide) hnanos hdigit, Nat.sub_self, Nat.pow_zero,
      Nat.mul_one]

theorem readMark_cons {marks : List Char} {c : Char} (hc : c ∈ marks) (cs : List Char) :
    readMark marks (c :: cs) = .ok (c, cs) := by
  rw [readMark, if_pos hc]

theorem skipBlanks_of_head {cs : List Char} (h : ∀ c ∈ cs.head?, Text.isBlank c = false) :
    skipBlanks cs = .ok ((), cs) := by
  have hskip : skipBlanks cs = .ok ((), Text.dropBlanks cs) := rfl
  rw [hskip]
  cases cs with
  | nil => rfl
  | cons c cs => simp [Text.dropBlanks, h c rfl]

theorem isBlank_head_padded {width : Nat} (hwidth : 0 < width) (n : Nat) (rest : List Char) :
    ∀ c ∈ (padded width n ++ rest).head?, Text.isBlank c = false := by
  obtain ⟨c, cs, hcs, hc⟩ := exists_padded width n hwidth
  rw [hcs]
  rintro _ ⟨⟩
  exact Text.isBlank_of_isDigit hc

theorem isBlank_head_yearText (year : Int) (rest : List Char) :
    ∀ c ∈ (yearText year ++ rest).head?, Text.isBlank c = false := by
  rw [yearText]
  split
  · exact isBlank_head_padded (by decide) _ rest
  · rintro _ ⟨⟩
    split <;> rfl

theorem readLooseParts_eq {year : Int} {month day hour minute second nanos : Nat}
    (hyear : firstYear ≤ year ∧ year ≤ lastYear) (hmonth : 1 ≤ month ∧ month ≤ 12)
    (hday : 1 ≤ day ∧ day ≤ 31) (hhour : hour ≤ 23) (hminute : minute ≤ 59) (hsecond : second ≤ 60)
    (hnanos : nanos < 1000000000) :
    readLooseParts (yearText year ++ '-' :: (padded 2 month ++ '-' :: (padded 2 day ++
      'T' :: (padded 2 hour ++ ':' :: (padded 2 minute ++ ':' :: (padded 2 second ++
        (fractionText nanos ++ ['Z']))))))) =
      .ok (⟨⟨year, month, day⟩, hour, minute, second, nanos, 0⟩, []) := by
  have hpadded (n : Nat) (rest : List Char) :
      skipBlanks (padded 2 n ++ rest) = .ok ((), padded 2 n ++ rest) :=
    skipBlanks_of_head (isBlank_head_padded (by decide) n rest)
  have hmark (c : Char) (hc : Text.isBlank c = false) (rest : List Char) :
      skipBlanks (c :: rest) = .ok ((), c :: rest) :=
    skipBlanks_of_head (by simpa using hc)
  have hend : ∀ c ∈ ['Z'].head?, c ≠ '.' ∧ c.isDigit = false := by
    rintro _ ⟨⟩
    decide
  -- Blanks may stand before every number and mark; in a text that was written there are none.
  rw [readLooseParts, bind_ok (skipBlanks_of_head (isBlank_head_yearText year _)),
    bind_ok (readYear_yearText hyear _), bind_ok (hmark '-' rfl _),
    bind_ok (readMark_cons (by decide) _), bind_ok (hpadded month _),
    bind_ok (readField_padded (by decide) hmonth (by omega) _), bind_ok (hmark '-' rfl _),
    bind_ok (readMark_cons (by decide) _), bind_ok (hpadded day _),
    bind_ok (readField_padded (by decide) hday (by omega) _),
    bind_ok (readMark_cons (by decide) _), bind_ok (hpadded hour _),
    bind_ok (readField_padded (by decide) ⟨hour.zero_le, hhour⟩ (by omega) _),
    bind_ok (hmark ':' rfl _),
    bind_ok (readMark_cons (by decide) _), bind_ok (hpadded minute _),
    bind_ok (readField_padded (by decide) ⟨minute.zero_le, hminute⟩ (by omega) _),
    bind_ok (hmark ':' rfl _),
    bind_ok (readMark_cons (by decide) _), bind_ok (hpadded second _),
    bind_ok (readField_padded (by decide) ⟨second.zero_le, hsecond⟩ (by omega) _),
    bind_ok (readNanos_fractionText hnanos hend), bind_ok (hmark 'Z' rfl _)]
  rfl

theorem toInstant_eq {t : Instant} (ht : t.InCalendar) :
    Parts.toInstant ⟨Date.ofDays (t.seconds / 86400), (t.seconds % 86400).toNat / 3600,
      (t.seconds % 86400).toNat / 60 % 60, (t.seconds % 86400).toNat % 60 + t.nanos / 1000000000,
      t.nanos % 1000000000, 0⟩ = .ok t := by
  obtain ⟨hyear, hnanos⟩ := ht
  simp only [Parts.toInstant, Date.toDays_ofDays, Date.isValid_ofDays]
  -- The sixtieth second and the nanoseconds past a second are one leap second.
  generalize hsecond : (if (t.seconds % 86400).toNat % 60 + t.nanos / 1000000000 = 60 then 1
    else 0) = leap
  have hleap : leap = t.nanos / 1000000000 := by
    split at hsecond <;> omega
  have hseconds : t.seconds / 86400 * 86400 + ((t.seconds % 86400).toNat / 3600 : Nat) * 3600 +
      ((t.seconds % 86400).toNat / 60 % 60 : Nat) * 60 +
      ((t.seconds % 86400).toNat % 60 + t.nanos / 1000000000 - leap : Nat) - 0 = t.seconds := by
    omega
  have hfraction : t.nanos % 1000000000 + leap * 1000000000 = t.nanos := by omega
  rw [hseconds, hfraction, if_neg (by simpa using hyear), if_neg (by decide),
    if_neg (by simpa using hyear)]

/-- What `r` reads, whatever the text. -/
def Gives (r : Reader α) (P : α → Prop) : Prop :=
  ∀ ⦃cs : List Char⦄ ⦃a : α⦄ ⦃rest : List Char⦄, r cs = .ok (a, rest) → P a

namespace Gives

variable {r : Reader α} {f : α → Reader β} {P : α → Prop} {Q : β → Prop}

theorem pure {a : α} (h : P a) : Gives (pure a) P := by
  rintro cs _ rest ⟨⟩
  exact h

theorem bind (hr : Gives r P) (hf : ∀ a, P a → Gives (f a) Q) : Gives (r >>= f) Q := by
  intro cs b rest h
  obtain ⟨a, after, hread, hrest⟩ := exists_of_bind_eq_ok h
  exact hf a (hr hread) hrest

theorem after (hf : ∀ a, Gives (f a) Q) : Gives (r >>= f) Q :=
  bind (P := fun _ ↦ True) (fun _ _ _ _ ↦ trivial) fun a _ ↦ hf a

end Gives

theorem readLoose_text {t : Instant} (ht : t.InCalendar) : readLoose t.text = .ok t := by
  have hnanos := ht.nanos
  have hdate := Date.isValid_ofDays (t.seconds / 86400)
  simp only [Date.isValid, Bool.and_eq_true, decide_eq_true_eq] at hdate
  obtain ⟨⟨hmonth, hfirst⟩, hlast⟩ := hdate
  have hparts := readLooseParts_eq ht.year hmonth ⟨hfirst, hlast.trans (daysInMonth_le _ _)⟩
    (by omega : (t.seconds % 86400).toNat / 3600 ≤ 23)
    (by omega : (t.seconds % 86400).toNat / 60 % 60 ≤ 59)
    (by omega : (t.seconds % 86400).toNat % 60 + t.nanos / 1000000000 ≤ 60)
    (by omega : t.nanos % 1000000000 < 1000000000)
  have htext : readLoose t.text = readLooseParts (t.localText ++ ['Z']) >>= fun x ↦
      if Text.dropBlanks x.2 ≠ [] then .error .trailing else x.1.toInstant := by
    rw [readLoose, text, String.toList_ofList]
  rw [htext]
  simp only [localText, List.append_assoc, List.cons_append, hparts]
  exact toInstant_eq ht

end Time

end TradingRules
