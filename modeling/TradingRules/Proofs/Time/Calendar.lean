import TradingRules.Time.Calendar
import Mathlib.Tactic.IntervalCases

namespace TradingRules.Time

theorem daysInMonth_le (year : Int) (month : Nat) : daysInMonth year month ≤ 31 := by
  rw [daysInMonth]
  split_ifs <;> decide

/-- A day of an era of 400 years, counted in centuries, in periods of four years and in years. The
last day of a leap year is its 365th, if its first one is the zeroth. -/
structure DayParts (r c q s t : Int) : Prop where
  eq : r = 36524 * c + 1461 * q + 365 * s + t
  century : 0 ≤ c ∧ c ≤ 3
  four : 0 ≤ q ∧ q ≤ 24
  year : 0 ≤ s ∧ s ≤ 3
  dayOfYear : 0 ≤ t ∧ t ≤ 365
  leapDay : t = 365 → s = 3 ∧ (q = 24 → c = 3)

theorem exists_dayParts {r : Int} (hr : 0 ≤ r ∧ r < 146097) :
    ∃ c q s t, DayParts r c q s t := by
  obtain ⟨c, hc⟩ : ∃ c, c = min (r / 36524) 3 := ⟨_, rfl⟩
  obtain ⟨q, hq⟩ : ∃ q, q = (r - 36524 * c) / 1461 := ⟨_, rfl⟩
  obtain ⟨e, he⟩ : ∃ e, e = (r - 36524 * c) % 1461 := ⟨_, rfl⟩
  obtain ⟨s, hs⟩ : ∃ s, s = min (e / 365) 3 := ⟨_, rfl⟩
  have hday : 0 ≤ r - 36524 * c ∧ (r - 36524 * c < 36524 ∨ c = 3 ∧ r - 36524 * c = 36524) := by
    omega
  have hsplit : r - 36524 * c = 1461 * q + e ∧ 0 ≤ e ∧ e < 1461 := by omega
  have hfour : 0 ≤ q ∧ q ≤ 24 := by omega
  have hyear : 0 ≤ s ∧ s ≤ 3 ∧ 0 ≤ e - 365 * s ∧ e - 365 * s ≤ 365 ∧
      (e - 365 * s = 365 → s = 3) := by omega
  exact ⟨c, q, s, e - 365 * s, by omega, by omega, hfour, by omega, by omega, by omega⟩

namespace DayParts

variable {r c q s t : Int} (h : DayParts r c q s t)

include h

theorem yearOfEra_eq :
    (r - r / 1460 + r / 36524 - r / 146096) / 365 = 100 * c + 4 * q + s := by
  obtain ⟨hr, hc, hq, hs, ht, hleap⟩ := h
  have hcentury : r / 36524 - r / 146096 = c := by
    obtain h | h : 1461 * q + 365 * s + t < 36524 ∨ r = 146096 ∧ c = 3 := by omega
    · have hcenturies : r / 36524 = c := by omega
      have hera : r / 146096 = 0 := by omega
      omega
    · rw [h.1, h.2]
      rfl
  -- The leap days of the periods that are over, and one more late in the last year.
  obtain ⟨j, hj⟩ : ∃ j, j = (24 * c + q + 365 * s + t) / 1460 := ⟨_, rfl⟩
  have hfours : r / 1460 = 25 * c + q + j := by omega
  have hrest : r - r / 1460 + r / 36524 - r / 146096 =
      365 * (100 * c + 4 * q + s) + (t - j) := by omega
  have hbound : 0 ≤ t - j ∧ t - j < 365 := by omega
  rw [hrest]
  omega

theorem dayOfYear_eq : r - (365 * (100 * c + 4 * q + s) + (100 * c + 4 * q + s) / 4 -
    (100 * c + 4 * q + s) / 100) = t := by
  obtain ⟨hr, hc, hq, hs, ht, hleap⟩ := h
  have hfours : (100 * c + 4 * q + s) / 4 = 25 * c + q := by omega
  have hcenturies : (100 * c + 4 * q + s) / 100 = c := by omega
  omega

end DayParts

namespace Date

/-- A date from the month and the day of a year that begins in March. -/
def ofMarch (year month day : Int) : Date :=
  ⟨if month < 10 then year else year + 1,
    if month < 10 then (month + 3).toNat else (month - 9).toNat, (day + 1).toNat⟩

theorem exists_ofDays (n : Int) : ∃ era c q s t, DayParts (n + 719468 - 146097 * era) c q s t ∧
    ofDays n = ofMarch (400 * era + (100 * c + 4 * q + s)) ((5 * t + 2) / 153)
      (t - (153 * ((5 * t + 2) / 153) + 2) / 5) := by
  have hmod : n + 719468 - 146097 * ((n + 719468) / 146097) = (n + 719468) % 146097 := by omega
  obtain ⟨c, q, s, t, h⟩ := exists_dayParts (r := (n + 719468) % 146097) (by omega)
  refine ⟨(n + 719468) / 146097, c, q, s, t, hmod ▸ h, ?_⟩
  have ht := h.dayOfYear
  have hmonth : 0 ≤ (5 * t + 2) / 153 ∧ (5 * t + 2) / 153 ≤ 11 := by omega
  simp only [ofDays, h.yearOfEra_eq, h.dayOfYear_eq, ofMarch, mk.injEq, and_true]
  generalize (5 * t + 2) / 153 = m at hmonth
  split <;> omega

theorem toDays_ofMarch (era : Int) {y : Int} (hy : 0 ≤ y ∧ y < 400) {m : Nat} (hm : m < 12)
    (d : Nat) : (ofMarch (400 * era + y) m d).toDays =
      146097 * era + (365 * y + y / 4 - y / 100) + ((153 * m + 2) / 5 + d : Nat) - 719468 := by
  have hera : (400 * era + y) / 400 = era := by omega
  have hyearOfEra : (400 * era + y) % 400 = y := by omega
  have hd : ((d : Int) + 1).toNat = d + 1 := by omega
  unfold toDays ofMarch
  dsimp only
  rw [hd]
  split
  · have hlate : ((m : Int) + 3).toNat = m + 3 := by omega
    have hback : (m + 3 + 9) % 12 = m := by omega
    rw [hlate, hback, if_neg (by omega), hera, hyearOfEra]
    omega
  · have hearly : ((m : Int) - 9).toNat = m - 9 := by omega
    have hback : (m - 9 + 9) % 12 = m := by omega
    rw [hearly, hback, if_pos (by omega), add_sub_cancel_right, hera, hyearOfEra]
    omega

theorem toDays_ofDays (n : Int) : (ofDays n).toDays = n := by
  obtain ⟨era, c, q, s, t, h, hdate⟩ := exists_ofDays n
  have hr := h.dayOfYear_eq
  obtain ⟨-, hc, hq, hs, ht, -⟩ := h
  obtain ⟨m, hm⟩ : ∃ m : Nat, (5 * t + 2) / 153 = m :=
    Int.eq_ofNat_of_zero_le (by omega)
  obtain ⟨d, hd⟩ : ∃ d : Nat, t - (153 * (m : Int) + 2) / 5 = d :=
    Int.eq_ofNat_of_zero_le (by omega)
  rw [hdate, hm, hd, toDays_ofMarch era (by omega) (by omega)]
  omega

theorem isValid_ofDays (n : Int) : (ofDays n).isValid := by
  obtain ⟨era, c, q, s, t, h, hdate⟩ := exists_ofDays n
  obtain ⟨-, hc, hq, hs, ht, hleap⟩ := h
  obtain ⟨m, hm⟩ : ∃ m : Nat, (5 * t + 2) / 153 = m :=
    Int.eq_ofNat_of_zero_le (by omega)
  obtain ⟨d, hd⟩ : ∃ d : Nat, t - (153 * (m : Int) + 2) / 5 = d :=
    Int.eq_ofNat_of_zero_le (by omega)
  have hleapYear : t = 365 → isLeapYear (400 * era + (100 * c + 4 * q + s) + 1) := by
    intro hlast
    obtain ⟨rfl, hcentury⟩ := hleap hlast
    have hfour : (400 * era + (100 * c + 4 * q + 3) + 1) % 4 = 0 := by omega
    obtain hlt | rfl : q < 24 ∨ q = 24 := by omega
    · have hhundred : (400 * era + (100 * c + 4 * q + 3) + 1) % 100 = 4 * q + 4 := by omega
      simp [isLeapYear, hfour, hhundred]
      omega
    · obtain rfl := hcentury rfl
      have hfourHundred : (400 * era + (100 * 3 + 4 * 24 + 3) + 1) % 400 = 0 := by omega
      simp only [isLeapYear, hfour, hfourHundred]
      simp
  rw [hdate, hm, hd]
  generalize 400 * era + (100 * c + 4 * q + s) = year at hleapYear ⊢
  have hlt : m < 12 := by omega
  interval_cases m
  case «11» =>
    have hfebruary : d + 1 ≤ if isLeapYear (year + 1) then 29 else 28 := by
      by_cases hlast : t = 365
      · rw [if_pos (hleapYear hlast)]
        omega
      · split <;> omega
    simpa [ofMarch, isValid, daysInMonth] using hfebruary
  all_goals
    simp [ofMarch, isValid, daysInMonth]
    omega

end Date

end TradingRules.Time
