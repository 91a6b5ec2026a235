import TradingRules.Proofs.Json.Rereading
import TradingRules.Proofs.Strategy.RoundTrip

namespace TradingRules

namespace Exit

open Json Binary64

def ofText (text : String) : Except DocumentError Exit :=
  decoder.ofText text

/-- The exit that comes back after it was written, if its percentage does. -/
def reread? (e : Exit) : Option Exit :=
  match e.percent? with
  | some (.finite false rank) => (rereadRank? rank).map fun r ↦ e.withPercent (.ofRank false r)
  | _ => some e

theorem exists_rank_of_checkPercent {k : ExitKind} {x : Binary64}
    (h : checkPercent k x = .ok ()) :
    ∃ rank, x = .finite false rank ∧ rank.val ≠ 0 ∧ rank.val < rankOfQuotient (10 ^ 14) 1 := by
  have hfinite := isFinite_of_checkPercent h
  have hgreatest : greatestPercent.place? = some (units (rankOfQuotient 50 1) : Int) := by
    decide +kernel
  have hbound : rankOfQuotient 50 1 < rankOfQuotient (10 ^ 14) 1 := by decide +kernel
  unfold checkPercent at h
  split at h
  · next hx =>
    rw [Bool.and_eq_true] at hx
    cases x with
    | infinite s => cases hfinite
    | nan => cases hfinite
    | finite s rank =>
      cases s with
      | true =>
        have hnegative : (units rank : Int) < 0 := by
          simpa [lt, place?, zero, units_zero] using hx.1
        omega
      | false =>
        refine ⟨rank, rfl, ?_, ?_⟩
        · intro hzero
          simp [lt, place?, zero, hzero] at hx
        · have hle := hx.2
          unfold le at hle
          rw [hgreatest] at hle
          have hunits : units rank ≤ units (rankOfQuotient 50 1) :=
            Int.ofNat_le.mp (of_decide_eq_true hle)
          exact (units_strictMono.le_iff_le.mp hunits).trans_lt hbound
  · cases h

theorem toJson_of_percent {e : Exit} {x : Binary64} (he : e.percent? = some x)
    (hx : x.isFinite) : e.toJson = .object [("type", .string e.kind.name),
      ("value", .number (.real x))] := by
  cases e with
  | profitTarget y | stopLoss y | trailingStop y =>
    obtain rfl := Option.some.inj he
    rw [toJson, fieldMembers, Json.ofBinary64, if_pos hx]
  | _ => cases he

theorem percent?_withPercent {e : Exit} {x : Binary64} (he : e.percent? = some x)
    (y : Binary64) : (e.withPercent y).percent? = some y ∧ (e.withPercent y).kind = e.kind := by
  cases e with
  | profitTarget | stopLoss | trailingStop => exact ⟨rfl, rfl⟩
  | _ => cases he

theorem withPercent_self {e : Exit} {x : Binary64} (he : e.percent? = some x) :
    e.withPercent x = e := by
  cases e with
  | profitTarget | stopLoss | trailingStop => rw [← Option.some.inj he, withPercent]
  | _ => cases he

theorem withPercent_of_none {e : Exit} (he : e.percent? = none) (y : Binary64) :
    e.withPercent y = e := by
  cases e with
  | profitTarget | stopLoss | trailingStop => cases he
  | _ => rfl

theorem exists_read_percent {k : ExitKind} {x : Binary64} (h : checkPercent k x = .ok ()) :
    ∃ rank m r, x = .finite false rank ∧ rereadRank? rank = some r ∧
      (ofRank false r).isFinite ∧ Numeral.read? (writeNumber (.real x)) = some (m, []) ∧
      m.number? = some (.real (ofRank false r)) := by
  obtain ⟨rank, rfl, hpos, hlt⟩ := exists_rank_of_checkPercent h
  obtain ⟨r, hr, hfinite⟩ := exists_rereadRank hpos hlt
  obtain ⟨m, hread, hnumber⟩ := exists_read?_magnitudeText hpos hlt
  refine ⟨rank, m, r, rfl, hr, ?_, ?_, ?_⟩
  · rw [ofRank, dif_pos hfinite]
    rfl
  · rw [writeNumber, if_pos (isFinite_of_checkPercent h), Binary64.text, String.toList_ofList]
    exact hread
  · rw [hnumber, hr]
    rfl

theorem checkPercent_of_check {e : Exit} {x : Binary64} (h : e.check = .ok ())
    (hx : e.percent? = some x) : checkPercent e.kind x = .ok () := by
  cases e with
  | profitTarget | stopLoss | trailingStop => exact Option.some.inj hx ▸ h
  | _ => cases hx

/-- Of an exit with a checked percentage, only the percentage may be read as another one. -/
theorem exists_reread {e : Exit} (h : e.check = .ok ()) :
    ∃ y : Binary64, y.isFinite ∧ e.reread? = some (e.withPercent y) ∧
      (e.withPercent y).HasFinitePercent ∧ e.toJson.reread = .ofJson (e.withPercent y).toJson := by
  have he := hasFinitePercent_of_check h
  cases hx : e.percent? with
  | none =>
    have hlegible : e.toJson.Legible 127 :=
      within_toJson (fun _ ↦ id) he (fun x hsome ↦ by simp [hx] at hsome) (by decide)
    refine ⟨.zero, rfl, ?_⟩
    rw [withPercent_of_none hx]
    exact ⟨by simp [reread?, hx], he, reread_eq hlegible⟩
  | some x =>
    obtain ⟨rank, m, r, rfl, hr, hfinite, hread, hnumber⟩ :=
      exists_read_percent (checkPercent_of_check h hx)
    obtain ⟨hpercent, hkind⟩ := percent?_withPercent hx (ofRank false r)
    refine ⟨ofRank false r, hfinite, by simp [reread?, hx, hr],
      hasFinitePercent_withPercent e hfinite he, ?_⟩
    rw [toJson_of_percent hx rfl, toJson_of_percent hpercent hfinite, hkind]
    simp [reread, rereadMembers, Source.ofJson, Source.ofMembers, Number.reread?_eq hread, hnumber]

theorem exists_ofText_toJson {e : Exit} (h : e.check = .ok ()) :
    ∃ y : Binary64, y.isFinite ∧ e.reread? = some (e.withPercent y) ∧
      ofText e.toJson.compact = .ok (e.withPercent y) := by
  obtain ⟨y, hy, hback, hproper, hreread⟩ := exists_reread h
  have hfinite := hasFinitePercent_of_check h
  have hreadable : e.toJson.Readable 127 := within_toJson (fun _ ↦ Number.Legible.readable) hfinite
    (fun x hx ↦ Number.readable_real (hfinite x hx)) (by decide)
  have hread := readText_write blank_none hreadable
  refine ⟨y, hy, hback, ?_⟩
  simp only [ofText, Decoder.ofText, compact, hread, hreread, decode_toJson .text hproper]
  rfl

theorem reread?_of_few_digits {e : Exit} (h : e.check = .ok ()) {n j : Nat} (hn : n ≤ 10 ^ 15)
    (hj : j ≤ 21) (hx : e.percent? = some (.ofQuotient false n (Nat.pow 10 j))) :
    e.reread? = some e := by
  obtain ⟨rank, hrank, hpos, hlt⟩ := exists_rank_of_checkPercent (checkPercent_of_check h hx)
  have hquotient : rankOfQuotient n (Nat.pow 10 j) = rank := by
    rw [ofQuotient, ofRank] at hrank
    split at hrank
    · injection hrank with _ hrank
      exact congrArg Fin.val hrank
    · cases hrank
  have hfew : 2 * n + 10 ≤ 2 * binade := by
    have hbinade : 2 * 10 ^ 15 + 10 ≤ 2 * binade := by decide
    omega
  have hback := rereadRank_of_nearest hpos hlt hfew hj hquotient
  have hself : ofRank false rank = .finite false rank := dif_pos rank.isLt
  rw [hrank] at hx
  simp [reread?, hx, hback, hself, withPercent_self hx]

theorem legible_of_reread? {e : Exit} (h : e.check = .ok ()) (hback : e.reread? = some e) :
    ∀ x, e.percent? = some x → (Number.real x).Legible := by
  intro x hx
  obtain ⟨rank, m, r, rfl, hr, -, hread, hnumber⟩ :=
    exists_read_percent (checkPercent_of_check h hx)
  have hself : e.withPercent (ofRank false r) = e := by simpa [reread?, hx, hr] using hback
  have hpercent := (percent?_withPercent hx (ofRank false r)).1
  rw [hself, hx] at hpercent
  rw [← Option.some.inj hpercent] at hnumber
  exact ⟨m, hread, hnumber⟩

/-- An exit with a checked percentage is read from its text as the same kind of exit, with the
percentage that two roundings of its shortest decimal give. Where this is the same percentage, a
strategy with the exit comes back from its text too; and it is for all decimals of fifteen
digits. -/
theorem checked_exit_is_read_with_two_roundings {e : Exit} (h : e.check = .ok ()) :
    (∃ y : Binary64, y.isFinite ∧ e.reread? = some (e.withPercent y) ∧
      ofText e.toJson.compact = .ok (e.withPercent y)) ∧
    (∀ st : Strategy, (∀ c ∈ st.conditions, c.rule.Fits) → st.exit = e → e.reread? = some e →
      Strategy.decoder.ofText st.toJson.compact = .ok st.stored) ∧
    (∀ n j, n ≤ 10 ^ 15 → j ≤ 21 → e.percent? = some (.ofQuotient false n (Nat.pow 10 j)) →
      e.reread? = some e) := by
  refine ⟨exists_ofText_toJson h, ?_, fun n j hn hj hx ↦ reread?_of_few_digits h hn hj hx⟩
  rintro st hfits rfl hback
  exact Strategy.ofText_toJson ⟨hfits, hasFinitePercent_of_check h⟩ (legible_of_reread? h hback)

theorem decimal_percentage_is_read_back :
    let e : Exit := .stopLoss (.ofQuotient false 14 (Nat.pow 10 1))
    e.check = .ok () ∧ ofText e.toJson.compact = .ok e := by
  intro e
  have hcheck : e.check = .ok () := by decide +kernel
  obtain ⟨⟨y, -, hy, hread⟩, -, hfew⟩ := checked_exit_is_read_with_two_roundings hcheck
  have hback := hfew 14 1 (by decide) (by decide) rfl
  rw [hback] at hy
  rw [← Option.some.inj hy] at hread
  exact ⟨hcheck, hread⟩

/-- One unit in the last place above 1.4, the shortest decimal is taken for 1.4. -/
theorem saved_percentage_can_change :
    let x : Binary64 := .ofQuotient false 14000000000000001 10000000000000000
    let y : Binary64 := .ofQuotient false 14 10
    (stopLoss x).check = .ok () ∧ x ≠ y ∧
      Forgiving.numberOf (.string "1.4000000000000001") = some x ∧
      (stopLoss x).toJson.compact =
        "\x7b\"type\":\"stop_loss\",\"value\":1.4000000000000001\x7d" ∧
      ofText (stopLoss x).toJson.compact = .ok (stopLoss y) := by
  decide +kernel

end Exit

namespace Strategy

theorem readable_toJson {st : Strategy} (hst : st.Proper) {levels : Nat} (hlevels : 2 < levels) :
    st.toJson.Readable levels :=
  within_toJson (fun _ ↦ Number.Legible.readable) hst
    (fun x hx ↦ Number.readable_real (hst.finite x hx)) hlevels

theorem reread_toJson {st : Strategy} {e : Exit} (h : st.exit.toJson.reread = .ofJson e.toJson) :
    st.toJson.reread = .ofJson { st with exit := e }.toJson := by
  have hlegible : ∀ v ∈ st.conditions.map (·.toJson), v.Legible 1 := by
    intro v hv
    obtain ⟨c, -, rfl⟩ := List.mem_map.mp hv
    exact c.legible_toJson (by decide)
  have hconditions : Json.rereadItems (st.conditions.map (·.toJson)) =
      Source.ofItems (st.conditions.map (·.toJson)) :=
    Json.rereadItems_eq (Json.withinItems_iff.mpr hlegible)
  simp [toJson, Json.reread, Json.rereadMembers, Source.ofJson, Source.ofMembers, hconditions, h]

/-- A strategy with a checked exit is read from its text, but for the percentage of the exit. -/
theorem decode_reread {st : Strategy} (hst : st.Proper) (hcheck : st.exit.check = .ok ()) :
    ∃ e, st.exit.reread? = some e ∧
      ∀ origin, decoder origin st.toJson.reread = .ok { st with exit := e }.stored := by
  obtain ⟨y, -, hback, hfinite, hreread⟩ := Exit.exists_reread hcheck
  refine ⟨_, hback, fun origin ↦ ?_⟩
  rw [reread_toJson hreread]
  exact decode_toJson origin ⟨hst.fits, hfinite⟩

end Strategy

end TradingRules
