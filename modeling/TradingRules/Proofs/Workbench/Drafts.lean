import TradingRules.Proofs.Condition.Fits
import TradingRules.Proofs.Store.Ledger
import TradingRules.Proofs.Strategy.RoundTrip
import TradingRules.Proofs.Workbench.Scene

namespace TradingRules

theorem Strategy.proper_initial (id : String) : (Strategy.initial id).Proper where
  fits := by
    intro c hc
    obtain rfl := List.mem_singleton.mp hc
    exact Rule.fits_of_none rfl rfl
  finite := Exit.hasFinitePercent_of_none rfl

theorem Strategy.Proper.perform_identify {σ : Type}
    {answer : (q : Workbench.Question) → σ → Workbench.Answer q × σ}
    {st : Strategy (Option String)} (h : st.Proper) (x : σ) :
    (Dialogue.perform answer (st.identify Workbench.newId) x).1.Proper := by
  obtain ⟨ids, hids⟩ := st.exists_identifiedAs x
  exact h.of_identifiedAs hids

namespace Operation

def Fits : Operation → Prop
  | .importDraft st => ∀ c ∈ st.conditions, c.rule.Fits
  | _ => True

variable {id : StrategyId}

theorem asks_act {op : Operation} (hop : op ≠ .delete id) (w : Workbench) :
    (op.act w).Asks (· ≠ .call (.delete id)) := by
  have hnewId : Workbench.newId.Asks (· ≠ .call (.delete id)) :=
    Dialogue.asks_question (by simp)
  have hfetch (w : Workbench) : w.fetch.Asks (· ≠ .call (.delete id)) := by
    refine Dialogue.asks_bind (Dialogue.asks_question (by simp)) fun result ↦ ?_
    cases result <;> exact Dialogue.asks_pure _
  cases op with
  | setConnective c => exact Dialogue.asks_pure _
  | setDirection c => exact Dialogue.asks_pure _
  | setExit e => exact Dialogue.asks_pure _
  | applyPreset p => exact Dialogue.asks_pure _
  | setExitKind k => exact Dialogue.asks_pure _
  | add => exact Dialogue.asks_bind hnewId fun _ ↦ Dialogue.asks_pure _
  | addCrossing primary compare value =>
    exact Dialogue.asks_bind hnewId fun _ ↦ Dialogue.asks_pure _
  | update i e => exact Dialogue.asks_pure _
  | remove i => exact Dialogue.asks_pure _
  | reset => exact Dialogue.asks_bind hnewId fun _ ↦ Dialogue.asks_pure _
  | importDraft st => exact Dialogue.asks_pure _
  | save name =>
    refine Dialogue.asks_bind ?_ fun _ ↦ Dialogue.asks_pure _
    unfold Workbench.save
    dsimp only
    split
    · exact Dialogue.asks_pure _
    split
    · exact Dialogue.asks_pure _
    refine Dialogue.asks_bind (Dialogue.asks_question (by simp)) fun result ↦ ?_
    cases result with
    | error e => exact Dialogue.asks_pure _
    | ok saved =>
      refine Dialogue.asks_bind (saved.asks_identify hnewId) fun _ ↦ ?_
      exact Dialogue.asks_bind (hfetch _) fun _ ↦ Dialogue.asks_pure _
  | fetch => exact Dialogue.asks_bind (hfetch w) fun _ ↦ Dialogue.asks_pure _
  | load i =>
    refine Dialogue.asks_bind ?_ fun _ ↦ Dialogue.asks_pure _
    refine Dialogue.asks_bind (Dialogue.asks_question (by simp)) fun result ↦ ?_
    cases result with
    | error e => exact Dialogue.asks_pure _
    | ok saved => exact Dialogue.asks_bind (saved.asks_identify hnewId) fun _ ↦ Dialogue.asks_pure _
  | delete i =>
    have hi : i ≠ id := fun h ↦ hop (congrArg Operation.delete h)
    refine Dialogue.asks_bind ?_ fun _ ↦ Dialogue.asks_pure _
    unfold Workbench.delete
    split
    · exact Dialogue.asks_pure _
    refine Dialogue.asks_bind (Dialogue.asks_question (by simp [hi])) fun result ↦ ?_
    refine Dialogue.asks_bind (hfetch w) fun _ ↦ ?_
    refine Dialogue.asks_bind (Dialogue.asks_bind hnewId fun _ ↦ Dialogue.asks_pure _) fun _ ↦ ?_
    cases result <;> exact Dialogue.asks_pure _

end Operation

namespace Workbench

theorem fits_editFirst {id : String} {e : Edit} {cs cs' : List Condition}
    (hcs : ∀ c ∈ cs, c.rule.Fits) (h : editFirst id e cs = .ok (some cs')) :
    ∀ c ∈ cs', c.rule.Fits := by
  obtain ⟨before, c, after, c', rfl, rfl, -, -, hc'⟩ := exists_of_editFirst h
  rw [List.forall_mem_append, List.forall_mem_cons] at hcs ⊢
  exact ⟨hcs.1, Condition.fits_edit hcs.2.1 hc', hcs.2.2⟩

end Workbench

namespace Scene

open Workbench

variable {s : Scene} {w : Workbench} {d : Desk}

theorem proper_push (h : w.draft.Proper) {c : Condition} (hc : c.rule.Fits) :
    (w.push c).draft.Proper where
  fits := by
    intro c' hc'
    rcases List.mem_append.mp hc' with hc' | hc'
    · exact h.fits c' hc'
    · exact List.mem_singleton.mp hc' ▸ hc
  finite := h.finite

theorem draft_save (name : String) : (s.perform (w.save name) d).1.2.draft = w.draft := by
  obtain ⟨refusal, -, h⟩ | ⟨-, -, message, h⟩ | ⟨hready, hlist, htable⟩ :=
    perform_save_cases (s := s) w d name
  · rw [h]
  · rw [h]
  · rw [perform_save hready hlist htable]

theorem proper_load (h : w.draft.Proper) (id : StrategyId) :
    (s.perform (w.load id) d).1.2.draft.Proper := by
  obtain hload | ⟨r, saved, hr, hsaved⟩ := perform_load_cases (s := s) w d id
  · rw [hload]
    exact h
  · have hread := Strategy.proper_of_ofText (r.of_saved hsaved).2.2
    rw [perform_load hr hsaved]
    dsimp only
    rw [perform, saved.strategy_perform_identify]
    exact hread.perform_identify _

theorem proper_delete (h : w.draft.Proper) (id : StrategyId) :
    (s.perform (w.delete id) d).1.2.draft.Proper := by
  cases hid : id.isSet with
  | false =>
    rw [perform_delete_of_not_isSet hid]
    exact h
  | true =>
    rw [(perform_delete hid).1]
    exact Strategy.proper_initial _

theorem proper_act {op : Operation} (hop : op.Fits) (h : w.draft.Proper) :
    (s.perform (op.act w) d).1.draft.Proper := by
  cases op with
  | setConnective c => exact ⟨h.fits, h.finite⟩
  | setDirection c => exact ⟨h.fits, h.finite⟩
  | setExit e =>
    refine Operation.orKeep_keeps (P := fun w ↦ w.draft.Proper) h fun w' hw' ↦ ?_
    obtain ⟨hcheck, rfl⟩ := eq_of_setExit hw'
    exact ⟨h.fits, Exit.hasFinitePercent_of_check hcheck⟩
  | applyPreset p => exact ⟨h.fits, Exit.hasFinitePercent_preset p⟩
  | setExitKind k => exact ⟨h.fits, Exit.hasFinitePercent_withKind h.finite k⟩
  | add => exact proper_push h (Rule.fits_of_none rfl rfl)
  | addCrossing primary compare value => exact proper_push h (Rule.fits_crossing _ _ _)
  | update id e =>
    refine Operation.orKeep_keeps (P := fun w ↦ w.draft.Proper) h fun w' hw' ↦ ?_
    obtain rfl | ⟨cs, hcs, rfl⟩ := eq_of_update hw'
    · exact h
    · exact ⟨fits_editFirst h.fits hcs, h.finite⟩
  | remove id => exact ⟨fun c hc ↦ h.fits c (List.mem_filter.mp hc).1, h.finite⟩
  | reset =>
    rw [Operation.act, perform_reset]
    exact Strategy.proper_initial _
  | importDraft st =>
    refine Operation.orKeep_keeps (P := fun w ↦ w.draft.Proper) h fun w' hw' ↦ ?_
    obtain ⟨hcheck, rfl⟩ := eq_of_importDraft hw'
    exact ⟨hop, Exit.hasFinitePercent_of_check hcheck⟩
  | save name =>
    simp only [Operation.act, perform_bind, perform_pure, draft_save]
    exact h
  | fetch =>
    simp only [Operation.act, perform_bind, perform_pure, perform_fetch]
    exact h
  | load id =>
    simp only [Operation.act, perform_bind, perform_pure]
    exact proper_load h id
  | delete id =>
    simp only [Operation.act, perform_bind, perform_pure]
    exact proper_delete h id

theorem proper_new (d : Desk) : (s.perform Workbench.new d).1.draft.Proper :=
  Strategy.proper_initial _

theorem sound_tableAt (h : d.table.Sound) : (s.tableAt d).Sound :=
  Table.visited_keeps (fun v _ _ ht ↦ ht.answer v.owner v.now v.call) h

theorem sound_perform {α : Type} (p : Session α) (h : d.table.Sound) :
    (s.perform p d).2.table.Sound := by
  have hp : p.Asks fun _ ↦ True := Dialogue.asks_of_forall (fun _ ↦ trivial) p
  refine Dialogue.perform_keeps (I := fun d : Desk ↦ d.table.Sound) (fun q d _ hd ↦ ?_) hp h
  cases q with
  | call c => exact (sound_tableAt hd).answer s.owner _ c
  | newId => exact sound_tableAt hd

/-- The table has a row, and from now on only the workbench could delete it. -/
structure Holds (s : Scene) (r : Row) (d : Desk) : Prop where
  sound : d.table.Sound
  row : r ∈ d.table.rows
  owner : r.owner = s.owner
  visits : ∀ k, d.asked ≤ k → ∀ v ∈ (s.moments k).visits,
    ¬ (v.owner = s.owner ∧ v.call = .delete r.strategyId)

variable {r : Row}

theorem Holds.row_tableAt (h : s.Holds r d) : r ∈ (s.tableAt d).rows :=
  Table.visited_keeps (I := fun t ↦ r ∈ t.rows)
    (fun v hv _ ht ↦ Table.mem_answer ht (h.owner ▸ h.visits d.asked (Nat.le_refl _) v hv)) h.row

theorem Holds.answer (h : s.Holds r d) {q : Question} (hq : q ≠ .call (.delete r.strategyId)) :
    s.Holds r (s.answer q d).2 := by
  have hvisits : ∀ k, d.asked + 1 ≤ k → ∀ v ∈ (s.moments k).visits,
      ¬ (v.owner = s.owner ∧ v.call = .delete r.strategyId) :=
    fun k hk ↦ h.visits k (Nat.le_of_succ_le hk)
  cases q with
  | call c =>
    refine ⟨(sound_tableAt h.sound).answer s.owner _ c, ?_, h.owner, hvisits⟩
    exact Table.mem_answer h.row_tableAt fun hc ↦ hq (congrArg _ hc.2)
  | newId => exact ⟨sound_tableAt h.sound, h.row_tableAt, h.owner, hvisits⟩

theorem Holds.perform (h : s.Holds r d) {α : Type} {p : Session α}
    (hp : p.Asks (· ≠ .call (.delete r.strategyId))) : s.Holds r (s.perform p d).2 :=
  Dialogue.perform_keeps (fun _ _ hq hd ↦ hd.answer hq) hp h

theorem Holds.run (h : s.Holds r d) {ops : List Operation}
    (hops : ∀ op ∈ ops, op ≠ .delete r.strategyId) (w : Workbench) :
    s.Holds r (s.run ops (w, d)).2 :=
  run_keeps (I := fun _ d ↦ s.Holds r d)
    (fun op hop w _ hd ↦ hd.perform (Operation.asks_act (hops op hop) w)) h

theorem holds_of_save {name : String} {report : SaveReport} {w₁ : Workbench} {d₁ : Desk}
    (h : d.table.Sound) (hsave : s.perform (w.save name) d = ((.ok report, w₁), d₁))
    (hvisits : ∀ k, d.asked < k → ∀ v ∈ (s.moments k).visits,
      ¬ (v.owner = s.owner ∧ v.call = .delete report.strategy.id)) :
    ∃ r, s.Holds r d₁ ∧ r.strategyId = report.strategy.id ∧ r.name = Text.trim name ∧
      r.configuration = w.draft.toJson.compact := by
  obtain ⟨refusal, -, hcase⟩ | ⟨-, -, message, hcase⟩ | ⟨hready, hlist, htable⟩ :=
    perform_save_cases (s := s) w d name
  · rw [hcase] at hsave
    cases hsave
  · rw [hcase] at hsave
    cases hsave
  · have hcase := perform_save hready hlist htable
    dsimp only at hcase
    rw [hcase] at hsave
    cases hsave
    let t := s.tableAt d
    let now := (s.moments d.asked).now
    let r := t.next s.owner now (Text.trim name) w.draft
    have hadded : s.Holds r ⟨⟨t.rows ++ [r], t.lastId + 1⟩, d.asked + 1⟩ := by
      refine ⟨(sound_tableAt h).push htable w.draft, ?_, rfl, fun k hk ↦ hvisits k hk⟩
      exact List.mem_append_right _ (List.mem_singleton.mpr rfl)
    exact ⟨r, hadded.answer (by simp : Question.newId ≠ _), rfl, rfl, rfl⟩

theorem Holds.perform_load (h : s.Holds r d) {st : Strategy} (hst : st.Proper)
    (hlegible : ∀ x, st.exit.percent? = some x → (Number.real x).Legible)
    (hr : r.configuration = st.toJson.compact) :
    ∃ saved, s.perform (w.load r.strategyId) d =
        ((some saved, { w with draft := st, loaded := some r.strategyId }),
          ⟨s.tableAt d, d.asked + 1⟩) ∧
      saved.id = r.strategyId ∧ saved.name = r.name ∧ saved.strategy = st := by
  have hfind : (s.tableAt d).find? s.owner r.strategyId = some r :=
    h.owner ▸ (sound_tableAt h.sound).find?_eq_some h.row_tableAt
  have hread := Strategy.ofText_toJson hst hlegible
  have hsaved : r.saved = .ok ⟨r.strategyId, r.name, st.stored,
      (Time.readStored r.createdAt).toOption, (Time.readStored r.updatedAt).toOption⟩ := by
    simp [Row.saved, hr, hread]
  have hload := Scene.perform_load (w := w) hfind hsaved
  simp only [SavedStrategy.identify, Strategy.identify_stored, LawfulMonad.pure_bind,
    perform_pure] at hload
  exact ⟨_, hload, rfl, rfl, rfl⟩

/-- A draft that was saved is loaded as it was, under the name it was given without the blanks
around it, whatever was done since with the workbench and by others: only a delete of this strategy
by its owner takes it away. -/
theorem saved_draft_is_loaded (s : Scene) {d₀ : Desk} (hsound : d₀.table.Sound)
    {before : List Operation} (hbefore : ∀ op ∈ before, op.Fits) {w : Workbench} {d : Desk}
    (hreached : s.run before (s.perform Workbench.new d₀) = (w, d)) {name : String}
    {report : SaveReport} {w₁ : Workbench} {d₁ : Desk}
    (hsave : s.perform (w.save name) d = ((.ok report, w₁), d₁))
    (hlegible : ∀ x, w.draft.exit.percent? = some x → x.isFinite → (Number.real x).Legible)
    {after : List Operation} (hafter : ∀ op ∈ after, op ≠ .delete report.strategy.id)
    (hvisits : ∀ k, d.asked < k → ∀ v ∈ (s.moments k).visits,
      ¬ (v.owner = s.owner ∧ v.call = .delete report.strategy.id)) :
    let x := s.run after (w₁, d₁)
    ∃ saved d₂, s.perform (x.1.load report.strategy.id) x.2 =
        ((some saved, { x.1 with draft := w.draft, loaded := some report.strategy.id }), d₂) ∧
      saved.id = report.strategy.id ∧ saved.name = Text.trim name ∧ saved.strategy = w.draft := by
  intro x
  have hinv : w.draft.Proper ∧ d.table.Sound := by
    have h := run_keeps (s := s) (I := fun w d ↦ w.draft.Proper ∧ d.table.Sound)
      (fun op hop w d h ↦ ⟨proper_act (hbefore op hop) h.1, sound_perform _ h.2⟩)
      (x := s.perform Workbench.new d₀) ⟨proper_new d₀, sound_perform _ hsound⟩
    rwa [hreached] at h
  obtain ⟨hproper, hsound⟩ := hinv
  obtain ⟨r, hr, hid, hname, hconfiguration⟩ := holds_of_save hsound hsave hvisits
  rw [← hid] at hafter ⊢
  obtain ⟨saved, hload, hloaded⟩ := (hr.run hafter w₁).perform_load (w := x.1) hproper
    (fun y hy ↦ hlegible y hy (hproper.finite y hy)) hconfiguration
  exact ⟨saved, _, hload, hname ▸ hloaded⟩

/-- The owner saves another strategy elsewhere, somebody else tries to delete the draft, and the
workbench goes on to delete the other one. -/
theorem saved_crossing_is_loaded :
    let s : Scene := ⟨"ann", fun _ ↦ ⟨[⟨"ann", ⟨0, 0⟩, .create "Gap" (.initial "a")⟩,
      ⟨"ben", ⟨0, 0⟩, .delete ⟨2⟩⟩], ⟨0, 0⟩, "b"⟩⟩
    let before : List Operation := [.applyPreset .profitTarget10, .addCrossing .sma .ema ""]
    let x := s.run before (s.perform Workbench.new ⟨.empty, 0⟩)
    let after : List Operation := [.reset, .delete ⟨1⟩, .save "Dip", .fetch]
    ∃ report w₁ d₁, s.perform (x.1.save " Dip ") x.2 = ((.ok report, w₁), d₁) ∧
      report.strategy.id = ⟨2⟩ ∧
      let y := s.run after (w₁, d₁)
      ∃ saved d₂, s.perform (y.1.load ⟨2⟩) y.2 =
          ((some saved, { y.1 with draft := x.1.draft, loaded := some ⟨2⟩ }), d₂) ∧
        saved.id = ⟨2⟩ ∧ saved.name = Text.trim " Dip " ∧ saved.strategy = x.1.draft := by
  intro s before x after
  have hready : ¬ (Text.trim " Dip " = "" ∨ x.1.draft.conditions = []) := by decide +kernel
  have hlist : x.1.hasName (Text.trim " Dip ") = false := by decide +kernel
  have htable : (s.tableAt x.2).hasName s.owner (Text.trim " Dip ") = false := by decide +kernel
  have hid : (⟨((s.tableAt x.2).lastId + 1 : Nat)⟩ : StrategyId) = ⟨2⟩ := by decide +kernel
  have hbefore : ∀ op ∈ before, op.Fits := by
    simp [before, Operation.Fits]
  have hlegible : ∀ y, x.1.draft.exit.percent? = some y → y.isFinite →
      (Number.real y).Legible := by
    have hexit : x.1.draft.exit = .profitTarget (.ofNat 10) := by decide +kernel
    intro y hy _
    rw [hexit] at hy
    rw [← Option.some.inj hy]
    have hwrite : Json.writeNumber (.real (.ofNat 10)) = ['1', '0', '.', '0'] := by decide +kernel
    exact ⟨⟨false, ['1', '0'], some ['0'], none⟩, hwrite ▸ rfl, by decide +kernel⟩
  have hafter : ∀ op ∈ after, op ≠ .delete ⟨2⟩ := by
    simp [after]
  have hvisits : ∀ k, x.2.asked < k → ∀ v ∈ (s.moments k).visits,
      ¬ (v.owner = s.owner ∧ v.call = .delete ⟨2⟩) := by
    simp [s]
  obtain ⟨report, w₁, d₁, hsave, hreport⟩ : ∃ report w₁ d₁,
      s.perform (x.1.save " Dip ") x.2 = ((.ok report, w₁), d₁) ∧ report.strategy.id = ⟨2⟩ :=
    ⟨_, _, _, perform_save hready hlist htable, hid⟩
  refine ⟨report, w₁, d₁, hsave, hreport, ?_⟩
  rw [← hreport] at hafter hvisits ⊢
  exact saved_draft_is_loaded s Table.sound_empty hbefore rfl hsave hlegible hafter hvisits

end Scene

end TradingRules
