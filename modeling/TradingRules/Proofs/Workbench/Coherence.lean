import TradingRules.Proofs.Store.Ledger
import TradingRules.Proofs.Workbench.Scene

namespace TradingRules

def Visit.Spares (owner : String) (v : Visit) : Prop :=
  v.owner = owner → v.call = .list ∨ ∃ id, v.call = .get id

namespace Table

theorem of_answer_of_spares {owner : String} {v : Visit} (hv : v.Spares owner) (t : Table) :
    (t.answer v.owner v.now v.call).2.of owner = t.of owner := by
  by_cases h : v.owner = owner
  · obtain hc | ⟨id, hc⟩ := hv h
    · rw [hc]
      rfl
    · rw [hc, answer_get_snd]
  · exact of_answer h v.call

theorem of_visited {owner : String} {vs : List Visit} (h : ∀ v ∈ vs, v.Spares owner) (t : Table) :
    (t.visited vs).of owner = t.of owner :=
  visited_keeps (I := fun t' ↦ t'.of owner = t.of owner)
    (fun v hv _ ht ↦ (of_answer_of_spares (h v hv) _).trans ht) rfl

theorem of_answer_delete_subset {t : Table} {owner : String} {now : Instant} {id : StrategyId} :
    (t.answer owner now (.delete id)).2.of owner ⊆ t.of owner := by
  intro r hr
  obtain h | ⟨_, _, h, -⟩ | ⟨id, -, h⟩ := t.answer_cases owner now (.delete id)
  · rwa [h] at hr
  · cases h
  · rw [h, mem_of] at hr
    exact mem_of.mpr ⟨(List.mem_filter.mp hr.1).1, hr.2⟩

end Table

/-- What an operation does to the rows of the owner of a workbench, its list and its number. -/
inductive Effect (op : Operation) (rows : List Row) (w : Workbench) : List Row → Workbench → Prop
  | none {w' : Workbench} (hsaved : w'.saved = w.saved)
      (hloaded : w'.loaded = w.loaded ∨ w'.loaded = none) : Effect op rows w rows w'
  | loaded {w' : Workbench} {r : Row} (hr : r ∈ rows) (hsaved : w'.saved = w.saved)
      (hloaded : w'.loaded = some r.strategyId) : Effect op rows w rows w'
  | fetched {w' : Workbench} (hsaved : w'.saved = rows.map (·.listing))
      (hloaded : w'.loaded = w.loaded) : Effect op rows w rows w'
  | saved {w' : Workbench} {r : Row} {name : String} (hop : op = .save name)
      (hname : r.name = Text.trim name) (hsaved : w'.saved = (rows ++ [r]).map (·.listing))
      (hloaded : w'.loaded = some r.strategyId) : Effect op rows w (rows ++ [r]) w'
  | deleted {rows' : List Row} {w' : Workbench} (hrows : rows' ⊆ rows)
      (hsaved : w'.saved = rows'.map (·.listing)) (hloaded : w'.loaded = .none) :
      Effect op rows w rows' w'

namespace Scene

open Workbench

def Private (s : Scene) : Prop :=
  ∀ k, ∀ v ∈ (s.moments k).visits, v.Spares s.owner

def rows (s : Scene) (d : Desk) : List Row :=
  d.table.of s.owner

variable {s : Scene} {w : Workbench} {d : Desk}

theorem Private.of_tableAt (hs : s.Private) (d : Desk) : (s.tableAt d).of s.owner = s.rows d :=
  Table.of_visited (hs d.asked) d.table

theorem Private.rows_tableAt (hs : s.Private) (d : Desk) (asked : Nat) :
    s.rows ⟨s.tableAt d, asked⟩ = s.rows d :=
  hs.of_tableAt d

theorem Private.rows_perform (hs : s.Private) {α : Type} {p : Session α} (hp : p.Asks (· = .newId))
    (d : Desk) : s.rows (s.perform p d).2 = s.rows d := by
  refine Dialogue.perform_keeps (I := fun d' ↦ s.rows d' = s.rows d) ?_ hp rfl
  rintro q d' rfl hd'
  exact (hs.rows_tableAt d' _).trans hd'

theorem Private.effect_of_asks (hs : s.Private) {op : Operation} {w : Workbench} {d : Desk}
    {p : Session Workbench} (hp : p.Asks (· = .newId)) (hsaved : (s.perform p d).1.saved = w.saved)
    (hloaded : (s.perform p d).1.loaded = w.loaded ∨ (s.perform p d).1.loaded = none) :
    Effect op (s.rows d) w (s.rows (s.perform p d).2) (s.perform p d).1 := by
  rw [hs.rows_perform hp]
  exact .none hsaved hloaded

theorem Private.effect_save (hs : s.Private) (w : Workbench) (d : Desk) (name : String) :
    Effect (.save name) (s.rows d) w (s.rows (s.perform (w.save name) d).2)
      (s.perform (w.save name) d).1.2 := by
  obtain ⟨refusal, -, h⟩ | ⟨-, -, message, h⟩ | ⟨hready, hlist, htable⟩ :=
    perform_save_cases (s := s) w d name
  · rw [h]
    exact .none rfl (.inl rfl)
  · rw [h, hs.rows_tableAt]
    exact .none rfl (.inl rfl)
  · have h := perform_save hready hlist htable
    dsimp only at h
    rw [h, hs.rows_tableAt, hs.of_tableAt]
    have hpush := (s.tableAt d).of_push s.owner (s.moments d.asked).now (Text.trim name) w.draft
    simp only [rows, hpush, hs.of_tableAt]
    exact .saved rfl rfl rfl rfl

theorem Private.effect_load (hs : s.Private) (w : Workbench) (d : Desk) (id : StrategyId) :
    Effect (.load id) (s.rows d) w (s.rows (s.perform (w.load id) d).2)
      (s.perform (w.load id) d).1.2 := by
  obtain h | ⟨r, saved, hr, hsaved⟩ := perform_load_cases (s := s) w d id
  · rw [h, hs.rows_tableAt]
    exact .none rfl (.inl rfl)
  · have hid := (r.of_saved hsaved).1
    have hmem := hs.of_tableAt d ▸ List.mem_of_find?_eq_some hr
    have hnewId : newId.Asks (· = .newId) := Dialogue.asks_question rfl
    have hrows := hs.rows_perform (saved.asks_identify hnewId) ⟨s.tableAt d, d.asked + 1⟩
    rw [perform_load hr hsaved]
    dsimp only
    rw [hrows, hs.rows_tableAt]
    exact .loaded hmem rfl (congrArg some ((saved.id_perform_identify _).trans hid))

theorem Private.effect_delete (hs : s.Private) (w : Workbench) (d : Desk) (id : StrategyId) :
    Effect (.delete id) (s.rows d) w (s.rows (s.perform (w.delete id) d).2)
      (s.perform (w.delete id) d).1.2 := by
  cases h : id.isSet with
  | false =>
    rw [perform_delete_of_not_isSet h]
    exact .none rfl (.inl rfl)
  | true =>
    obtain ⟨hw, hd⟩ := perform_delete (s := s) (w := w) (d := d) h
    rw [hw, hd, hs.rows_tableAt, hs.rows_tableAt, hs.of_tableAt]
    refine .deleted (fun r hr ↦ ?_) rfl rfl
    have hr := Table.of_answer_delete_subset hr
    rwa [hs.of_tableAt] at hr

theorem Private.effect (hs : s.Private) (op : Operation) (w : Workbench) (d : Desk) :
    Effect op (s.rows d) w (s.rows (s.perform (op.act w) d).2) (s.perform (op.act w) d).1 := by
  have hkeep (x : Except Violation Workbench) (h : ∀ w', x = .ok w' →
      w'.saved = w.saved ∧ (w'.loaded = w.loaded ∨ w'.loaded = none)) :
      Effect op (s.rows d) w (s.rows d) (Operation.orKeep w x) :=
    have h := Operation.orKeep_keeps ⟨rfl, .inl rfl⟩ h
    .none h.1 h.2
  cases op with
  | setConnective c => exact .none rfl (.inl rfl)
  | setDirection c => exact .none rfl (.inl rfl)
  | setExit e => exact hkeep _ fun w' h ↦ by simp [(eq_of_setExit h).2]
  | applyPreset p => exact .none rfl (.inl rfl)
  | setExitKind k => exact .none rfl (.inl rfl)
  | add => exact hs.effect_of_asks ⟨rfl, fun _ ↦ trivial⟩ rfl (.inl rfl)
  | addCrossing primary compare value =>
    exact hs.effect_of_asks ⟨rfl, fun _ ↦ trivial⟩ rfl (.inl rfl)
  | update id e =>
    refine hkeep _ fun w' h ↦ ?_
    obtain rfl | ⟨cs, -, rfl⟩ := eq_of_update h <;> simp
  | remove id => exact .none rfl (.inl rfl)
  | reset => exact hs.effect_of_asks ⟨rfl, fun _ ↦ trivial⟩ rfl (.inr rfl)
  | importDraft st => exact hkeep _ fun w' h ↦ by simp [(eq_of_importDraft h).2]
  | save name =>
    simp only [Operation.act, perform_bind, perform_pure]
    exact hs.effect_save w d name
  | fetch =>
    simp only [Operation.act, perform_bind, perform_pure, perform_fetch]
    rw [hs.rows_tableAt, hs.of_tableAt]
    exact .fetched rfl rfl
  | load id =>
    simp only [Operation.act, perform_bind, perform_pure]
    exact hs.effect_load w d id
  | delete id =>
    simp only [Operation.act, perform_bind, perform_pure]
    exact hs.effect_delete w d id

/-- The list of a workbench is the list of the store. -/
structure Coherent (s : Scene) (w : Workbench) (d : Desk) : Prop where
  saved : w.saved = (s.rows d).map (·.listing)
  nulFree : ∀ r ∈ s.rows d, Text.NulFree r.name

/-- The number of a workbench, if it has one, is the number of a row of the owner. -/
def Anchored (s : Scene) (w : Workbench) (d : Desk) : Prop :=
  ∀ id, w.loaded = some id → ∃ r ∈ s.rows d, r.strategyId = id

theorem Private.coherent_act (hs : s.Private) {op : Operation} (hop : op.NulFree) {w : Workbench}
    {d : Desk} (h : s.Coherent w d) :
    s.Coherent (s.perform (op.act w) d).1 (s.perform (op.act w) d).2 := by
  have heffect := hs.effect op w d
  generalize hrows : s.rows (s.perform (op.act w) d).2 = rows' at heffect
  cases heffect with
  | none hsaved => exact ⟨by rw [hsaved, hrows, h.saved], hrows ▸ h.nulFree⟩
  | loaded _ hsaved => exact ⟨by rw [hsaved, hrows, h.saved], hrows ▸ h.nulFree⟩
  | fetched hsaved => exact ⟨by rw [hsaved, hrows], hrows ▸ h.nulFree⟩
  | deleted hsub hsaved =>
    exact ⟨by rw [hsaved, hrows], fun r hr ↦ h.nulFree r (hsub (hrows ▸ hr))⟩
  | saved heq hname hsaved =>
    obtain rfl := heq
    refine ⟨by rw [hsaved, hrows], fun r hr ↦ ?_⟩
    rcases List.mem_append.mp (hrows ▸ hr) with hr | hr
    · exact h.nulFree r hr
    · rw [List.mem_singleton.mp hr, hname]
      exact Text.NulFree.trim hop

theorem Private.anchored_act (hs : s.Private) (op : Operation) {w : Workbench} {d : Desk}
    (h : s.Anchored w d) :
    s.Anchored (s.perform (op.act w) d).1 (s.perform (op.act w) d).2 := by
  have heffect := hs.effect op w d
  intro id hid
  generalize hrows : s.rows (s.perform (op.act w) d).2 = rows' at heffect
  cases heffect with
  | none _ hloaded =>
    rcases hloaded with hloaded | hloaded
    · exact h id (hloaded.symm.trans hid)
    · rw [hloaded] at hid
      cases hid
  | loaded hr _ hloaded => exact ⟨_, hr, Option.some.inj (hloaded.symm.trans hid)⟩
  | fetched _ hloaded => exact h id (hloaded.symm.trans hid)
  | deleted _ _ hloaded =>
    rw [hloaded] at hid
    cases hid
  | saved _ _ _ hloaded => exact ⟨_, by simp, Option.some.inj (hloaded.symm.trans hid)⟩

theorem Coherent.hasName (h : s.Coherent w d) {r : Row} (hr : r ∈ s.rows d) {name : String}
    (hsame : Text.sameIgnoringAsciiCase r.name name) : w.hasName name := by
  have hlisting : r.listing ∈ w.saved := h.saved ▸ List.mem_map_of_mem hr
  exact List.any_eq_true.mpr ⟨_, hlisting, decide_eq_true (Text.lowerCase_eq_of_same hsame)⟩

theorem Private.hasName_tableAt (hs : s.Private) (h : s.Coherent w d) {name : String}
    (hname : Text.NulFree name) (hlist : w.hasName name = false) :
    (s.tableAt d).hasName s.owner name = false := by
  rw [Table.hasName_eq_false_iff, hs.of_tableAt]
  intro r hr
  rw [sameName_eq (h.nulFree r hr) hname, Bool.eq_false_iff]
  intro hsame
  exact Bool.false_ne_true (hlist.symm.trans (h.hasName hr hsame))

theorem Private.no_conflict (hs : s.Private) (h : s.Coherent w d) {name : String}
    (hname : Text.NulFree name) (message : String) :
    (s.perform (w.save name) d).1.1 ≠ .error (.store (.conflict message)) := by
  obtain ⟨refusal, hlocal, hsave⟩ | ⟨hlist, htable, -⟩ | ⟨hready, hlist, htable⟩ :=
    perform_save_cases (s := s) w d name
  · rw [hsave]
    intro heq
    rw [Except.error.inj heq] at hlocal
    exact Bool.false_ne_true hlocal
  · rw [hs.hasName_tableAt h hname.trim hlist] at htable
    exact absurd htable Bool.false_ne_true
  · rw [perform_save hready hlist htable]
    exact fun heq ↦ nomatch heq

theorem anchored_new (d : Desk) :
    s.Anchored (s.perform Workbench.new d).1 (s.perform Workbench.new d).2 := by
  intro id hid
  simp [new] at hid

/-- As long as nobody else writes to the rows of an owner, the list of the workbench stays the list
of the store, so every name that is taken is found before the store is called, and the store never
refuses one. The number of a workbench that was new is always that of a row. -/
theorem taken_names_are_found_in_the_list (s : Scene) (hs : s.Private) (ops : List Operation)
    (hops : ∀ op ∈ ops, op.NulFree) :
    (∀ w d, w.saved = (s.rows d).map (·.listing) → (∀ r ∈ s.rows d, Text.NulFree r.name) →
      let x := s.run ops (w, d)
      x.1.saved = (s.rows x.2).map (·.listing) ∧
      ∀ name, Text.NulFree name →
        (∀ message, (s.perform (x.1.save name) x.2).1.1 ≠ .error (.store (.conflict message))) ∧
        ∀ r ∈ s.rows x.2, Text.sameIgnoringAsciiCase r.name (Text.trim name) →
          Text.lowerCase r.name = Text.lowerCase (Text.trim name) ∧
          (Text.trim name ≠ "" → x.1.draft.conditions ≠ [] →
            x.1.save name = pure (.error (.duplicateName (Text.trim name)), x.1))) ∧
    ∀ d, let x := s.run ops (s.perform Workbench.new d)
      ∀ id, x.1.loaded = some id → ∃ r ∈ s.rows x.2, r.strategyId = id := by
  constructor
  · intro w d hsaved hnul x
    have hx : s.Coherent x.1 x.2 :=
      run_keeps (fun op hop _ _ h ↦ hs.coherent_act (hops op hop) h) ⟨hsaved, hnul⟩
    refine ⟨hx.saved, fun name hname ↦ ⟨hs.no_conflict hx hname, fun r hr hsame ↦ ?_⟩⟩
    refine ⟨Text.lowerCase_eq_of_same hsame, fun hblank hconditions ↦ ?_⟩
    exact save_eq_of_hasName (by simp [hblank, hconditions]) (hx.hasName hr hsame)
  · intro d x
    exact run_keeps (I := s.Anchored) (fun op _ _ _ h ↦ hs.anchored_act op h) (anchored_new d)

theorem taken_names_are_found_beside_visits :
    let visits : List Visit := [⟨"ben", ⟨0, 0⟩, .create "dip" (.initial "b")⟩,
      ⟨"ann", ⟨0, 0⟩, .list⟩]
    let s : Scene := ⟨"ann", fun _ ↦ ⟨visits, ⟨0, 0⟩, "c"⟩⟩
    let ops : List Operation := [.save "Dip", .add, .save " dip ", .load ⟨2⟩, .delete ⟨2⟩,
      .save "DIP"]
    let x := s.run ops (⟨.initial "a", [], none⟩, ⟨.empty, 0⟩)
    let y := s.run ops (s.perform Workbench.new ⟨.empty, 0⟩)
    s.Private ∧ (∀ op ∈ ops, op.NulFree) ∧ x.1.saved = (s.rows x.2).map (·.listing) ∧
      (∀ message, (s.perform (x.1.save "dip") x.2).1.1 ≠ .error (.store (.conflict message))) ∧
      ∀ id, y.1.loaded = some id → ∃ r ∈ s.rows y.2, r.strategyId = id := by
  intro visits s ops x y
  have hs : s.Private := by
    intro k v hv
    have hv : v ∈ visits := hv
    simp only [visits, List.mem_cons, List.not_mem_nil, or_false] at hv
    rcases hv with rfl | rfl
    · exact fun h ↦ absurd h (by decide)
    · exact fun _ ↦ .inl rfl
  have hops : ∀ op ∈ ops, op.NulFree := by
    simp [ops, Operation.NulFree, Text.NulFree]
  have hname : Text.NulFree "dip" := by simp [Text.NulFree]
  -- The run itself is not to be computed.
  clear_value s ops
  obtain ⟨hlist, hnew⟩ := taken_names_are_found_in_the_list s hs ops hops
  obtain ⟨hsaved, hsave⟩ := hlist ⟨.initial "a", [], none⟩ ⟨.empty, 0⟩ rfl (fun _ hr ↦ nomatch hr)
  exact ⟨hs, hops, hsaved, (hsave "dip" hname).1, hnew ⟨.empty, 0⟩⟩

end Scene

end TradingRules
