import TradingRules.Proofs.Store.History

namespace TradingRules

namespace Call

def Reads : Call → Prop
  | .list | .get _ => True
  | .create _ _ | .delete _ => False

/-- Results that differ at most in the number and the times of a strategy that was created. -/
def Agree : (c : Call) → c.Result → c.Result → Prop
  | .create _ _, .ok saved, .ok saved' =>
    saved.name = saved'.name ∧ saved.strategy = saved'.strategy
  | _, r, r' => r = r'

theorem Agree.eq {c : Call} (hc : c.Reads) {r r' : c.Result} (h : c.Agree r r') : r = r' := by
  cases c with
  | list | get => exact h
  | create | delete => exact hc.elim

end Call

structure Row.Agree (r r' : Row) : Prop where
  owner : r.owner = r'.owner
  name : r.name = r'.name
  configuration : r.configuration = r'.configuration

/-- What a call can make of the rows of an owner in two tables that held the same ones: they are the
same again, up to the number and the times of a row that was created. -/
inductive Call.Twins (c : Call) (rows : List Row) : List Row → List Row → Prop
  | same (rows' : List Row) : Twins c rows rows' rows'
  | created {name : String} {strategy : Strategy} {r r' : Row} (hc : c = .create name strategy)
      (h : r.Agree r') : Twins c rows (rows ++ [r]) (rows ++ [r'])

namespace Table

variable {t t' : Table} {owner : String}

theorem hasName_congr (h : t.of owner = t'.of owner) (name : String) :
    t.hasName owner name = t'.hasName owner name := by
  rw [hasName, hasName, h]

theorem find?_congr (h : t.of owner = t'.of owner) (id : StrategyId) :
    t.find? owner id = t'.find? owner id := by
  rw [find?, find?, h]

theorem of_erase (t : Table) (owner : String) (id : StrategyId) :
    (t.erase owner id).of owner = (t.of owner).filter fun r ↦ !(r.strategyId = id) := by
  rw [of, of, erase, List.filter_filter, List.filter_filter]
  refine List.filter_congr fun r _ ↦ ?_
  by_cases howner : r.owner = owner <;> simp [howner]

theorem answer_twins (h : t.of owner = t'.of owner) (now now' : Instant) (c : Call) :
    c.Agree (t.answer owner now c).1 (t'.answer owner now' c).1 ∧
      c.Twins (t.of owner) ((t.answer owner now c).2.of owner)
        ((t'.answer owner now' c).2.of owner) := by
  cases c with
  | create name strategy =>
    cases hname : t.hasName owner name with
    | true =>
      have hname' := (hasName_congr h name).symm.trans hname
      rw [answer_create_of_hasName hname, answer_create_of_hasName hname', ← h]
      exact ⟨rfl, .same _⟩
    | false =>
      have hname' := (hasName_congr h name).symm.trans hname
      rw [answer_create hname, answer_create hname', of_push, of_push, ← h]
      exact ⟨⟨rfl, rfl⟩, .created rfl ⟨rfl, rfl, rfl⟩⟩
  | list =>
    have hlist : t'.answer owner now' .list = (.ok ((t.of owner).map (·.listing)), t') := by
      rw [h]
      rfl
    rw [hlist, ← h]
    exact ⟨rfl, .same _⟩
  | get id =>
    rw [answer_get_snd, answer_get_snd, ← h]
    refine ⟨?_, .same _⟩
    have hfind := find?_congr h id
    cases hr : t.find? owner id with
    | none => simp [answer, ← hfind, hr, Call.Agree]
    | some r => simp [answer, ← hfind, hr, Call.Agree]
  | delete id =>
    have hfind := find?_congr h id
    cases hr : t.find? owner id with
    | none =>
      rw [answer_delete_of_none hr, answer_delete_of_none (hfind.symm.trans hr), ← h]
      exact ⟨rfl, .same _⟩
    | some r =>
      rw [answer_delete_of_isSome (by simp [hr]), answer_delete_of_isSome (by simp [← hfind, hr]),
        of_erase, of_erase, ← h]
      exact ⟨rfl, .same _⟩

end Table

def Disk.reply {σ : Type} (d : Disk σ) (l : Local) (c : Call) (s : σ) : c.Result :=
  (d.perform (l.answer c) s).1.1

/-- A store of an owner on a file, whose backup is not written over the file. -/
structure Local.On {σ : Type} (l : Local) (d : Disk σ) (owner : String) : Prop where
  shelf : l.shelf = .file d.path
  owner : l.owner = owner
  backup : ∀ path, l.backup = some path → d.Apart path

def Event.Foreign {σ : Type} (d : Disk σ) (owner : String) : Event → Prop
  | .reopen => True
  | .call other backup _ => other ≠ owner ∧ ∀ path, backup = some path → d.Apart path

variable {σ τ : Type} {d : Disk σ} {d' : Disk τ} {s : σ} {s' : τ} {t t' : Table} {owner : String}

theorem Event.Foreign.perform {e : Event} (he : e.Foreign d owner) (hs : d.Holds s t) :
    ∃ t', d.Holds (d.perform (e.program d.path) s).2 t' ∧ t'.of owner = t.of owner := by
  cases e with
  | reopen =>
    have hopen := (Local.perform_openShelf hs).2
    exact ⟨t, by simpa [Event.program] using hopen, rfl⟩
  | call other backup c =>
    obtain ⟨now, -, hholds⟩ :=
      Local.perform_answer (l := ⟨.file d.path, other, backup⟩) rfl he.2 hs c
    exact ⟨_, by simpa [Event.program] using hholds, Table.of_answer he.1 c⟩

theorem Event.Foreign.perform_all {es : List Event} (hes : ∀ e ∈ es, e.Foreign d owner)
    (hs : d.Holds s t) : ∃ t', d.Holds (d.perform (es.mapM (Event.program d.path)) s).2 t' ∧
      t'.of owner = t.of owner := by
  induction es generalizing s t with
  | nil => exact ⟨t, hs, rfl⟩
  | cons e es ih =>
    rw [List.forall_mem_cons] at hes
    obtain ⟨t₁, hs₁, ht₁⟩ := hes.1.perform hs
    obtain ⟨t₂, hs₂, ht₂⟩ := ih hes.2 hs₁
    exact ⟨t₂, by simpa [List.mapM_cons] using hs₂, ht₂.trans ht₁⟩

theorem Local.On.twins {l l' : Local} (hl : l.On d owner) (hl' : l'.On d' owner)
    (hs : d.Holds s t) (hs' : d'.Holds s' t') (h : t.of owner = t'.of owner) (c : Call) :
    c.Agree (d.reply l c s) (d'.reply l' c s') ∧
      ∃ u u', d.Holds (d.perform (l.answer c) s).2 u ∧ d'.Holds (d'.perform (l'.answer c) s').2 u' ∧
        c.Twins (t.of owner) (u.of owner) (u'.of owner) := by
  obtain ⟨now, hresult, hholds⟩ := Local.perform_answer hl.shelf hl.backup hs c
  obtain ⟨now', hresult', hholds'⟩ := Local.perform_answer hl'.shelf hl'.backup hs' c
  rw [hl.owner] at hresult hholds
  rw [hl'.owner] at hresult' hholds'
  obtain ⟨hagree, htwins⟩ := Table.answer_twins h now now' c
  rw [Disk.reply, Disk.reply, hresult, hresult']
  exact ⟨hagree, _, _, hholds, hholds', htwins⟩

/-- Owners who share a file do not see each other. What an owner is told at a read is the same
after any calls of others. And at two files in which the owner has the same rows, whatever rows the
others have there, every call of the owner has the same result and leaves the owner the same rows,
up to the number and the times of a strategy that is created. -/
theorem owners_see_only_their_own (d : Disk σ) (d' : Disk τ) {l l' : Local} (hl : l.On d owner)
    (hl' : l'.On d' owner) (hs : d.Holds s t) (hs' : d'.Holds s' t') :
    (∀ es : List Event, (∀ e ∈ es, e.Foreign d owner) → ∀ c : Call, c.Reads →
      d.reply l c (d.perform (es.mapM (Event.program d.path)) s).2 = d.reply l c s) ∧
    (t.of owner = t'.of owner → ∀ c : Call,
      c.Agree (d.reply l c s) (d'.reply l' c s') ∧
      ∃ u u', d.Holds (d.perform (l.answer c) s).2 u ∧
        d'.Holds (d'.perform (l'.answer c) s').2 u' ∧
        c.Twins (t.of owner) (u.of owner) (u'.of owner)) := by
  constructor
  · intro es hes c hc
    obtain ⟨t₁, hs₁, ht₁⟩ := Event.Foreign.perform_all hes hs
    exact ((hl.twins hl hs₁ hs ht₁ c).1).eq hc
  · exact fun h c ↦ hl.twins hl' hs hs' h c

theorem owners_see_only_their_own_beside_guesses :
    let row (id : Nat) (owner name : String) : Row :=
      ⟨id, owner, name, (Strategy.initial "a").toJson.compact, "", ""⟩
    let t : Table := ⟨[row 1 "ann" "Dip", row 2 "ben" "Gap"], 2⟩
    let t' : Table := ⟨[row 1 "ann" "Dip", row 5 "cid" "Run"], 7⟩
    let s := Host.Content.text (Table.fileText (some t))
    let s' := Host.Content.text (Table.fileText (some t'))
    let l : Local := ⟨.file "strategies.db", "ann", none⟩
    let l' : Local := ⟨.file "strategies.db", "ann", some "backup.json"⟩
    let es : List Event := [.call "ben" none (.delete ⟨1⟩), .reopen,
      .call "cid" (some "backup.json") (.create "dip" (.initial "b"))]
    let d := Disk.single
    l.On d "ann" ∧ l'.On d "ann" ∧ d.Holds s t ∧ d.Holds s' t' ∧
      (∀ e ∈ es, e.Foreign d "ann") ∧ t.of "ann" = t'.of "ann" ∧
      d.reply l (.get ⟨1⟩) (d.perform (es.mapM (Event.program d.path)) s).2 =
        d.reply l (.get ⟨1⟩) s ∧
      d.reply l (.delete ⟨2⟩) s = d.reply l' (.delete ⟨2⟩) s' ∧
      ∀ strategy, (Call.create "gap" strategy).Agree (d.reply l (.create "gap" strategy) s)
        (d.reply l' (.create "gap" strategy) s') := by
  intro row t t' s s' l l' es d
  have hbackup : d.Apart "backup.json" := by simp [d, Disk.Apart, Disk.single]
  have hl : l.On d "ann" := ⟨rfl, rfl, by simp [l]⟩
  have hl' : l'.On d "ann" := ⟨rfl, rfl, fun path hpath ↦ Option.some.inj hpath ▸ hbackup⟩
  have hes : ∀ e ∈ es, e.Foreign d "ann" := by
    simp [es, Event.Foreign, hbackup]
  have hs : d.Holds s t := rfl
  have hs' : d.Holds s' t' := rfl
  have hrows : t.of "ann" = t'.of "ann" := by simp [t, t', row, Table.of]
  -- The runs themselves are not to be computed.
  clear_value t t' s s' l l' es d
  obtain ⟨hothers, hcall⟩ := owners_see_only_their_own d d hl hl' hs hs'
  exact ⟨hl, hl', hs, hs', hes, hrows, hothers es hes _ trivial, (hcall hrows (.delete ⟨2⟩)).1,
    fun strategy ↦ (hcall hrows _).1⟩

end TradingRules
