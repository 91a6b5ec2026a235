import TradingRules.Proofs.Store.History
import TradingRules.Proofs.Workbench.Scene
import TradingRules.Store.Selected

namespace TradingRules

/-- What happens at a file: an operation of the workbench, or an event elsewhere. -/
inductive Turn
  | here (op : Operation)
  | elsewhere (e : Event)

namespace Turn

def operation? : Turn → Option Operation
  | .here op => some op
  | .elsewhere _ => none

end Turn

def Event.Meets (K : String → Call → Prop) : Event → Prop
  | .reopen => True
  | .call owner _ c => K owner c

def Turn.program (path : String) (x : Workbench × Local) : Turn → Program (Workbench × Local)
  | .here op => x.2.hold (op.act x.1)
  | .elsewhere e => do
    let _ ← e.program path
    return x

def Scene.ofMoments (owner : String) (ms : List Moment) : Scene :=
  ⟨owner, fun k ↦ ms[k]?.getD ⟨[], ⟨0, 0⟩, ""⟩⟩

theorem Scene.moments_ofMoments (owner : String) (before after : List Moment) (m : Moment) :
    (ofMoments owner (before ++ m :: after)).moments before.length = m := by
  simp [ofMoments]

theorem Scene.mem_moments_ofMoments {owner : String} {ms : List Moment} {k : Nat} {v : Visit}
    (hv : v ∈ ((ofMoments owner ms).moments k).visits) : ∃ m ∈ ms, v ∈ m.visits := by
  unfold ofMoments at hv
  dsimp only at hv
  cases h : ms[k]? with
  | none =>
    rw [h] at hv
    cases hv
  | some m =>
    rw [h] at hv
    exact ⟨m, List.mem_of_getElem? h, hv⟩

theorem Table.visited_append (t : Table) (vs : List Visit) (v : Visit) :
    t.visited (vs ++ [v]) = ((t.visited vs).answer v.owner v.now v.call).2 :=
  List.foldl_append ..

namespace Local

open Workbench (Session)

variable {σ : Type} {d : Disk σ} {l : Local}

theorem hold_ask {α : Type} (l : Local) (q : Workbench.Question)
    (next : Workbench.Answer q → Session α) :
    l.hold (.ask q next) = reply q l >>= fun x ↦ x.2.hold (next x.1) := rfl

theorem perform_reply (hshelf : l.shelf = .file d.path)
    (hbackup : ∀ path, l.backup = some path → d.Apart path) {x : σ} {t : Table} {vs : List Visit}
    (hx : d.Holds x (t.visited vs)) (q : Workbench.Question) :
    ∃ m t', m.visits = vs ∧ (d.perform (reply q l) x).1.2 = l ∧
      d.Holds (d.perform (reply q l) x).2 t' ∧
      ∀ (s : Scene) (n : Nat), s.owner = l.owner → s.moments n = m →
        s.answer q ⟨t, n⟩ = ((d.perform (reply q l) x).1.1, ⟨t', n + 1⟩) := by
  have htable (s : Scene) (n : Nat) (m : Moment) (hvisits : m.visits = vs)
      (hmoment : s.moments n = m) : s.tableAt ⟨t, n⟩ = t.visited vs := by
    rw [Scene.tableAt, hmoment, hvisits]
  cases q with
  | call c =>
    obtain ⟨now, hresult, hholds⟩ := perform_answer hshelf hbackup hx c
    have hperform : d.perform (reply (.call c) l) x = d.perform (l.answer c) x := rfl
    rw [hperform, hresult]
    refine ⟨⟨vs, now, ""⟩, _, rfl, rfl, hholds, ?_⟩
    intro s n howner hmoment
    simp only [Scene.answer, htable s n _ rfl hmoment, hmoment, howner]
  | newId =>
    have hperform : d.perform (reply .newId l) x =
        (((d.answer .newId x).1, l), (d.answer .newId x).2) := rfl
    rw [hperform]
    refine ⟨⟨vs, ⟨0, 0⟩, (d.answer .newId x).1⟩, _, rfl, rfl, (d.keep _ _ (by simp)).trans hx, ?_⟩
    intro s n _ hmoment
    simp only [Scene.answer, htable s n _ rfl hmoment, hmoment]

/-- Through a session with a local store, what was done elsewhere is seen with the first question,
and nothing comes between the others. -/
theorem perform_hold (hshelf : l.shelf = .file d.path)
    (hbackup : ∀ path, l.backup = some path → d.Apart path) {α : Type} (p : Session α) {x : σ}
    {t : Table} {vs : List Visit} (hx : d.Holds x (t.visited vs)) :
    ∃ ms t' vs', vs' ⊆ vs ∧ (∀ m ∈ ms, m.visits ⊆ vs) ∧
      (d.perform (l.hold p) x).1.2 = l ∧
      d.Holds (d.perform (l.hold p) x).2 (t'.visited vs') ∧
      ∀ before after, (Scene.ofMoments l.owner (before ++ (ms ++ after))).perform p
          ⟨t, before.length⟩ =
        ((d.perform (l.hold p) x).1.1, ⟨t', (before ++ ms).length⟩) := by
  induction p generalizing x t vs with
  | done a =>
    refine ⟨[], t, vs, List.Subset.refl vs, by simp, rfl, hx, ?_⟩
    intro before after
    rw [List.append_nil]
    rfl
  | ask q next ih =>
    obtain ⟨m, t₁, hvisits, hstore, hx₁, hanswer⟩ := perform_reply hshelf hbackup hx q
    rw [hold_ask, Disk.perform_bind, hstore]
    -- No calls from elsewhere are left once the first question is answered.
    have hx₁ : d.Holds (d.perform (reply q l) x).2 (t₁.visited []) := hx₁
    obtain ⟨ms, t', vs', hvs', hms, hstore', hx', hnext⟩ := ih _ hx₁
    refine ⟨m :: ms, t', vs', ?_, ?_, hstore', hx', ?_⟩
    · exact List.Subset.trans hvs' (List.nil_subset vs)
    · intro m' hm'
      rcases List.mem_cons.mp hm' with rfl | hm'
      · exact hvisits ▸ List.Subset.refl _
      · exact List.Subset.trans (hms m' hm') (List.nil_subset vs)
    · intro before after
      have hmoment := Scene.moments_ofMoments l.owner before (ms ++ after) m
      have hrest := hnext (before ++ [m]) after
      rw [← List.append_cons, ← List.append_cons, List.length_append] at hrest
      rw [List.cons_append, Scene.perform, Dialogue.perform_ask, hanswer _ _ rfl hmoment]
      exact hrest

end Local

theorem Store.run_hold_localTable {α : Type} (l : Local) (p : Workbench.Session α) :
    ((localTable l).hold p).run = (fun x ↦ some (x.1, localTable x.2)) <$> l.hold p := by
  rw [hold]
  simp

variable {σ : Type} {d : Disk σ} {l : Local} {K : String → Call → Prop}

theorem perform_elsewhere {e : Event} (he : e.Admissible d) (hK : e.Meets K) {x : σ} {t : Table}
    {vs : List Visit} (hvs : ∀ v ∈ vs, K v.owner v.call) (hx : d.Holds x (t.visited vs)) :
    ∃ vs', (∀ v ∈ vs', K v.owner v.call) ∧
      d.Holds (d.perform (e.program d.path) x).2 (t.visited vs') := by
  cases e with
  | reopen =>
    have hopen := (Local.perform_openShelf hx).2
    exact ⟨vs, hvs, by simpa [Event.program] using hopen⟩
  | call owner backup c =>
    obtain ⟨now, -, hholds⟩ :=
      Local.perform_answer (l := ⟨.file d.path, owner, backup⟩) rfl he.2 hx c
    refine ⟨vs ++ [⟨owner, now, c⟩], ?_, ?_⟩
    · intro v hv
      rcases List.mem_append.mp hv with hv | hv
      · exact hvs v hv
      · exact List.mem_singleton.mp hv ▸ hK
    · rw [Table.visited_append]
      simpa [Event.program] using hholds

/-- The turns at a file, from calls that were not seen yet to calls that are still to be seen. -/
theorem perform_turns (hshelf : l.shelf = .file d.path)
    (hbackup : ∀ path, l.backup = some path → d.Apart path) {turns : List Turn}
    (hturns : ∀ e, .elsewhere e ∈ turns → e.Admissible d ∧ e.Meets K) (w : Workbench) {x : σ}
    {t : Table} {vs : List Visit} (hvs : ∀ v ∈ vs, K v.owner v.call)
    (hx : d.Holds x (t.visited vs)) :
    let y := d.perform (turns.foldlM (Turn.program d.path) (w, l)) x
    ∃ ms t' vs', (∀ m ∈ ms, ∀ v ∈ m.visits, K v.owner v.call) ∧
      (∀ v ∈ vs', K v.owner v.call) ∧ y.1.2 = l ∧ d.Holds y.2 (t'.visited vs') ∧
      ∀ before after, (Scene.ofMoments l.owner (before ++ (ms ++ after))).run
          (turns.filterMap (·.operation?)) (w, ⟨t, before.length⟩) =
        (y.1.1, ⟨t', (before ++ ms).length⟩) := by
  induction turns generalizing w x t vs with
  | nil =>
    intro y
    refine ⟨[], t, vs, by simp, hvs, rfl, hx, ?_⟩
    intro before after
    rw [List.append_nil]
    rfl
  | cons turn turns ih =>
    have hrest : ∀ e, .elsewhere e ∈ turns → e.Admissible d ∧ e.Meets K :=
      fun e he ↦ hturns e (List.mem_cons_of_mem _ he)
    rw [List.foldlM_cons, Disk.perform_bind]
    cases turn with
    | here op =>
      obtain ⟨ms₁, t₁, vs₁, hvs₁, hms₁, hstore, hx₁, hscene₁⟩ :=
        Local.perform_hold hshelf hbackup (op.act w) hx
      generalize hy : d.perform (l.hold (op.act w)) x = y at *
      obtain ⟨⟨w₁, l₁⟩, x₁⟩ := y
      obtain rfl : l = l₁ := hstore.symm
      obtain ⟨ms₂, t₂, vs₂, hms₂, hvs₂, hstore₂, hx₂, hscene₂⟩ :=
        ih hrest w₁ (fun v hv ↦ hvs v (hvs₁ hv)) hx₁
      have hturn : d.perform (Turn.program d.path (w, l) (.here op)) x =
          ((w₁, l), x₁) := hy
      rw [hturn]
      refine ⟨ms₁ ++ ms₂, t₂, vs₂, ?_, hvs₂, hstore₂, hx₂, ?_⟩
      · intro m hm v hv
        rcases List.mem_append.mp hm with hm | hm
        · exact hvs v (hms₁ m hm hv)
        · exact hms₂ m hm v hv
      · intro before after
        have hfirst := hscene₁ before (ms₂ ++ after)
        have hothers := hscene₂ (before ++ ms₁) after
        rw [List.append_assoc, List.append_assoc] at hothers
        rw [List.append_assoc]
        calc
          _ = _ := congrArg (Scene.run _ (turns.filterMap (·.operation?))) hfirst
          _ = _ := hothers
    | elsewhere e =>
      obtain ⟨vs₁, hvs₁, hx₁⟩ :=
        perform_elsewhere (hturns e List.mem_cons_self).1 (hturns e List.mem_cons_self).2 hvs hx
      have hperform : d.perform (Turn.program d.path (w, l) (.elsewhere e)) x =
          ((w, l), (d.perform (e.program d.path) x).2) :=
        Disk.perform_bind (e.program d.path) _ x
      rw [hperform]
      exact ih hrest w hvs₁ hx₁

/-- Whatever the turns at a file are, there is a scene in which the workbench does what it does at
the file. Its calls from elsewhere are of the kinds the events are of, and the file holds the table
that the next question will be answered from. -/
theorem turns_are_a_scene (hshelf : l.shelf = .file d.path)
    (hbackup : ∀ path, l.backup = some path → d.Apart path) {turns : List Turn}
    (hturns : ∀ e, .elsewhere e ∈ turns → e.Admissible d ∧ e.Meets K) (w : Workbench) {x : σ}
    {t : Table} (hx : d.Holds x t) :
    ∃ s : Scene, s.owner = l.owner ∧ (∀ k, ∀ v ∈ (s.moments k).visits, K v.owner v.call) ∧
      let y := d.perform (turns.foldlM (Turn.program d.path) (w, l)) x
      let z := s.run (turns.filterMap (·.operation?)) (w, ⟨t, 0⟩)
      y.1 = (z.1, l) ∧ d.Holds y.2 (s.tableAt z.2) := by
  have hx : d.Holds x (t.visited []) := hx
  obtain ⟨ms, t', vs, hms, hvs, hstore, hy, hscene⟩ :=
    perform_turns hshelf hbackup hturns w (by simp) hx
  let last : Moment := ⟨vs, ⟨0, 0⟩, ""⟩
  refine ⟨.ofMoments l.owner (ms ++ [last]), rfl, ?_, ?_⟩
  · intro k v hv
    rcases Scene.mem_moments_ofMoments hv with ⟨m, hm, hv⟩
    rcases List.mem_append.mp hm with hm | hm
    · exact hms m hm v hv
    · obtain rfl := List.mem_singleton.mp hm
      exact hvs v hv
  · intro y z
    have hz : z = (y.1.1, ⟨t', ms.length⟩) := hscene [] [last]
    rw [hz]
    refine ⟨Prod.ext rfl hstore, ?_⟩
    rw [Scene.tableAt, Scene.moments_ofMoments]
    exact hy

end TradingRules
