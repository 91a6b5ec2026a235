import TradingRules.Proofs.Store.Ledger
import TradingRules.Proofs.Store.Local

namespace TradingRules

/-- What can happen to a table in a file: it is opened again, or some owner makes a call through a
store of its own, which may have a backup. -/
inductive Event
  | reopen
  | call (owner : String) (backup : Option String) (c : Call)

namespace Event

def program (path : String) : Event → Program (List Transaction)
  | .reopen => do
    let _ ← Local.openShelf path
    return []
  | .call owner backup c => do
    let (result, _) ← (⟨.file path, owner, backup⟩ : Local).answer c
    return [⟨owner, c, result⟩]

def call? : Event → Option (String × Call)
  | .reopen => none
  | .call owner _ c => some (owner, c)

def Admissible {σ : Type} (d : Disk σ) : Event → Prop
  | .reopen => True
  | .call _ backup c => c.NulFree ∧ ∀ path, backup = some path → d.Apart path

end Event

def history (path : String) (es : List Event) : Program (List Transaction) := do
  let _ ← Local.openShelf path
  return (← es.mapM (Event.program path)).flatten

variable {σ : Type} {d : Disk σ}

theorem perform_event {e : Event} (he : e.Admissible d) {s : σ} {t : Table}
    {trs : List Transaction} (hs : d.Holds s t) (ht : t.Books trs) :
    ∃ t', d.Holds (d.perform (e.program d.path) s).2 t' ∧
      t'.Books (trs ++ (d.perform (e.program d.path) s).1) ∧
      (d.perform (e.program d.path) s).1.map (fun tr ↦ (tr.owner, tr.call)) = e.call?.toList := by
  cases e with
  | reopen =>
    have hopen := Local.perform_openShelf hs
    refine ⟨t, ?_, ?_, ?_⟩
    · simpa [Event.program] using hopen.2
    · simpa [Event.program] using ht
    · simp [Event.program, Event.call?]
  | call owner backup c =>
    obtain ⟨hc, hbackup⟩ := he
    obtain ⟨now, hresult, hholds⟩ :=
      Local.perform_answer (l := ⟨.file d.path, owner, backup⟩) rfl hbackup hs c
    refine ⟨(t.answer owner now c).2, ?_, ?_, ?_⟩
    · simpa [Event.program] using hholds
    · simpa [Event.program, hresult, Table.transaction] using ht.answer owner now hc
    · simp [Event.program, hresult, Event.call?]

theorem perform_events {es : List Event} (hes : ∀ e ∈ es, e.Admissible d) {s : σ} {t : Table}
    {trs : List Transaction} (hs : d.Holds s t) (ht : t.Books trs) :
    ∃ t', d.Holds (d.perform (es.mapM (Event.program d.path)) s).2 t' ∧
      t'.Books (trs ++ (d.perform (es.mapM (Event.program d.path)) s).1.flatten) ∧
      (d.perform (es.mapM (Event.program d.path)) s).1.flatten.map (fun tr ↦ (tr.owner, tr.call)) =
        es.filterMap (·.call?) := by
  induction es generalizing s t trs with
  | nil => exact ⟨t, hs, by simpa using ht, rfl⟩
  | cons e es ih =>
    obtain ⟨t₁, hs₁, ht₁, hcall⟩ := perform_event (hes e (by simp)) hs ht
    obtain ⟨t₂, hs₂, ht₂, hcalls⟩ := ih (fun e he ↦ hes e (by simp [he])) hs₁ ht₁
    refine ⟨t₂, ?_, ?_, ?_⟩
    · simpa [List.mapM_cons] using hs₂
    · simpa [List.mapM_cons] using ht₂
    · simp only [List.mapM_cons, Disk.perform_bind, Disk.perform_pure, List.flatten_cons,
        List.map_append, hcall, hcalls]
      cases h : e.call? <;> simp [h]

theorem Table.Books.noClash {t : Table} {trs : List Transaction} (h : t.Books trs) :
    (kept trs).Pairwise fun e e' ↦ ¬ e.Clashes e'.owner e'.name := by
  rw [← h.rows, List.pairwise_map]
  refine h.sound.distinct.imp_of_mem fun hr hr' hne ↦ ?_
  rintro ⟨howner, hsame⟩
  have hname := hne howner
  rw [sameName_eq (h.nulFree _ hr) (h.nulFree _ hr')] at hname
  exact Bool.false_ne_true (hname.symm.trans hsame)

/-- A file in which a table was never kept holds, after any calls through any stores on it and
however often it is opened again, the strategies that were created and not deleted by their owners
since. Every call has the result that the calls before it demand, numbers are given out in ascending
order and never twice, and no owner has two strategies whose names differ only in ASCII case. -/
theorem file_holds_what_was_kept (d : Disk σ) {s : σ} (hs : d.Fresh s) {es : List Event}
    (hes : ∀ e ∈ es, e.Admissible d) :
    ∃ trs s' t, d.perform (history d.path es) s = (trs, s') ∧
      trs.map (fun tr ↦ (tr.owner, tr.call)) = es.filterMap (·.call?) ∧ Faithful trs ∧
      d.Holds s' t ∧ t.rows.map (·.entry) = kept trs ∧
      (kept trs).Pairwise (fun e e' ↦ ¬ e.Clashes e'.owner e'.name) ∧
      (givenIds trs).Pairwise (· < ·) ∧ (∀ n ∈ givenIds trs, 0 < n) ∧
      (d.perform (Local.openShelf d.path) s').1 = .ok (.file d.path) := by
  obtain ⟨-, hs₁⟩ := Local.perform_openShelf_fresh hs
  obtain ⟨t, hs', ht, hcalls⟩ := perform_events hes hs₁ Table.books_empty
  rw [List.nil_append] at ht
  have hopen := (Local.perform_openShelf hs').1
  refine ⟨_, _, t, ?_, hcalls, ht.faithful, hs', ht.rows, ht.noClash, ht.ascending, ht.positive,
    hopen⟩
  simp [history]

def Disk.single : Disk Host.Content where
  answer q s :=
    match q with
    | .read path => (if path = "strategies.db" then s else .absent, s)
    | .write path text => (true, if path = "strategies.db" then .text text else s)
    | .makeFolder _ => (true, s)
    | .variable _ => (none, s)
    | .print _ => ((), s)
    | .network (.send _) => (.error "", s)
    | .network .warn => (true, s)
    | .network (.wait _) => ((), s)
    | .now => (⟨0, 0⟩, s)
    | .newId => ("new", s)
  path := "strategies.db"
  path_ne := by decide
  content s := s
  read _ := rfl
  write _ _ := ⟨rfl, rfl⟩
  makeFolder _ := rfl
  keep := by
    rintro (path | ⟨path, text⟩ | path | name | text | (r | _ | n) | _ | _) s h
    iterate 1 rfl
    · exact absurd rfl (h path text)
    iterate 8 rfl

theorem file_holds_what_two_owners_kept :
    let es : List Event := [.call "ann" none (.create "Dip" (.initial "a")),
      .call "ben" (some "backup.json") (.create "dip" (.initial "b")), .reopen,
      .call "ann" none (.create "DIP" (.initial "c")), .call "ben" none (.delete ⟨1⟩),
      .call "ann" none (.delete ⟨1⟩), .call "ann" none .list]
    Disk.single.Fresh .absent ∧ (∀ e ∈ es, e.Admissible Disk.single) ∧
    ∃ trs s' t, Disk.single.perform (history Disk.single.path es) .absent = (trs, s') ∧
      trs.map (fun tr ↦ (tr.owner, tr.call)) = es.filterMap (·.call?) ∧ Faithful trs ∧
      Disk.single.Holds s' t ∧ t.rows.map (·.entry) = kept trs ∧
      (kept trs).Pairwise (fun e e' ↦ ¬ e.Clashes e'.owner e'.name) ∧
      (givenIds trs).Pairwise (· < ·) ∧ (∀ n ∈ givenIds trs, 0 < n) ∧
      (Disk.single.perform (Local.openShelf Disk.single.path) s').1 =
        .ok (.file Disk.single.path) := by
  intro es
  have hes : ∀ e ∈ es, e.Admissible Disk.single := by
    simp [es, Event.Admissible, Call.NulFree, Text.NulFree, Disk.Apart, Disk.single]
  exact ⟨.inl rfl, hes, file_holds_what_was_kept Disk.single (.inl rfl) hes⟩

end TradingRules
