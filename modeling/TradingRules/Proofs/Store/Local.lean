import TradingRules.Proofs.Store.File
import TradingRules.Proofs.Store.Table
import TradingRules.Proofs.Strategy.Identities
import TradingRules.Store.Local

namespace TradingRules

/-- A host with a file that can always be read and written. What is done elsewhere does not change
the file: only writing to a path can, and then only if the path leads to it. -/
structure Disk (σ : Type) where
  answer : (q : Host.Question) → σ → Host.Answer q × σ
  path : String
  path_ne : path ≠ "" ∧ path ≠ ":memory:"
  content : σ → Host.Content
  read : ∀ s, (answer (.read path) s).1 = content s
  write : ∀ text s, (answer (.write path text) s).1 = true ∧
    content (answer (.write path text) s).2 = .text text
  makeFolder : ∀ s, (answer (.makeFolder (Local.folderOf path)) s).1 = true
  keep : ∀ q s, (∀ path text, q ≠ .write path text) → content (answer q s).2 = content s

namespace Disk

variable {σ : Type} (d : Disk σ)

def perform {α : Type} (p : Program α) (s : σ) : α × σ :=
  Dialogue.perform d.answer p s

def Holds (s : σ) (t : Table) : Prop :=
  d.content s = .text (Table.fileText (some t))

def Fresh (s : σ) : Prop :=
  d.content s = .absent ∨ d.content s = .text ""

def Apart (path : String) : Prop :=
  ∀ text s, d.content (d.answer (.write path text) s).2 = d.content s

def Spares : Host.Question → Prop
  | .write path _ => d.Apart path
  | _ => True

variable {d}

@[simp] theorem perform_pure {α : Type} (a : α) (s : σ) : d.perform (pure a) s = (a, s) := rfl

@[simp] theorem perform_bind {α β : Type} (p : Program α) (f : α → Program β) (s : σ) :
    d.perform (p >>= f) s = d.perform (f (d.perform p s).1) (d.perform p s).2 :=
  Dialogue.perform_bind d.answer p f s

@[simp] theorem perform_map {α β : Type} (f : α → β) (p : Program α) (s : σ) :
    d.perform (f <$> p) s = (f (d.perform p s).1, (d.perform p s).2) :=
  Dialogue.perform_map d.answer f p s

theorem perform_now (s : σ) : d.perform (Program.ask .now) s = d.answer .now s := rfl

theorem perform_read (s : σ) :
    d.perform (Program.ask (.read d.path)) s = (d.content s, (d.answer (.read d.path) s).2) :=
  Prod.ext (d.read s) rfl

theorem perform_makeFolder (s : σ) :
    d.perform (Program.ask (.makeFolder (Local.folderOf d.path))) s =
      (true, (d.answer (.makeFolder (Local.folderOf d.path)) s).2) :=
  Prod.ext (d.makeFolder s) rfl

theorem perform_write (text : String) (s : σ) :
    d.perform (Local.write d.path text) s = (true, (d.answer (.write d.path text) s).2) :=
  Prod.ext (d.write text s).1 rfl

theorem content_of_spares {q : Host.Question} (h : d.Spares q) (s : σ) :
    d.content (d.answer q s).2 = d.content s := by
  cases q with
  | write path text => exact h text s
  | _ => exact d.keep _ s (by simp)

theorem content_perform {α : Type} {p : Program α} (hp : p.Asks d.Spares) (s : σ) :
    d.content (d.perform p s).2 = d.content s :=
  Dialogue.perform_keeps (I := fun s' ↦ d.content s' = d.content s)
    (fun _ s' hq hs' ↦ (content_of_spares hq s').trans hs') hp rfl

end Disk

namespace Local

variable {σ : Type} {d : Disk σ}

theorem asks_backUp {l : Local} (hl : ∀ path, l.backup = some path → d.Apart path) (t : Table) :
    (l.backUp t).Asks d.Spares := by
  have hnewId : Program.newId.Asks d.Spares := Dialogue.asks_question trivial
  unfold backUp
  split
  · next path strategies hbackup hstrategies =>
    refine Dialogue.asks_bind (Dialogue.asks_mapM (SavedStrategy.asks_identify hnewId) _) fun _ ↦ ?_
    refine Dialogue.asks_bind (Dialogue.asks_question trivial) fun _ ↦ ?_
    refine Dialogue.asks_bind (Dialogue.asks_question trivial) fun _ ↦ ?_
    split
    · exact Dialogue.asks_bind (Dialogue.asks_question (hl _ hbackup)) fun _ ↦ Dialogue.asks_pure _
    · exact Dialogue.asks_pure _
  · exact Dialogue.asks_pure _

theorem perform_table? {l : Local} (hshelf : l.shelf = .file d.path) {s : σ} {t : Table}
    (hs : d.Holds s t) : d.perform l.table? s = (some t, (d.answer (.read d.path) s).2) := by
  have hcontent : d.content s = .text (Table.fileText (some t)) := hs
  unfold table?
  rw [hshelf]
  dsimp only
  rw [Disk.perform_bind, Disk.perform_read, hcontent]
  simp [Table.ofFileText?_fileText]

theorem perform_put {l : Local} (hshelf : l.shelf = .file d.path) (t : Option Table) (s : σ) :
    d.perform (l.put t) s = ((true, l), (d.answer (.write d.path (Table.fileText t)) s).2) := by
  unfold put
  rw [hshelf]
  dsimp only
  rw [Disk.perform_bind, Disk.perform_write]
  rfl

/-- A call brings the answer of the table in the file and leaves the table after it there. -/
theorem perform_answer {l : Local} (hshelf : l.shelf = .file d.path)
    (hbackup : ∀ path, l.backup = some path → d.Apart path) {s : σ} {t : Table} (hs : d.Holds s t)
    (c : Call) :
    ∃ now, (d.perform (l.answer c) s).1 = ((t.answer l.owner now c).1, l) ∧
      d.Holds (d.perform (l.answer c) s).2 (t.answer l.owner now c).2 := by
  have hread := perform_table? hshelf hs
  have hs₁ : d.Holds (d.answer (.read d.path) s).2 t := (d.keep _ _ (by simp)).trans hs
  generalize (d.answer (.read d.path) s).2 = s₁ at hread hs₁
  have hs₂ : d.Holds (d.answer .now s₁).2 t := (d.keep _ _ (by simp)).trans hs₁
  refine ⟨(d.answer .now s₁).1, ?_⟩
  unfold answer
  rw [Disk.perform_bind, hread]
  dsimp only
  rw [Disk.perform_bind, Disk.perform_now]
  split
  · next hsame => exact ⟨rfl, hsame.symm ▸ hs₂⟩
  · rw [Disk.perform_bind, perform_put hshelf]
    dsimp only
    rw [if_neg (by simp), Disk.perform_bind]
    refine ⟨rfl, ?_⟩
    exact (Disk.content_perform (asks_backUp hbackup _) _).trans (d.write _ _).2

theorem perform_openShelf_fresh {s : σ} (hs : d.Fresh s) :
    (d.perform (openShelf d.path) s).1 = .ok (.file d.path) ∧
      d.Holds (d.perform (openShelf d.path) s).2 .empty := by
  obtain ⟨hempty, hmemory⟩ := d.path_ne
  have hs₁ : d.Fresh (d.answer (.makeFolder (folderOf d.path)) s).2 := by
    rwa [Disk.Fresh, d.keep _ _ (by simp)]
  unfold openShelf
  rw [if_neg (by simp [hempty, hmemory]), Disk.perform_bind, Disk.perform_makeFolder]
  dsimp only
  rw [if_neg (by simp), Disk.perform_bind, Disk.perform_read]
  have hcreate (s : σ) : d.perform (do
      if ← write d.path (Table.fileText (some .empty)) then return .ok (.file d.path)
      else return .error .storage) s =
        ((.ok (.file d.path) : Except StoreError Shelf),
          (d.answer (.write d.path (Table.fileText (some .empty))) s).2) := by
    rw [Disk.perform_bind, Disk.perform_write]
    rfl
  rcases hs₁ with hs | hs
  · rw [hs]
    dsimp only
    rw [hcreate]
    exact ⟨rfl, (d.write _ _).2⟩
  · rw [hs]
    dsimp only
    rw [show Table.ofFileText? "" = some none from rfl]
    dsimp only
    rw [hcreate]
    exact ⟨rfl, (d.write _ _).2⟩

theorem perform_openShelf {s : σ} {t : Table} (hs : d.Holds s t) :
    (d.perform (openShelf d.path) s).1 = .ok (.file d.path) ∧
      d.Holds (d.perform (openShelf d.path) s).2 t := by
  obtain ⟨hempty, hmemory⟩ := d.path_ne
  have hs₁ : d.content (d.answer (.makeFolder (folderOf d.path)) s).2 = _ :=
    (d.keep _ _ (by simp)).trans hs
  unfold openShelf
  rw [if_neg (by simp [hempty, hmemory]), Disk.perform_bind, Disk.perform_makeFolder]
  dsimp only
  rw [if_neg (by simp), Disk.perform_bind, Disk.perform_read, hs₁]
  dsimp only
  rw [Table.ofFileText?_fileText]
  exact ⟨rfl, (d.keep _ _ (by simp)).trans hs₁⟩

end Local

end TradingRules
