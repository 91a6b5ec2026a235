import Mathlib.Logic.Function.Basic
import TradingRules.Proofs.Store.Owners

namespace TradingRules

namespace Table

variable {t : Table} {owner : String} {now : Instant} {c : Call}

theorem answer_ne_of_ok (hc : ¬ c.Reads) {reply : c.Reply}
    (h : (t.answer owner now c).1 = .ok reply) : (t.answer owner now c).2 ≠ t := by
  cases c with
  | create name strategy =>
    cases hname : t.hasName owner name with
    | true =>
      rw [answer_create_of_hasName hname] at h
      cases h
    | false =>
      rw [answer_create hname]
      intro heq
      have hlast : t.lastId + 1 = t.lastId := congrArg lastId heq
      omega
  | list | get => exact absurd trivial hc
  | delete id =>
    cases hfind : t.find? owner id with
    | none =>
      rw [answer_delete_of_none hfind] at h
      cases h
    | some r =>
      rw [answer_delete_of_isSome (by simp [hfind])]
      intro heq
      obtain ⟨hr, howner⟩ := mem_of.mp (List.mem_of_find?_eq_some hfind)
      have hid : r.strategyId = id := by simpa using List.find?_some hfind
      have herased : t.erase owner id = t := heq
      have hmem : r ∈ (t.erase owner id).rows := by rwa [herased]
      simpa [howner, hid] using (List.mem_filter.mp hmem).2

end Table

/-- A host as far as its files are concerned. -/
structure Files (σ : Type) where
  answer : (q : Host.Question) → σ → Host.Answer q × σ
  content : String → σ → Host.Content

def Host.Content.table? : Host.Content → Option Table
  | .text s => (Table.ofFileText? s).join
  | _ => none

/-- The same store, up to the table it has in memory. -/
structure Local.Same (l l' : Local) : Prop where
  owner : l'.owner = l.owner
  backup : l'.backup = l.backup
  file : ∀ path, l'.shelf = .file path ↔ l.shelf = .file path

namespace Local.Same

theorem refl (l : Local) : l.Same l :=
  ⟨rfl, rfl, fun _ ↦ .rfl⟩

theorem trans {l l' l'' : Local} (h : l.Same l') (h' : l'.Same l'') : l.Same l'' :=
  ⟨h'.owner.trans h.owner, h'.backup.trans h.backup, fun path ↦ (h'.file path).trans (h.file path)⟩

theorem memory {l : Local} {t : Option Table} (h : l.shelf = .memory t) (t' : Option Table) :
    l.Same { l with shelf := .memory t' } :=
  ⟨rfl, rfl, by simp [h]⟩

end Local.Same

namespace Files

variable {σ : Type} (h : Files σ)

def perform {α : Type} (p : Program α) (s : σ) : α × σ :=
  Dialogue.perform h.answer p s

def Apart (path other : String) : Prop :=
  ∀ text s, h.content path (h.answer (.write other text) s).2 = h.content path s

def Clear (path folder : String) : Prop :=
  ∀ s, h.content path (h.answer (.makeFolder folder) s).2 = h.content path s

/-- What is at a path is read there, and only writing and making folders can change it. -/
structure Steady (path : String) : Prop where
  read : ∀ s, (h.answer (.read path) s).1 = h.content path s
  keep : ∀ q s, (∀ other text, q ≠ .write other text) → (∀ folder, q ≠ .makeFolder folder) →
    h.content path (h.answer q s).2 = h.content path s

structure Writable (path : String) : Prop where
  makeFolder : ∀ s, (h.answer (.makeFolder (Local.folderOf path)) s).1 = true
  write : ∀ text s, (h.answer (.write path text) s).1 = true ∧
    h.content path (h.answer (.write path text) s).2 = .text text

def table? (l : Local) (s : σ) : Option Table :=
  match l.shelf with
  | .memory t => t
  | .file path => (h.content path s).table?

structure Beside (p path : String) : Prop where
  steady : h.Steady p
  folder : h.Clear p (Local.folderOf path)
  apart : h.Apart p path
  backup : h.Apart path p

/-- A store with its backup at a path, which is not where its table is. -/
structure Backs (path : String) (l : Local) : Prop where
  backup : l.backup = some path
  steady : h.Steady path
  shelf : ∀ p, l.shelf = .file p → h.Beside p path

def Keeps (l : Local) : Prop :=
  ∀ p, l.shelf = .file p → h.Writable p

def Sound (l : Local) (s : σ) : Prop :=
  ∀ t, h.table? l s = some t → t.Sound

def Spares (path : String) : Host.Question → Prop
  | .write other _ => h.Apart path other
  | .makeFolder folder => h.Clear path folder
  | _ => True

def Quiet (s s' : σ) : Prop :=
  ∀ path, h.Steady path → h.content path s' = h.content path s

variable {h}

@[simp] theorem perform_pure {α : Type} (a : α) (s : σ) : h.perform (pure a) s = (a, s) := rfl

@[simp] theorem perform_bind {α β : Type} (p : Program α) (f : α → Program β) (s : σ) :
    h.perform (p >>= f) s = h.perform (f (h.perform p s).1) (h.perform p s).2 :=
  Dialogue.perform_bind h.answer p f s

theorem perform_ask (q : Host.Question) (s : σ) :
    h.perform (Program.ask q) s = h.answer q s := rfl

theorem Quiet.trans {s s' s'' : σ} (h₁ : h.Quiet s s') (h₂ : h.Quiet s' s'') : h.Quiet s s'' :=
  fun path hpath ↦ (h₂ path hpath).trans (h₁ path hpath)

theorem quiet_answer {q : Host.Question} (hq : ∀ path text, q ≠ .write path text)
    (hq' : ∀ folder, q ≠ .makeFolder folder) (s : σ) : h.Quiet s (h.answer q s).2 :=
  fun _ hpath ↦ hpath.keep q s hq hq'

theorem content_perform {path : String} (hpath : h.Steady path) {α : Type} {p : Program α}
    (hp : p.Asks (h.Spares path)) (s : σ) :
    h.content path (h.perform p s).2 = h.content path s := by
  refine Dialogue.perform_keeps (I := fun s' ↦ h.content path s' = h.content path s)
    (fun q s' hq hs' ↦ ?_) hp rfl
  refine Eq.trans ?_ hs'
  cases q with
  | write other text => exact hq text s'
  | makeFolder folder => exact hq s'
  | _ => exact hpath.keep _ s' (by simp) (by simp)

variable {path : String} {l l' : Local} {s s' : σ} {t : Table}

theorem Backs.of_same (hl : h.Backs path l) (hsame : l.Same l') : h.Backs path l' :=
  ⟨hsame.backup.trans hl.backup, hl.steady, fun p hp ↦ hl.shelf p ((hsame.file p).mp hp)⟩

theorem Keeps.of_same (hl : h.Keeps l) (hsame : l.Same l') : h.Keeps l' :=
  fun p hp ↦ hl p ((hsame.file p).mp hp)

theorem table?_congr (hs : ∀ p, l.shelf = .file p → h.content p s' = h.content p s) :
    h.table? l s' = h.table? l s := by
  cases hshelf : l.shelf with
  | memory t => simp [table?, hshelf]
  | file p => simp [table?, hshelf, hs p hshelf]

theorem Backs.table?_of_quiet (hl : h.Backs path l) (hs : h.Quiet s s') :
    h.table? l s' = h.table? l s :=
  table?_congr fun p hp ↦ hs p (hl.shelf p hp).steady

theorem Backs.perform_table? (hl : h.Backs path l) (s : σ) :
    ∃ s₁, h.perform l.table? s = (h.table? l s, s₁) ∧ h.Quiet s s₁ := by
  unfold Local.table? table?
  cases hshelf : l.shelf with
  | memory t => exact ⟨s, rfl, fun _ _ ↦ rfl⟩
  | file p =>
    refine ⟨(h.answer (.read p) s).2, ?_, quiet_answer (by simp) (by simp) s⟩
    dsimp only
    rw [perform_bind, perform_ask, (hl.shelf p hshelf).steady.read]
    cases h.content p s <;> rfl

theorem table?_fileText (t : Table) :
    (Host.Content.text (Table.fileText (some t))).table? = some t := by
  simp [Host.Content.table?, Table.ofFileText?_fileText]

theorem Backs.perform_put (hl : h.Backs path l) (t : Table) (s : σ) :
    ∃ written l₁ s₁, h.perform (l.put (some t)) s = ((written, l₁), s₁) ∧ l.Same l₁ ∧
      h.content path s₁ = h.content path s ∧ (written = false → l₁ = l) ∧
      (h.Keeps l → written = true ∧ h.table? l₁ s₁ = some t) := by
  unfold Local.put
  cases hshelf : l.shelf with
  | memory t₀ =>
    exact ⟨true, { l with shelf := .memory (some t) }, s, rfl, .memory hshelf _, rfl, by simp,
      fun _ ↦ ⟨rfl, rfl⟩⟩
  | file p =>
    refine ⟨(h.answer (.write p (Table.fileText (some t))) s).1, l,
      (h.answer (.write p (Table.fileText (some t))) s).2, rfl, .refl l,
      (hl.shelf p hshelf).backup _ s, fun _ ↦ rfl, fun hkeeps ↦ ?_⟩
    obtain ⟨hwritten, hcontent⟩ := (hkeeps p hshelf).write (Table.fileText (some t)) s
    refine ⟨hwritten, ?_⟩
    unfold table?
    rw [hshelf]
    dsimp only
    rw [hcontent, table?_fileText]

theorem Backs.asks_backUp (hl : h.Backs path l) {p : String} (hp : h.Beside p path) (t : Table) :
    (l.backUp t).Asks (h.Spares p) := by
  have hnewId : Program.newId.Asks (h.Spares p) := Dialogue.asks_question trivial
  unfold Local.backUp
  rw [hl.backup]
  cases t.exportable l.owner with
  | error e => exact Dialogue.asks_pure _
  | ok saveds =>
    refine Dialogue.asks_bind (Dialogue.asks_mapM (SavedStrategy.asks_identify hnewId) _) fun _ ↦ ?_
    refine Dialogue.asks_bind (Dialogue.asks_question trivial) fun _ ↦ ?_
    refine Dialogue.asks_bind (Dialogue.asks_question hp.folder) fun _ ↦ ?_
    split
    · exact Dialogue.asks_bind (Dialogue.asks_question hp.apart) fun _ ↦ Dialogue.asks_pure _
    · exact Dialogue.asks_pure _

theorem Backs.table?_backUp (hl : h.Backs path l) (t : Table) (s : σ) :
    h.table? l (h.perform (l.backUp t) s).2 = h.table? l s :=
  table?_congr fun p hp ↦
    content_perform (hl.shelf p hp).steady (hl.asks_backUp (hl.shelf p hp) t) s

/-- Everything that can come of a call: the result, the store and the host afterwards. The backup is
only written where a table has changed and was put back. -/
inductive Outcome (h : Files σ) (path : String) (l : Local) (s : σ) (c : Call) :
    c.Result → Local → σ → Prop
  | missing {s' : σ} (ht : h.table? l s = none) (hs : h.Quiet s s') :
      Outcome h path l s c (c.fail .storage) l s'
  | same {t : Table} {now : Instant} {s' : σ} (ht : h.table? l s = some t)
      (hsame : (t.answer l.owner now c).2 = t) (hs : h.Quiet s s') :
      Outcome h path l s c (t.answer l.owner now c).1 l s'
  | lost {t : Table} {now : Instant} {s' : σ} (ht : h.table? l s = some t)
      (hchange : (t.answer l.owner now c).2 ≠ t) (hlost : ¬ h.Keeps l)
      (hs : h.content path s' = h.content path s) : Outcome h path l s c (c.fail .storage) l s'
  | changed {t : Table} {now : Instant} {l' : Local} {s' : σ} (ht : h.table? l s = some t)
      (hchange : (t.answer l.owner now c).2 ≠ t) (hl : l.Same l')
      (hs : h.content path s' = h.content path s)
      (ht' : h.Keeps l → h.table? l' s' = some (t.answer l.owner now c).2) :
      Outcome h path l s c (t.answer l.owner now c).1 l'
        (h.perform (l'.backUp (t.answer l.owner now c).2) s').2

theorem Backs.outcome (hl : h.Backs path l) (s : σ) (c : Call) :
    let x := h.perform (l.answer c) s
    Outcome h path l s c x.1.1 x.1.2 x.2 := by
  obtain ⟨s₁, htable, hs₁⟩ := hl.perform_table? s
  unfold Local.answer
  rw [perform_bind, htable]
  cases ht : h.table? l s with
  | none => exact .missing ht hs₁
  | some t =>
    dsimp only
    rw [perform_bind, perform_ask]
    have hs₂ : h.Quiet s (h.answer .now s₁).2 := hs₁.trans (quiet_answer (by simp) (by simp) s₁)
    generalize (h.answer .now s₁).2 = s₂ at hs₂
    by_cases hsame : (t.answer l.owner (h.answer .now s₁).1 c).2 = t
    · rw [if_pos hsame]
      exact .same ht hsame hs₂
    · rw [if_neg hsame, perform_bind]
      obtain ⟨written, l', s₃, hput, hl', hs₃, hunwritten, hkeeps⟩ :=
        hl.perform_put (t.answer l.owner (h.answer .now s₁).1 c).2 s₂
      rw [hput]
      have hs₃ := hs₃.trans (hs₂ path hl.steady)
      cases written with
      | false =>
        obtain rfl := hunwritten rfl
        exact .lost ht hsame (fun hkeep ↦ Bool.false_ne_true (hkeeps hkeep).1) hs₃
      | true =>
        dsimp only
        rw [if_neg (by simp), perform_bind]
        exact .changed ht hsame hl' hs₃ fun hkeep ↦ (hkeeps hkeep).2

/-- What is replied and the table afterwards, where a table that is put back stays. The backup has
no part in either. -/
theorem Outcome.replied (hl : h.Backs path l) (hkeeps : h.Keeps l) {c : Call} {r : c.Result}
    (hr : Outcome h path l s c r l' s') :
    (h.table? l s = none ∧ r = c.fail .storage ∧ h.table? l' s' = none) ∨
    ∃ t now, h.table? l s = some t ∧ r = (t.answer l.owner now c).1 ∧
      h.table? l' s' = some (t.answer l.owner now c).2 := by
  cases hr with
  | missing ht hs => exact .inl ⟨ht, rfl, (hl.table?_of_quiet hs).trans ht⟩
  | same ht hsame hs =>
    exact .inr ⟨_, _, ht, rfl, (hl.table?_of_quiet hs).trans (ht.trans (congrArg some hsame.symm))⟩
  | lost _ _ hlost => exact absurd hkeeps hlost
  | changed ht _ hl' _ ht' =>
    exact .inr ⟨_, _, ht, rfl, ((hl.of_same hl').table?_backUp _ _).trans (ht' hkeeps)⟩

theorem Outcome.sound (hl : h.Backs path l) (hkeeps : h.Keeps l) (hs : h.Sound l s) {c : Call}
    {r : c.Result} (hr : Outcome h path l s c r l' s') : h.Sound l' s' := by
  obtain ⟨-, -, ht'⟩ | ⟨t, now, ht, -, ht'⟩ := hr.replied hl hkeeps
  · simp [Sound, ht']
  · intro t' h'
    obtain rfl := Option.some.inj (ht'.symm.trans h')
    exact (hs t ht).answer _ _ _

theorem Outcome.backUp (hl : h.Backs path l) {c : Call} (hc : ¬ c.Reads) {r : c.Result}
    (hr : Outcome h path l s c r l' s') {reply : c.Reply} (hreply : r = .ok reply) :
    ∃ t s₁, h.content path s₁ = h.content path s ∧ s' = (h.perform (l'.backUp t) s₁).2 ∧
      (h.Keeps l → h.table? l' s' = some t) := by
  cases hr with
  | missing | lost => cases hreply
  | same _ hsame => exact absurd hsame (Table.answer_ne_of_ok hc hreply)
  | changed _ _ hl' hs ht' =>
    exact ⟨_, _, hs, rfl, fun hkeeps ↦ ((hl.of_same hl').table?_backUp _ _).trans (ht' hkeeps)⟩

def plain : Files (String → Host.Content) where
  answer q s :=
    match q with
    | .read path => (s path, s)
    | .write path text => (true, Function.update s path (.text text))
    | .makeFolder _ => (true, s)
    | .variable _ => (none, s)
    | .print _ => ((), s)
    | .network (.send _) => (.error "", s)
    | .network .warn => (true, s)
    | .network (.wait _) => ((), s)
    | .now => (⟨0, 0⟩, s)
    | .newId => ("new", s)
  content path s := s path

end Files

end TradingRules
