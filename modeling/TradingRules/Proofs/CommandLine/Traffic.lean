import TradingRules.CommandLine.Run
import TradingRules.Proofs.Store.Remote.Attempts
import TradingRules.Proofs.Workbench.Shared

namespace TradingRules

namespace Host

/-- The requests in a log, each with what came of it. -/
def requests (log : List (Dialogue.Exchange Question Answer)) :
    List (Remote.Request × Remote.Delivery) :=
  log.filterMap fun
    | ⟨.network (.send request), delivery⟩ => some (request, delivery)
    | _ => none

theorem requests_append (log log' : List (Dialogue.Exchange Question Answer)) :
    requests (log ++ log') = requests log ++ requests log' :=
  List.filterMap_append

def Offline : Question → Prop
  | .network _ => False
  | _ => True

end Host

namespace Program

variable {σ α β : Type} (answer : (q : Host.Question) → σ → Host.Answer q × σ)

/-- A program comes to a result, with some requests and what came of them on the way, and leaves the
host in a state. -/
structure Comes (p : Program α) (s : σ) (a : α)
    (sent : List (Remote.Request × Remote.Delivery)) (s' : σ) : Prop where
  result : (p.course answer s).result = a
  sent : Host.requests (p.course answer s).log = sent
  state : (p.course answer s).state = s'

variable {answer} {p : Program α} {f : α → Program β} {s s' s'' : σ} {a : α} {b : β}
  {sent sent' : List (Remote.Request × Remote.Delivery)}

theorem comes_pure (a : α) (s : σ) : Comes answer (pure a) s a [] s :=
  ⟨rfl, rfl, rfl⟩

theorem Comes.bind (hp : Comes answer p s a sent s') (hf : Comes answer (f a) s' b sent' s'') :
    Comes answer (p >>= f) s b (sent ++ sent') s'' := by
  obtain ⟨rfl, rfl, rfl⟩ := hp
  obtain ⟨rfl, rfl, rfl⟩ := hf
  refine ⟨?_, ?_, ?_⟩ <;> rw [Dialogue.course_bind]
  exact Host.requests_append _ _

theorem Comes.map (hp : Comes answer p s a sent s') (f : α → β) :
    Comes answer (f <$> p) s (f a) sent s' := by
  have h := hp.bind (f := fun a ↦ pure (f a)) (comes_pure (f a) s')
  rwa [List.append_nil, ← map_eq_pure_bind] at h

section Option

variable {x : OptionT Program α} {g : α → OptionT Program β} {r : Option β}

theorem Comes.next (hx : Comes answer x.run s (some a) sent s')
    (hg : Comes answer (g a).run s' r sent' s'') :
    Comes answer (x >>= g).run s r (sent ++ sent') s'' := by
  rw [OptionT.run_bind]
  exact hx.bind (f := fun o ↦ o.elim (pure none) fun a ↦ (g a).run) hg

theorem Comes.stop (hx : Comes answer x.run s none sent s') :
    Comes answer (x >>= g).run s none sent s' := by
  have h := hx.bind (f := fun o ↦ o.elim (pure none) fun a ↦ (g a).run) (comes_pure none s')
  rw [OptionT.run_bind]
  rwa [List.append_nil] at h

theorem Comes.lift (hp : Comes answer p s a sent s') :
    Comes answer (OptionT.lift p).run s (some a) sent s' := by
  rw [OptionT.run_lift, ← map_eq_pure_bind]
  exact hp.map some

theorem asks_next {kind : Host.Question → Prop} (hx : x.run.Asks kind)
    (hg : ∀ a, (g a).run.Asks kind) : (x >>= g).run.Asks kind := by
  rw [OptionT.run_bind]
  refine Dialogue.asks_bind hx fun o ↦ ?_
  cases o with
  | none => exact Dialogue.asks_pure _
  | some a => exact hg a

theorem asks_lift {kind : Host.Question → Prop} (hp : p.Asks kind) :
    (OptionT.lift p).run.Asks kind :=
  Dialogue.asks_bind hp fun _ ↦ Dialogue.asks_pure _

end Option

theorem requests_of_asks (hp : p.Asks Host.Offline) (s : σ) :
    Host.requests (p.course answer s).log = [] := by
  induction p generalizing s with
  | done a => rfl
  | ask q next ih =>
    obtain ⟨hq, hnext⟩ := hp
    cases q with
    | network q => exact hq.elim
    | _ => exact ih _ (hnext _) _

variable (answer)

theorem comes_of_asks (hp : p.Asks Host.Offline) (s : σ) :
    Comes answer p s (Dialogue.perform answer p s).1 [] (Dialogue.perform answer p s).2 := by
  rw [Dialogue.perform_eq_course]
  exact ⟨rfl, requests_of_asks hp s, rfl⟩

theorem comes_ask (q : Host.Question) (hq : Host.Offline q) (s : σ) :
    Comes answer (ask q) s (answer q s).1 [] (answer q s).2 :=
  comes_of_asks answer (Dialogue.asks_question hq) s

theorem comes_exchange (e : Remote.Exchange α) (s : σ) :
    let c := e.course (fun q ↦ answer (.network q)) s
    Comes answer (exchange e) s c.result (Remote.sent c.log) c.state := by
  induction e generalizing s with
  | done a => exact comes_pure a s
  | ask q next ih =>
    have hnext := ih (answer (.network q) s).1 (answer (.network q) s).2
    have hask : Comes answer (ask (.network q)) s (answer (.network q) s).1
        (Remote.sent [⟨q, (answer (.network q) s).1⟩]) (answer (.network q) s).2 := by
      refine ⟨rfl, ?_, rfl⟩
      cases q <;> rfl
    have hboth := hask.bind (f := fun r ↦ exchange (next r)) hnext
    rwa [Remote.sent, Remote.sent, ← List.filterMap_append] at hboth

end Program

namespace Remote.Client

variable (k : Client) {c : Call} {σ : Type}
  (answer : (q : Host.Question) → σ → Host.Answer q × σ)

theorem comes_read (hc : c.method = .get) (s : σ) :
    ∃ result sent s', Program.Comes answer (Program.exchange (k.answer c)) s result sent s' ∧
      k.Attempts c sent result :=
  ⟨_, _, _, Program.comes_exchange answer (k.answer c) s,
    k.attempts_answer (fun q ↦ answer (.network q)) hc s⟩

theorem comes_write (hc : c.method ≠ .get) (s : σ) :
    ∃ d s', Program.Comes answer (Program.exchange (k.answer c)) s (some (c.outcome d))
      [(c.request k, d)] s' := by
  have h : Program.Comes answer _ s _ _ _ := Program.comes_exchange answer (k.answer c) s
  obtain ⟨d, hresult, hsent⟩ := k.exists_answer_of_ne_get (fun q ↦ answer (.network q)) hc s
  rw [hresult, hsent] at h
  exact ⟨d, _, h⟩

end Remote.Client

namespace Remote.Client

open Workbench (Session)
open Program (Comes)

variable {σ α β : Type} {answer : (q : Host.Question) → σ → Host.Answer q × σ} {k : Client}
  {s s' s'' : σ} {sent sent' : List (Request × Delivery)}

/-- A session with a server comes to a result, or is broken off. -/
def Holds (answer : (q : Host.Question) → σ → Host.Answer q × σ) (k : Client) (p : Session α)
    (s : σ) (a : Option α) (sent : List (Request × Delivery)) (s' : σ) : Prop :=
  Comes answer (k.hold p).run s a sent s'

theorem hold_bind (k : Client) (p : Session α) (f : α → Session β) :
    k.hold (p >>= f) = k.hold p >>= fun a ↦ k.hold (f a) :=
  Dialogue.run_bind k.reply p f

section Bind

variable {p : Session α} {f : α → Session β} {a : α} {b : Option β}

theorem Holds.bind (hp : Holds answer k p s (some a) sent s')
    (hf : Holds answer k (f a) s' b sent' s'') :
    Holds answer k (p >>= f) s b (sent ++ sent') s'' := by
  rw [Holds, hold_bind]
  exact Comes.next hp hf

theorem Holds.stop (hp : Holds answer k p s none sent s') :
    Holds answer k (p >>= f) s none sent s' := by
  rw [Holds, hold_bind]
  exact Comes.stop hp

theorem holds_pure (a : α) (s : σ) : Holds answer k (pure a) s (some a) [] s :=
  Program.comes_pure _ s

theorem Holds.map {a : Option α} (hp : Holds answer k p s a sent s') (f : α → β) :
    Holds answer k (f <$> p) s (a.map f) sent s' := by
  rw [map_eq_pure_bind]
  cases a with
  | none => exact hp.stop
  | some a =>
    have h := hp.bind (f := fun a ↦ pure (f a)) (holds_pure (f a) s')
    rwa [List.append_nil] at h

end Bind

theorem holds_call {c : Call} {result : Option c.Result}
    (h : Comes answer (Program.exchange (k.answer c)) s result sent s') :
    Holds answer k (Workbench.call c) s result sent s' := by
  have hreply : k.hold (Workbench.call c) = k.reply (.call c) :=
    bind_pure (k.reply (.call c))
  rwa [Holds, hreply]

variable (answer k) in
/-- Naming identities sends nothing. -/
theorem holds_of_asks {p : Session α} (hp : p.Asks (· = .newId)) (s : σ) :
    ∃ a s', Holds answer k p s (some a) [] s' := by
  induction p generalizing s with
  | done a => exact ⟨a, s, holds_pure a s⟩
  | ask q next ih =>
    obtain ⟨rfl, hnext⟩ := hp
    obtain ⟨a, s', h⟩ := ih (answer .newId s).1 (hnext _) (answer .newId s).2
    have hid : Comes answer Program.newId s (answer .newId s).1 [] (answer .newId s).2 :=
      Program.comes_ask answer .newId trivial s
    exact ⟨a, s', hid.lift.next (g := fun id ↦ k.hold (next id)) h⟩

end Remote.Client

open Host (Offline)

theorem EnvFile.asks_lookup (extra : List (String × String)) (name : String) :
    (EnvFile.lookup extra name).Asks Offline :=
  Dialogue.asks_bind (Dialogue.asks_question trivial) fun _ ↦ Dialogue.asks_pure _

theorem EnvFile.asks_expand (extra : List (String × String)) (ps : List Piece) :
    (expand extra ps).Asks Offline := by
  induction ps with
  | nil => exact Dialogue.asks_pure _
  | cons p ps ih =>
    have hrest (before : List Char) :
        (do return before ++ (← expand extra ps) : Program (List Char)).Asks Offline :=
      Dialogue.asks_bind ih fun _ ↦ Dialogue.asks_pure _
    rcases p with c | name
    · exact hrest [c]
    · unfold expand
      split
      · exact hrest _
      · exact Dialogue.asks_bind (asks_lookup extra name) fun _ ↦ hrest _

theorem EnvFile.asks_set (extra : List (String × String)) (lines : List (List Char)) :
    (set extra lines).Asks Offline := by
  induction lines generalizing extra with
  | nil => exact Dialogue.asks_pure _
  | cons line lines ih =>
    unfold set
    split
    · exact Dialogue.asks_pure _
    · exact ih extra
    · refine Dialogue.asks_bind (asks_expand extra _) fun value ↦ ?_
      refine Dialogue.asks_bind (asks_lookup extra _) fun known ↦ ?_
      cases known with
      | none => exact ih _
      | some _ => exact ih _

theorem EnvFile.asks_load : load.Asks Offline := by
  refine Dialogue.asks_bind (Dialogue.asks_question trivial) fun content ↦ ?_
  cases content with
  | text s => exact asks_set _ _
  | absent => exact Dialogue.asks_pure _
  | unreadable => exact Dialogue.asks_pure _

theorem Program.asks_overrides (extra : List (String × String)) :
    (overrides extra).Asks Offline := by
  refine Dialogue.asks_bind (EnvFile.asks_lookup _ _) fun _ ↦ ?_
  refine Dialogue.asks_bind (EnvFile.asks_lookup _ _) fun _ ↦ ?_
  refine Dialogue.asks_bind (EnvFile.asks_lookup _ _) fun _ ↦ ?_
  exact Dialogue.asks_bind (EnvFile.asks_lookup _ _) fun _ ↦ Dialogue.asks_pure _

theorem Local.asks_openShelf (path : String) : (openShelf path).Asks Offline := by
  have hcreate : (do
      if ← write path (Table.fileText (some .empty)) then return .ok (.file path)
      else return .error .storage : Program (Except StoreError Shelf)).Asks Offline := by
    refine Dialogue.asks_bind (Dialogue.asks_question trivial) fun written ↦ ?_
    cases written <;> exact Dialogue.asks_pure _
  unfold openShelf
  split
  · exact Dialogue.asks_pure _
  refine Dialogue.asks_bind (Dialogue.asks_question trivial) fun made ↦ ?_
  split
  · exact Dialogue.asks_pure _
  refine Dialogue.asks_bind (Dialogue.asks_question trivial) fun content ↦ ?_
  cases content with
  | absent => exact hcreate
  | unreadable => exact Dialogue.asks_pure _
  | text s =>
    dsimp only
    split
    · exact Dialogue.asks_pure _
    · exact hcreate
    · exact Dialogue.asks_pure _

namespace Settings

theorem asks_openStore (settings : Settings) : settings.openStore.Asks Offline := by
  cases settings with
  | remote r => exact Dialogue.asks_pure _
  | localTable l =>
    refine Dialogue.asks_bind (Local.asks_openShelf l.path) fun opened ↦ ?_
    cases opened <;> exact Dialogue.asks_pure _

theorem asks_ofFile (extra : List (String × String)) (path : String) :
    (ofFile extra path).Asks Offline := by
  refine Dialogue.asks_bind (Dialogue.asks_question trivial) fun content ↦ ?_
  cases content with
  | absent => exact Dialogue.asks_pure _
  | unreadable => exact Dialogue.asks_pure _
  | text s =>
    dsimp only
    split
    · exact Dialogue.asks_bind (Program.asks_overrides extra) fun _ ↦ Dialogue.asks_pure _
    · exact Dialogue.asks_pure _

theorem asks_ofEnvironment (extra : List (String × String)) :
    (ofEnvironment extra).Asks Offline :=
  Dialogue.asks_bind (Program.asks_overrides extra) fun _ ↦ Dialogue.asks_pure _

end Settings

namespace CommandLine

open Program (Comes)

variable {σ α β : Type} {answer : (q : Host.Question) → σ → Host.Answer q × σ} {s s' s'' : σ}
  {sent sent' : List (Remote.Request × Remote.Delivery)}

section Action

variable {x : Action α} {f : α → Action β} {a : α} {r : Option (Except Failure β)}

theorem comes_next (hx : Comes answer x.run.run s (some (.ok a)) sent s')
    (hf : Comes answer (f a).run.run s' r sent' s'') :
    Comes answer (x >>= f).run.run s r (sent ++ sent') s'' :=
  Comes.next (x := x.run) (g := ExceptT.bindCont f) hx hf

theorem comes_after (hx : Comes answer x.run.run s (some (.ok a)) [] s')
    (hf : Comes answer (f a).run.run s' r sent s'') :
    Comes answer (x >>= f).run.run s r sent s'' :=
  comes_next hx hf

theorem comes_fail (e : Failure) (s : σ) :
    Comes answer (fail e : Action α).run.run s (some (.error e)) [] s :=
  Program.comes_pure _ s

theorem comes_error {e : Failure} (hx : Comes answer x.run.run s (some (.error e)) sent s') :
    Comes answer (x >>= f).run.run s (some (.error e)) sent s' := by
  have h := Comes.next (x := x.run) (g := ExceptT.bindCont f) hx (Program.comes_pure _ s')
  rwa [List.append_nil] at h

theorem comes_break (hx : Comes answer x.run.run s none sent s') :
    Comes answer (x >>= f).run.run s none sent s' :=
  Comes.stop (x := x.run) (g := ExceptT.bindCont f) hx

theorem comes_liftOption {y : OptionT Program α} {o : Option α}
    (h : Comes answer y.run s o sent s') :
    Comes answer (ExceptT.lift y : Action α).run.run s (o.map .ok) sent s' := by
  let g (a : α) : OptionT Program (Except Failure α) := pure (.ok a)
  cases o with
  | none => exact h.stop (g := g)
  | some a =>
    rw [← List.append_nil sent]
    exact h.next (g := g) (Program.comes_pure _ s')

theorem comes_lift {p : Program α} (h : Comes answer p s a sent s') :
    Comes answer (lift p).run.run s (some (.ok a)) sent s' :=
  comes_liftOption h.lift

variable (answer) in
theorem comes_line (text : String) (s : σ) :
    ∃ s', Comes answer (line text).run.run s (some (.ok ())) [] s' :=
  ⟨_, comes_lift (Program.comes_ask answer (.print (text ++ "\n")) trivial s)⟩

theorem asks_next {kind : Host.Question → Prop} (hx : x.run.run.Asks kind)
    (hf : ∀ a, (f a).run.run.Asks kind) : (x >>= f).run.run.Asks kind := by
  refine Program.asks_next (x := x.run) (g := ExceptT.bindCont f) hx fun r ↦ ?_
  cases r with
  | error e => exact Dialogue.asks_pure _
  | ok a => exact hf a

theorem asks_liftOption {y : OptionT Program α} (hy : y.run.Asks Offline) :
    (ExceptT.lift y : Action α).run.run.Asks Offline :=
  Program.asks_next hy fun _ ↦ Dialogue.asks_pure _

theorem asks_lift {p : Program α} (hp : p.Asks Offline) : (lift p).run.run.Asks Offline :=
  asks_liftOption (Program.asks_lift hp)

theorem of_perform_next {b : β} {s : σ}
    (h : (Dialogue.perform answer (x >>= f).run.run s).1 = some (.ok b)) :
    ∃ a s', (Dialogue.perform answer (f a).run.run s').1 = some (.ok b) := by
  have hbind : (x >>= f).run.run = x.run.run >>= fun o ↦
      o.elim (pure none) fun r ↦ (ExceptT.bindCont f r).run := OptionT.run_bind _
  rw [hbind, Dialogue.perform_bind] at h
  cases hx : (Dialogue.perform answer x.run.run s).1 with
  | none =>
    rw [hx] at h
    cases h
  | some r =>
    rw [hx] at h
    cases r with
    | error e => cases h
    | ok a => exact ⟨a, _, h⟩

end Action

theorem asks_holdNew (store : Store) : (store.hold Workbench.new).run.Asks Offline := by
  have hid (w : String → Workbench × Store) : ((some ∘ w) <$> Program.newId).Asks Offline :=
    Dialogue.asks_bind (Dialogue.asks_question trivial) fun _ ↦ Dialogue.asks_pure _
  cases store with
  | remote k => exact hid fun id ↦ (⟨.initial id, [], none⟩, .remote k)
  | localTable l => exact hid fun id ↦ (⟨.initial id, [], none⟩, .localTable l)

def benchOf (settings : Settings) : Action Bench := do
  let store ← ExceptT.mk (OptionT.lift settings.openStore)
  ExceptT.lift (store.hold Workbench.new)

theorem asks_benchOf (settings : Settings) : (benchOf settings).run.run.Asks Offline := by
  have hopen : (OptionT.lift settings.openStore).run.Asks Offline :=
    Program.asks_lift settings.asks_openStore
  exact asks_next hopen fun store ↦ asks_liftOption (asks_holdNew store)

theorem asks_openBench (config : Option String) : (openBench config).run.run.Asks Offline := by
  refine asks_next (asks_lift EnvFile.asks_load) fun extra ↦ ?_
  cases config with
  | none => exact asks_next (asks_lift (Settings.asks_ofEnvironment extra)) asks_benchOf
  | some path =>
    refine asks_next (asks_lift (Settings.asks_ofFile extra path)) fun settings ↦ ?_
    cases settings with
    | error f => exact Dialogue.asks_pure _
    | ok settings => exact asks_benchOf settings

theorem saved_benchOf {settings : Settings} {w : Workbench} {store : Store} {s : σ}
    (h : (Dialogue.perform answer (benchOf settings).run.run s).1 = some (.ok (w, store))) :
    w.saved = [] := by
  obtain ⟨store, s, h⟩ := of_perform_next h
  cases store <;> cases h <;> rfl

/-- A workbench has no list of saved strategies when its store has just been opened. -/
theorem saved_openBench {config : Option String} {w : Workbench} {store : Store} {s : σ}
    (h : (Dialogue.perform answer (openBench config).run.run s).1 = some (.ok (w, store))) :
    w.saved = [] := by
  obtain ⟨extra, s, h⟩ := of_perform_next h
  cases config with
  | none =>
    obtain ⟨settings, s, h⟩ := of_perform_next h
    exact saved_benchOf h
  | some path =>
    obtain ⟨settings, s, h⟩ := of_perform_next h
    cases settings with
    | error f => cases h
    | ok settings => exact saved_benchOf h

end CommandLine

end TradingRules
