import TradingRules.Proofs.CommandLine.Traffic
import TradingRules.Proofs.Strategy.Percent
import TradingRules.Proofs.Workbench.Conduct
import TradingRules.Proofs.Workbench.Drafts

namespace TradingRules

def Host.Content.strategy? : Host.Content → Option (Strategy (Option String))
  | .text s => (Strategy.decoder.ofText s).toOption
  | _ => none

theorem Host.Content.proper_of_strategy? {content : Host.Content}
    {st : Strategy (Option String)} (h : content.strategy? = some st) : st.Proper := by
  cases content with
  | absent => cases h
  | unreadable => cases h
  | text s =>
    have h : (Strategy.decoder.ofText s).toOption = some st := h
    cases hst : Strategy.decoder.ofText s with
    | error e => simp [hst, Except.toOption] at h
    | ok st' =>
      rw [hst] at h
      exact Option.some.inj h ▸ Strategy.proper_of_ofText hst

namespace Workbench

variable {w : Workbench} {name : String}

theorem save_of_not_ready (h : ¬ w.Ready name) :
    ∃ refusal, w.save name = pure (.error refusal, w) := by
  unfold save
  dsimp only
  split
  · exact ⟨_, rfl⟩
  next hfilled =>
  split
  · exact ⟨_, rfl⟩
  next hlisted =>
  rw [not_or] at hfilled
  exact absurd ⟨hfilled.1, hfilled.2, by simpa using hlisted⟩ h

/-- What becomes of a draft that was sent to the store. -/
def sent (w : Workbench) : Except StoreError (SavedStrategy (Option String)) →
    Session (Except Refusal SaveReport × Workbench)
  | .error e => return (.error (.store e), w)
  | .ok saved => do
    let strategy ← saved.identify newId
    let (refreshed, w) ← { w with loaded := some strategy.id }.fetch
    return (.ok ⟨strategy, errorOf refreshed⟩, w)

theorem save_of_ready (h : w.Ready name) :
    w.save name = call (.create (Text.trim name) w.draft) >>= w.sent := by
  unfold save
  dsimp only
  rw [if_neg (not_or.mpr ⟨h.name_ne, h.conditions_ne⟩), if_neg (by simp [h.notListed])]
  refine congrArg (Dialogue.ask _) (funext fun result ↦ ?_)
  cases result <;> rfl

theorem fetch_eq_map (w : Workbench) :
    w.fetch = (fun listed ↦ (listed.map fun _ ↦ (), w.refreshed listed)) <$> call .list := by
  refine congrArg (Dialogue.ask _) (funext fun listed ↦ ?_)
  cases listed <;> rfl

theorem ready_iff : w.Ready name ↔ w.draft.conditions ≠ [] ∧ Text.trim name ≠ "" ∧
    ∀ l ∈ w.saved, Text.lowerCase l.name ≠ Text.lowerCase (Text.trim name) := by
  have hlisted : w.hasName (Text.trim name) = false ↔
      ∀ l ∈ w.saved, Text.lowerCase l.name ≠ Text.lowerCase (Text.trim name) := by
    simp [hasName]
  rw [← hlisted]
  exact ⟨fun h ↦ ⟨h.conditions_ne, h.name_ne, h.notListed⟩, fun h ↦ ⟨h.2.1, h.1, h.2.2⟩⟩

end Workbench

/-- A draft is sent under a name, after the list was asked for: the workbench accepts it, it can be
saved, and no strategy is known to have the name, letters of either case being the same. -/
structure Strategy.IsSent (draft : Strategy) (name : String)
    (listed : Except StoreError (List Listing)) : Prop where
  accepted : Workbench.checkImport draft = .ok ()
  conditions_ne : draft.conditions ≠ []
  name_ne : Text.trim name ≠ ""
  notListed : ∀ ls, listed = .ok ls → ∀ l ∈ ls,
    Text.lowerCase l.name ≠ Text.lowerCase (Text.trim name)

theorem Strategy.IsSent.check {draft : Strategy} {name : String}
    {listed : Except StoreError (List Listing)} (h : draft.IsSent name listed) :
    draft.exit.check = .ok () := by
  obtain ⟨u, -, hcheck⟩ := bind_eq_ok_iff.mp h.accepted
  exact hcheck

theorem Workbench.ready_refreshed_iff {w : Workbench} (hw : w.saved = []) {draft : Strategy}
    (hdraft : checkImport draft = .ok ()) (name : String)
    (listed : Except StoreError (List Listing)) :
    ({ w.refreshed listed with draft := draft, loaded := none } : Workbench).Ready name ↔
      draft.IsSent name listed := by
  have hlisted : (∀ l ∈ (w.refreshed listed).saved,
        Text.lowerCase l.name ≠ Text.lowerCase (Text.trim name)) ↔
      ∀ ls, listed = .ok ls → ∀ l ∈ ls,
        Text.lowerCase l.name ≠ Text.lowerCase (Text.trim name) := by
    cases listed <;> simp [refreshed, hw, Except.toOption]
  rw [ready_iff, hlisted]
  exact ⟨fun h ↦ ⟨hdraft, h.1, h.2.1, h.2.2⟩, fun h ↦ ⟨h.conditions_ne, h.name_ne, h.notListed⟩⟩

namespace Remote.Client

open Program (Comes)

variable {σ : Type} {answer : (q : Host.Question) → σ → Host.Answer q × σ} {k : Client}
  {s s' : σ} {sent : List (Request × Delivery)} {w : Workbench} {name : String}

theorem holds_fetch {listed : Option (Except StoreError (List Listing))} (w : Workbench)
    (hlist : Comes answer (Program.exchange (k.answer .list)) s listed sent s') :
    Holds answer k w.fetch s (listed.map fun listed ↦ (listed.map fun _ ↦ (), w.refreshed listed))
      sent s' := by
  rw [Workbench.fetch_eq_map]
  exact (holds_call hlist).map _

theorem holds_sent_ok (w : Workbench) (saved : SavedStrategy (Option String)) (s : σ) :
    ∃ result sent s' relisted, Holds answer k (w.sent (.ok saved)) s result sent s' ∧
      k.Attempts .list sent relisted ∧ (relisted = none → result = none) ∧
      (relisted.isSome → ∃ report w', result = some (.ok report, w')) := by
  have hnewId : Workbench.newId.Asks (· = .newId) := Dialogue.asks_question rfl
  obtain ⟨strategy, s₁, hid⟩ := holds_of_asks answer k
    (SavedStrategy.asks_identify hnewId saved) s
  obtain ⟨relisted, sent, s₂, hlist, hsent⟩ := k.comes_read (c := .list) answer rfl s₁
  have hfetch := (holds_fetch { w with loaded := some strategy.id } hlist).map fun x ↦
    ((.ok ⟨strategy, Workbench.errorOf x.1⟩ : Except Workbench.Refusal Workbench.SaveReport), x.2)
  refine ⟨_, sent, s₂, relisted, hid.bind hfetch, hsent, ?_, ?_⟩
  · rintro rfl
    rfl
  · intro hsome
    obtain ⟨listed, rfl⟩ := Option.isSome_iff_exists.mp hsome
    exact ⟨_, _, rfl⟩

section Ready

variable (hready : w.Ready name) {d : Delivery}
  (hcreate : Comes answer (Program.exchange (k.answer (.create (Text.trim name) w.draft))) s
    (some ((Call.create (Text.trim name) w.draft).outcome d)) sent s')

include hready hcreate

theorem holds_save_of_error {e : StoreError}
    (he : (Call.create (Text.trim name) w.draft).outcome d = .error e) :
    Holds answer k (w.save name) s (some (.error (.store e), w)) sent s' := by
  rw [he] at hcreate
  rw [Workbench.save_of_ready hready, ← List.append_nil sent]
  exact (holds_call hcreate).bind (holds_pure _ s')

theorem holds_save_of_ok {taken : SavedStrategy (Option String)}
    (htaken : (Call.create (Text.trim name) w.draft).outcome d = .ok taken) :
    ∃ result second s'' relisted, Holds answer k (w.save name) s result (sent ++ second) s'' ∧
      k.Attempts .list second relisted ∧ (relisted = none → result = none) ∧
      (relisted.isSome → ∃ report w', result = some (.ok report, w')) := by
  rw [htaken] at hcreate
  obtain ⟨result, second, s'', relisted, hsent, hsecond⟩ := holds_sent_ok w taken s'
  refine ⟨result, second, s'', relisted, ?_, hsecond⟩
  rw [Workbench.save_of_ready hready]
  exact (holds_call hcreate).bind hsent

end Ready

end Remote.Client

namespace CommandLine

open Program (Comes)

variable {σ : Type} {answer : (q : Host.Question) → σ → Host.Answer q × σ} {k : Remote.Client}
  {s s₁ s₂ : σ} {first : List (Remote.Request × Remote.Delivery)} {w w₁ : Workbench}
  {file name : String}

theorem comes_hold {p : Workbench.Session (α × Workbench)} {o : Option (α × Workbench)}
    (h : Remote.Client.Holds answer k p s o first s₁) :
    Comes answer (hold (.remote k) p).run.run s (o.map fun x ↦ .ok (x.1, x.2, .remote k)) first
      s₁ := by
  let g (a : α × Workbench) : OptionT Program ((α × Workbench) × Store) := pure (a, .remote k)
  have h : Comes answer (k.hold p).run s o first s₁ := h
  cases o with
  | none => exact comes_break (comes_liftOption (h.stop (g := g)))
  | some x =>
    have hstore := comes_liftOption (h.next (g := g) (Program.comes_pure _ s₁))
    have hpure := comes_next (f := fun x ↦ pure (x.1.1, x.1.2, x.2)) hstore
      (Program.comes_pure _ s₁)
    rwa [List.append_nil, List.append_nil] at hpure

variable (answer) in
/-- A file is read without the network, as a draft with all identities if it holds one. -/
theorem comes_readDraft (file : String) (s : σ) :
    match (answer (.read file) s).1.strategy? with
    | some st => ∃ ids draft s', st.IdentifiedAs ids draft ∧
        Comes answer (readDraft file).run.run s (some (.ok draft)) [] s'
    | none => ∃ f s', Comes answer (readDraft file).run.run s (some (.error f)) [] s' := by
  have hread := comes_lift (Program.comes_ask answer (.read file) trivial s)
  generalize (answer (.read file) s).1 = content at hread ⊢
  generalize (answer (.read file) s).2 = s₁ at hread
  unfold readDraft
  cases content with
  | absent => exact ⟨_, s₁, comes_after hread (comes_fail _ s₁)⟩
  | unreadable => exact ⟨_, s₁, comes_after hread (comes_fail _ s₁)⟩
  | text text =>
    cases hst : Strategy.decoder.ofText text with
    | error e =>
      simp only [Host.Content.strategy?, hst, Except.toOption]
      refine ⟨.context s!"Failed to parse draft {file}" (.document e), s₁, comes_after hread ?_⟩
      simp only [hst]
      exact comes_fail _ s₁
    | ok st =>
      have hnewId : Program.newId.Asks Host.Offline := Dialogue.asks_question trivial
      have hcomes := Program.comes_of_asks answer (Strategy.asks_identify hnewId st) s₁
      obtain ⟨ids, hids⟩ : ∃ ids, st.IdentifiedAs ids
          (Dialogue.perform answer (st.identify Program.newId) s₁).1 := st.exists_identifiedAs s₁
      generalize Dialogue.perform answer (st.identify Program.newId) s₁ = x at hcomes hids
      simp only [Host.Content.strategy?, hst, Except.toOption]
      refine ⟨ids, x.1, x.2, hids, comes_after hread ?_⟩
      simp only [hst]
      exact comes_lift hcomes

def announce (report : Workbench.SaveReport) : Action Unit := do
  line s!"Saved '{report.strategy.name}' as #{report.strategy.id.number}"
  match report.refreshError with
  | some e => notRefreshed e
  | none => return

variable (answer) in
theorem comes_announce (report : Workbench.SaveReport) (s : σ) :
    ∃ s', Comes answer (announce report).run.run s (some (.ok ())) [] s' := by
  unfold announce
  obtain ⟨s₁, hline⟩ := comes_line answer _ s
  cases report.refreshError with
  | none => exact ⟨s₁, comes_after hline (Program.comes_pure _ s₁)⟩
  | some e =>
    obtain ⟨s₂, hnote⟩ := comes_line answer _ s₁
    exact ⟨s₂, comes_after hline hnote⟩

/-- The request that creates a strategy from a draft. Its body is a JSON object with the name and
the document of the draft, in which only the percentage of the exit may be read as another one. -/
structure Posts (k : Remote.Client) (draft : Strategy) (name : String) (post : Remote.Request) :
    Prop where
  method : post.method = .post
  url : post.url = k.base ++ "/api/strategies/"
  authorization : post.authorization = k.token.map ("Bearer " ++ ·)
  body : ∃ v, Json.readText post.body = ⟨.object [(some "name", .string (some (Text.trim name))),
      (some "configuration", v)] true, true⟩ ∧ v = draft.toJson.reread ∧
    Strategy.decoder .value (.ofJson draft.toJson) = .ok draft.stored ∧
    ∃ e, draft.exit.reread? = some e ∧
      Strategy.decoder .text v = .ok { draft with exit := e }.stored

theorem posts_request (k : Remote.Client) {draft : Strategy} (hdraft : draft.Proper)
    (hcheck : draft.exit.check = .ok ()) (name : String) :
    Posts k draft name ((Call.create (Text.trim name) draft).request k) where
  method := rfl
  url := rfl
  authorization := rfl
  body := by
    have hreadable : (Remote.Client.creation (Text.trim name) draft).Readable 127 :=
      ⟨by decide, trivial, Strategy.readable_toJson hdraft (by decide), trivial⟩
    obtain ⟨e, he, hdecode⟩ := Strategy.decode_reread hdraft hcheck
    exact ⟨_, Json.readText_write Json.blank_none hreadable, rfl,
      Strategy.decode_toJson .value hdraft, e, he, hdecode .text⟩

/-- What is sent for a draft under a name, and whether it is saved then. The list is asked for; the
draft follows once if it is to be sent; and the list is asked for again if the server took the
draft, which is saved then unless this is broken off. -/
def Saving (k : Remote.Client) (draft : Strategy) (name : String)
    (sent : List (Remote.Request × Remote.Delivery)) (saved : Prop) : Prop :=
  let outcome := (Call.create (Text.trim name) draft).outcome
  ∃ first listed, k.Attempts .list first listed ∧
    ((∀ ls, listed = some ls → ¬ draft.IsSent name ls) → sent = first ∧ ¬ saved) ∧
    ∀ ls, listed = some ls → draft.IsSent name ls → ∃ post d, Posts k draft name post ∧
      (∀ e, outcome d = .error e → sent = first ++ [(post, d)] ∧ ¬ saved) ∧
      ∀ taken, outcome d = .ok taken → ∃ second relisted, k.Attempts .list second relisted ∧
        sent = first ++ (post, d) :: second ∧ (saved ↔ relisted.isSome)

section Save

variable {draft : Strategy} {listed : Except StoreError (List Listing)}
  (hread : Comes answer (readDraft file).run.run s (some (.ok draft)) [] s₁)

include hread

theorem comes_save_of_broken_off
    (hlist : Comes answer (Program.exchange (k.answer .list)) s₁ none first s₂) (name : String) :
    Comes answer (save file name (w, .remote k)).run.run s none first s₂ :=
  comes_after hread (comes_break (comes_hold (Remote.Client.holds_fetch w hlist)))

variable (hlist : Comes answer (Program.exchange (k.answer .list)) s₁ (some listed) first s₂)

include hlist

theorem comes_save_of_refused (name : String) {v : Violation}
    (hv : Workbench.checkImport draft = .error v) :
    ∃ f, Comes answer (save file name (w, .remote k)).run.run s (some (.error f)) first s₂ := by
  have himport : (w.refreshed listed).importDraft draft = .error v := by
    simp [Workbench.importDraft, hv, bind, Except.bind]
  refine ⟨.context s!"{file} holds values the builder does not accept" (.violation v),
    comes_after hread ?_⟩
  rw [← List.append_nil first]
  refine comes_next (comes_hold (Remote.Client.holds_fetch w hlist)) ?_
  simp only [himport]
  exact comes_fail _ s₂

theorem comes_save_of_accepted (hdraft : Workbench.checkImport draft = .ok ())
    {result : Option (Except Workbench.Refusal Workbench.SaveReport × Workbench)}
    {sent : List (Remote.Request × Remote.Delivery)} {s₃ : σ}
    (hsave : Remote.Client.Holds answer k
      (({ w.refreshed listed with draft := draft, loaded := none } : Workbench).save name) s₂
      result sent s₃) :
    ∃ r s₄, Comes answer (save file name (w, .remote k)).run.run s r (first ++ sent) s₄ ∧
      (r = some (.ok ()) ↔ ∃ report w', result = some (.ok report, w')) := by
  have himport : (w.refreshed listed).importDraft draft =
      .ok { w.refreshed listed with draft := draft, loaded := none } := by
    simp [Workbench.importDraft, hdraft, bind, Except.bind, pure, Except.pure]
  have hfetch := comes_hold (Remote.Client.holds_fetch w hlist)
  cases result with
  | none =>
    refine ⟨none, s₃, comes_after hread (comes_next hfetch ?_), by simp⟩
    simp only [himport]
    exact comes_break (comes_hold hsave)
  | some x =>
    obtain ⟨result, w₂⟩ := x
    cases result with
    | error e =>
      refine ⟨some (.error (.reason e.message)), s₃, comes_after hread (comes_next hfetch ?_),
        by simp⟩
      simp only [himport]
      rw [← List.append_nil sent]
      exact comes_next (comes_hold hsave) (comes_fail _ s₃)
    | ok report =>
      obtain ⟨s₄, hreport⟩ := comes_announce answer report s₃
      refine ⟨some (.ok ()), s₄, comes_after hread (comes_next hfetch ?_), by simp⟩
      simp only [himport]
      rw [← List.append_nil sent]
      exact comes_next (comes_hold hsave) hreport

variable (hw : w.saved = []) (hfirst : k.Attempts .list first (some listed))

include hw hfirst

theorem comes_save_of_not_sent (hsent : ¬ draft.IsSent name listed) :
    ∃ r sent s', Comes answer (save file name (w, .remote k)).run.run s r sent s' ∧
      Saving k draft name sent (r = some (.ok ())) := by
  have hsaving {r : Option (Except Failure Unit)} (hr : r ≠ some (.ok ())) :
      Saving k draft name first (r = some (.ok ())) := by
    refine ⟨first, some listed, hfirst, fun _ ↦ ⟨rfl, hr⟩, ?_⟩
    rintro _ ⟨⟩ h
    exact absurd h hsent
  cases hdraft : Workbench.checkImport draft with
  | error v =>
    obtain ⟨f, hcomes⟩ := comes_save_of_refused hread hlist name hdraft
    exact ⟨_, _, _, hcomes, hsaving (by simp)⟩
  | ok u =>
    have hready := mt (Workbench.ready_refreshed_iff hw hdraft name listed).mp hsent
    obtain ⟨refusal, hsave⟩ := Workbench.save_of_not_ready hready
    obtain ⟨r, s₃, hcomes, hr⟩ := comes_save_of_accepted hread hlist hdraft
      (hsave ▸ Remote.Client.holds_pure _ s₂)
    rw [List.append_nil] at hcomes
    exact ⟨r, first, s₃, hcomes, hsaving (by simp [hr])⟩

theorem comes_save_of_sent (hproper : draft.Proper) (hsent : draft.IsSent name listed) :
    ∃ r sent s', Comes answer (save file name (w, .remote k)).run.run s r sent s' ∧
      Saving k draft name sent (r = some (.ok ())) := by
  have hdraft := hsent.accepted
  have hready := (Workbench.ready_refreshed_iff hw hdraft name listed).mpr hsent
  have hposts := posts_request k hproper hsent.check name
  obtain ⟨d, s₃, hcreate⟩ := k.comes_write (c := .create (Text.trim name) draft) answer
    (by simp [Call.method]) s₂
  have hnotSent (h : ∀ ls, some listed = some ls → ¬ draft.IsSent name ls) : False :=
    h listed rfl hsent
  cases houtcome : (Call.create (Text.trim name) draft).outcome d with
  | error e =>
    have hsession := Remote.Client.holds_save_of_error hready hcreate houtcome
    obtain ⟨r, s₄, hcomes, hr⟩ := comes_save_of_accepted hread hlist hdraft hsession
    refine ⟨r, _, s₄, hcomes, first, some listed, hfirst, fun h ↦ (hnotSent h).elim, ?_⟩
    rintro _ ⟨⟩ -
    refine ⟨_, d, hposts, fun _ _ ↦ ⟨rfl, by simp [hr]⟩, fun _ htaken ↦ ?_⟩
    cases houtcome.symm.trans htaken
  | ok taken =>
    obtain ⟨result, second, s₄, relisted, hsession, hsecond, hnone, hsome⟩ :=
      Remote.Client.holds_save_of_ok hready hcreate houtcome
    obtain ⟨r, s₅, hcomes, hr⟩ := comes_save_of_accepted hread hlist hdraft hsession
    refine ⟨r, _, s₅, hcomes, first, some listed, hfirst, fun h ↦ (hnotSent h).elim, ?_⟩
    rintro _ ⟨⟩ -
    refine ⟨_, d, hposts, fun _ he ↦ ?_,
      fun _ _ ↦ ⟨second, relisted, hsecond, rfl, hr.trans ⟨?_, hsome⟩⟩⟩
    · cases houtcome.symm.trans he
    · rintro ⟨report, w', hresult⟩
      cases relisted with
      | none => cases hresult.symm.trans (hnone rfl)
      | some ls => rfl

end Save

theorem comes_save {draft : Strategy} (hproper : draft.Proper)
    (hread : Comes answer (readDraft file).run.run s (some (.ok draft)) [] s₁) (hw : w.saved = [])
    (name : String) :
    ∃ r sent s', Comes answer (save file name (w, .remote k)).run.run s r sent s' ∧
      Saving k draft name sent (r = some (.ok ())) := by
  obtain ⟨listed, first, s₂, hlist, hfirst⟩ := k.comes_read (c := .list) answer rfl s₁
  cases listed with
  | none =>
    refine ⟨none, first, s₂, comes_save_of_broken_off hread hlist name, first, none, hfirst,
      fun _ ↦ ⟨rfl, nofun⟩, nofun⟩
  | some listed =>
    by_cases hsent : draft.IsSent name listed
    · exact comes_save_of_sent hread hlist hw hfirst hproper hsent
    · exact comes_save_of_not_sent hread hlist hw hfirst hsent

theorem code_ofResult_eq_zero_iff {r : Option (Except Failure Unit)} :
    (Outcome.ofResult r).code = 0 ↔ r = some (.ok ()) := by
  rcases r with _ | _ | _ <;> simp [Outcome.ofResult]

section Run

variable {arguments : List String} {config : Option String}

theorem comes_run (hparse : parse arguments = .ok ⟨config, .save file name⟩)
    (hlogs : (answer (.makeFolder "logs") s).1 = true) {b : Bench}
    (hopen : Dialogue.perform answer (openBench config).run.run
      (answer (.makeFolder "logs") s).2 = (some (.ok b), s₁))
    {r : Option (Except Failure Unit)} {sent : List (Remote.Request × Remote.Delivery)}
    (hsave : Comes answer (save file name b).run.run s₁ r sent s₂) :
    Comes answer (run arguments) s (.ofResult r) sent s₂ := by
  have hfolder := Program.comes_ask answer (.makeFolder "logs") trivial s
  have hbench := Program.comes_of_asks answer (asks_openBench config)
    (answer (.makeFolder "logs") s).2
  rw [hlogs] at hfolder
  rw [hopen] at hbench
  unfold run
  rw [hparse]
  exact hfolder.bind ((comes_after hbench hsave).map Outcome.ofResult)

/-- Saving the draft in a file under a name on a server. Nothing is sent if the file holds no draft.
Otherwise the list is asked for; the draft follows at most once, exactly if it is accepted, has
conditions and a name, and no strategy is known to have that name; and the list is asked for again
exactly if the server took the draft. Then the command succeeds whatever comes of it, unless it is
broken off by the number of its attempts. -/
theorem save_sends_a_draft_once (hparse : parse arguments = .ok ⟨config, .save file name⟩)
    (hlogs : (answer (.makeFolder "logs") s).1 = true)
    (hopen : Dialogue.perform answer (openBench config).run.run
      (answer (.makeFolder "logs") s).2 = (some (.ok (w, .remote k)), s₁)) :
    let course := (run arguments).course answer s
    let sent := Host.requests course.log
    let content := (answer (.read file) s₁).1
    (content.strategy? = none → sent = [] ∧ course.result.code ≠ 0) ∧
    ∀ st, content.strategy? = some st → ∃ ids draft, st.IdentifiedAs ids draft ∧
      Saving k draft name sent (course.result.code = 0) := by
  intro course sent content
  have hw : w.saved = [] := saved_openBench (congrArg Prod.fst hopen)
  have hread := comes_readDraft answer file s₁
  have hcode {r : Option (Except Failure Unit)} (h : course.result = .ofResult r) :
      course.result.code = 0 ↔ r = some (.ok ()) := by rw [h, code_ofResult_eq_zero_iff]
  constructor
  · intro hnone
    have hnone : (answer (.read file) s₁).1.strategy? = none := hnone
    rw [hnone] at hread
    obtain ⟨f, s₂, hread⟩ := hread
    have hsave : Comes answer (save file name (w, .remote k)).run.run s₁ (some (.error f)) [] s₂ :=
      comes_error hread
    have hrun := comes_run hparse hlogs hopen hsave
    exact ⟨hrun.sent, by simp [hcode hrun.result]⟩
  · intro st hst
    have hst : (answer (.read file) s₁).1.strategy? = some st := hst
    rw [hst] at hread
    obtain ⟨ids, draft, s₂, hids, hread⟩ := hread
    have hproper : st.Proper := Host.Content.proper_of_strategy? hst
    obtain ⟨r, sent', s₃, hsave, hsaving⟩ := comes_save (hproper.of_identifiedAs hids) hread hw name
    have hrun := comes_run hparse hlogs hopen hsave
    have hsent : sent = sent' := hrun.sent
    rw [hsent, hcode hrun.result]
    exact ⟨ids, draft, hids, hsaving⟩

end Run

/-- A host with some files, no variables and a server from which some deliveries are to come. -/
def counter (files : List (String × String)) (q : Host.Question)
    (deliveries : List Remote.Delivery) : Host.Answer q × List Remote.Delivery :=
  match q with
  | .read path =>
    match files.lookup path with
    | some text => (.text text, deliveries)
    | none => (.absent, deliveries)
  | .write _ _ => (true, deliveries)
  | .makeFolder _ => (true, deliveries)
  | .variable _ => (none, deliveries)
  | .print _ => ((), deliveries)
  | .network (.send _) => (deliveries.headD (.error "closed"), deliveries.tail)
  | .network .warn => (false, deliveries)
  | .network (.wait _) => ((), deliveries)
  | .now => (⟨0, 0⟩, deliveries)
  | .newId => ("new", deliveries)

/-- A server that is busy once and then knows no strategies, takes the draft, and cannot be reached
any more. -/
theorem save_sends_a_draft_after_a_busy_reply :
    let text := (Strategy.initial "a").toJson.compact
    let saved : SavedStrategy := ⟨⟨1⟩, "Gap", .initial "a", none, none⟩
    let arguments := ["save", "draft.json", "--name", " Gap "]
    let answer := counter [("draft.json", text)]
    let deliveries : List Remote.Delivery :=
      [.ok ⟨503, ""⟩, .ok ⟨200, "[]"⟩, .ok ⟨201, saved.toJson.compact⟩]
    let k := RemoteSettings.default.client
    let course := (run arguments).course answer deliveries
    parse arguments = .ok ⟨none, .save "draft.json" " Gap "⟩ ∧
      (answer (.makeFolder "logs") deliveries).1 = true ∧
      Dialogue.perform answer (openBench none).run.run
        (answer (.makeFolder "logs") deliveries).2 =
          (some (.ok (⟨.initial "new", [], none⟩, .remote k)), deliveries) ∧
      ∃ ids draft, (Strategy.initial "a").stored.IdentifiedAs ids draft ∧
        Saving k draft " Gap " (Host.requests course.log) (course.result.code = 0) := by
  intro text saved arguments answer deliveries k course
  have hparse : parse arguments = .ok ⟨none, .save "draft.json" " Gap "⟩ := rfl
  have hlogs : (answer (.makeFolder "logs") deliveries).1 = true := rfl
  have hopen : Dialogue.perform answer (openBench none).run.run
      (answer (.makeFolder "logs") deliveries).2 =
        (some (.ok (⟨.initial "new", [], none⟩, .remote k)), deliveries) := rfl
  have hread : (answer (.read "draft.json") deliveries).1 = .text text := rfl
  have hdecode : Strategy.decoder.ofText text = .ok (Strategy.initial "a").stored :=
    Strategy.ofText_toJson (Strategy.proper_initial "a") (by
      intro x hx
      cases hx)
  have htext : (Host.Content.text text).strategy? = some (Strategy.initial "a").stored := by
    rw [Host.Content.strategy?, hdecode, Except.toOption]
  -- The run itself is not to be computed.
  clear_value text answer deliveries
  obtain ⟨-, hsaving⟩ := save_sends_a_draft_once hparse hlogs hopen
  obtain ⟨ids, draft, hids, hsaving⟩ := hsaving _ (hread ▸ htext)
  exact ⟨hparse, hlogs, hopen, ids, draft, hids, hsaving⟩

/-- The server takes the draft, but asking for the list again, with 33 repetitions allowed, aborts
the program. -/
theorem save_fails_although_the_draft_is_taken :
    let draft := Strategy.initial "a"
    let settings := Settings.remote { RemoteSettings.default with maxRetries := 33 }
    let answer := counter [("settings.json", settings.toJson.compact),
      ("draft.json", draft.toJson.compact)]
    let saved : SavedStrategy := ⟨⟨1⟩, "Gap", draft, none, none⟩
    let listed : Remote.Delivery := .ok ⟨200, "[]"⟩
    let taken : Remote.Delivery := .ok ⟨201, saved.toJson.compact⟩
    let lost : List Remote.Delivery := List.replicate 33 (.error "closed")
    let arguments := ["--config", "settings.json", "save", "draft.json", "--name", "Gap"]
    let course := (run arguments).course answer (listed :: taken :: lost)
    (Host.requests course.log).map (fun p ↦ (p.1.method, p.2)) =
        (.get, listed) :: (.post, taken) :: lost.map (.get, ·) ∧
      (Call.create "Gap" draft).outcome taken = .ok saved.stored ∧ course.result.code = 101 := by
  decide +kernel

end CommandLine

end TradingRules
