import TradingRules.Proofs.Store.Table

namespace TradingRules

structure Transaction where
  owner : String
  call : Call
  result : call.Result

structure Entry where
  id : StrategyId
  owner : String
  name : String
  configuration : String
  deriving DecidableEq

def Entry.listing (e : Entry) : Listing :=
  ⟨e.id, e.name⟩

/-- Whether an entry has this owner and a name that differs from this one in the case of ASCII
letters at most. -/
def Entry.Clashes (e : Entry) (owner name : String) : Prop :=
  e.owner = owner ∧ Text.sameIgnoringAsciiCase e.name name

def Entry.Is (e : Entry) (owner : String) (id : StrategyId) : Prop :=
  e.owner = owner ∧ e.id = id

def Row.entry (r : Row) : Entry :=
  ⟨r.strategyId, r.owner, r.name, r.configuration⟩

def Entry.Brings (e : Entry) : Except StoreError (SavedStrategy (Option String)) → Prop
  | .ok saved => saved.id = e.id ∧ saved.name = e.name ∧
      Strategy.decoder.ofText e.configuration = .ok saved.strategy
  | .error cause => ∃ fault, cause = .unreadableRow e.id fault ∧
      Strategy.decoder.ofText e.configuration = .error fault

namespace Transaction

def created? : Transaction → Option Entry
  | ⟨owner, .create name strategy, .ok saved⟩ =>
    some ⟨saved.id, owner, name, strategy.toJson.compact⟩
  | _ => none

def deletes (tr : Transaction) (e : Entry) : Bool :=
  match tr with
  | ⟨owner, .delete id, .ok ()⟩ => e.owner = owner && e.id = id
  | _ => false

end Transaction

def givenIds (trs : List Transaction) : List Int :=
  (trs.filterMap (·.created?)).map (·.id.number)

/-- What was created and was not deleted afterwards, in the order of creation. -/
def kept : List Transaction → List Entry
  | [] => []
  | tr :: later => (tr.created?.toList.filter fun e ↦ !later.any (·.deletes e)) ++ kept later

theorem kept_append_singleton (trs : List Transaction) (tr : Transaction) :
    kept (trs ++ [tr]) = (kept trs).filter (!tr.deletes ·) ++ tr.created?.toList := by
  induction trs with
  | nil => simp [kept]
  | cons first later ih =>
    simp only [List.cons_append, kept, ih, List.filter_append, List.filter_filter,
      List.append_assoc]
    congr 1
    refine List.filter_congr fun e _ ↦ ?_
    simp [List.any_append, Bool.and_comm]

theorem Row.brings_saved (r : Row) : r.entry.Brings r.saved := by
  unfold saved
  cases h : Strategy.decoder.ofText r.configuration with
  | ok strategy => exact ⟨rfl, rfl, h⟩
  | error fault => exact ⟨fault, rfl, h⟩

theorem Row.of_saved {r : Row} {saved : SavedStrategy (Option String)} (h : r.saved = .ok saved) :
    saved.id = r.strategyId ∧ saved.name = r.name ∧
      Strategy.decoder.ofText r.configuration = .ok saved.strategy := by
  have hr := r.brings_saved
  rw [h] at hr
  exact hr

/-- The result of a call, given the entries that are kept and the numbers given out so far. A create
is refused exactly if it clashes with an entry, and a number is unknown exactly if no entry of the
owner has it. -/
def Call.Exact (es : List Entry) (given : List Int) (owner : String) : (c : Call) → c.Result → Prop
  | .create name strategy, r =>
    ((∃ e ∈ es, e.Clashes owner name) ∧ ∃ message, r = .error (.conflict message)) ∨
    ((¬ ∃ e ∈ es, e.Clashes owner name) ∧ ∃ saved : SavedStrategy (Option String), r = .ok saved ∧
      saved.name = name ∧ saved.strategy = strategy.stored ∧ 0 < saved.id.number ∧
      ∀ n ∈ given, n < saved.id.number)
  | .list, r => r = .ok ((es.filter (·.owner = owner)).map (·.listing))
  | .get id, r =>
    (∃ e ∈ es, e.Is owner id ∧ e.Brings r) ∨
    ((¬ ∃ e ∈ es, e.Is owner id) ∧ r = .error (.notFound id))
  | .delete id, r =>
    ((∃ e ∈ es, e.Is owner id) ∧ r = .ok ()) ∨
    ((¬ ∃ e ∈ es, e.Is owner id) ∧ r = .error (.notFound id))

def Faithful (trs : List Transaction) : Prop :=
  ∀ before tr after, trs = before ++ tr :: after →
    tr.call.Exact (kept before) (givenIds before) tr.owner tr.result

theorem faithful_append_singleton {trs : List Transaction} {tr : Transaction} (h : Faithful trs)
    (htr : tr.call.Exact (kept trs) (givenIds trs) tr.owner tr.result) :
    Faithful (trs ++ [tr]) := by
  intro before tr' after heq
  rcases List.eq_nil_or_concat after with rfl | ⟨after, last, rfl⟩
  · obtain ⟨rfl, rfl⟩ : trs = before ∧ tr = tr' := by simpa using heq
    exact htr
  · rw [List.concat_eq_append, ← List.cons_append, ← List.append_assoc] at heq
    exact h before tr' after (List.append_inj_left' heq rfl)

def Call.NulFree : Call → Prop
  | .create name _ => Text.NulFree name
  | _ => True

namespace Table

def transaction (t : Table) (owner : String) (now : Instant) (c : Call) : Transaction :=
  ⟨owner, c, (t.answer owner now c).1⟩

/-- What a table and the transactions that were carried out on it have to do with each other. -/
structure Books (t : Table) (trs : List Transaction) : Prop where
  sound : t.Sound
  rows : t.rows.map (·.entry) = kept trs
  ascending : (givenIds trs).Pairwise (· < ·)
  positive : ∀ n ∈ givenIds trs, 0 < n
  bounded : ∀ n ∈ givenIds trs, n ≤ t.lastId
  nulFree : ∀ r ∈ t.rows, Text.NulFree r.name
  faithful : Faithful trs

theorem books_empty : empty.Books [] :=
  ⟨sound_empty, rfl, .nil, by simp [givenIds], by simp [givenIds], by simp [empty],
    by simp [Faithful]⟩

variable {t : Table} {trs : List Transaction} {owner : String} {now : Instant}

theorem transaction_cases (t : Table) (owner : String) (now : Instant) (c : Call) :
    ((t.transaction owner now c).created? = none ∧
      (t.transaction owner now c).deletes = (fun _ ↦ false) ∧ (t.answer owner now c).2 = t) ∨
    (∃ name strategy, c = .create name strategy ∧ t.hasName owner name = false ∧
      (t.transaction owner now c).created? = some (t.next owner now name strategy).entry ∧
      (t.transaction owner now c).deletes = (fun _ ↦ false) ∧
      (t.answer owner now c).2 = ⟨t.rows ++ [t.next owner now name strategy], t.lastId + 1⟩) ∨
    (∃ id, (t.transaction owner now c).created? = none ∧
      (t.transaction owner now c).deletes = (fun e ↦ e.owner = owner && e.id = id) ∧
      (t.answer owner now c).2 = t.erase owner id) := by
  unfold transaction
  cases c with
  | create name strategy =>
    cases h : t.hasName owner name with
    | true =>
      rw [answer_create_of_hasName h]
      exact .inl ⟨rfl, rfl, rfl⟩
    | false =>
      rw [answer_create h]
      exact .inr (.inl ⟨name, strategy, rfl, h, rfl, rfl, rfl⟩)
  | list => exact .inl ⟨rfl, rfl, rfl⟩
  | get id => exact .inl ⟨rfl, rfl, answer_get_snd⟩
  | delete id =>
    cases h : t.find? owner id with
    | none =>
      rw [answer_delete_of_none h]
      exact .inl ⟨rfl, rfl, rfl⟩
    | some r =>
      rw [answer_delete_of_isSome (by simp [h])]
      exact .inr (.inr ⟨id, rfl, rfl, rfl⟩)

theorem map_entry_erase (t : Table) (owner : String) (id : StrategyId) :
    (t.erase owner id).rows.map (·.entry) =
      (t.rows.map (·.entry)).filter fun e ↦ !(e.owner = owner && e.id = id) := by
  rw [List.filter_map]
  rfl

theorem givenIds_append_singleton (trs : List Transaction) (tr : Transaction) :
    givenIds (trs ++ [tr]) = givenIds trs ++ tr.created?.toList.map (·.id.number) := by
  cases h : tr.created? <;> simp [givenIds, List.filterMap_append, h]

theorem Books.exists_entry_iff (h : t.Books trs) {p : Entry → Prop} :
    (∃ e ∈ kept trs, p e) ↔ ∃ r ∈ t.rows, p r.entry := by
  simp [← h.rows]

theorem Books.hasName_iff (h : t.Books trs) {name : String} (hname : Text.NulFree name) :
    t.hasName owner name ↔ ∃ e ∈ kept trs, e.Clashes owner name := by
  rw [h.exists_entry_iff, Table.hasName_iff]
  simp only [mem_of, and_assoc]
  refine exists_congr fun r ↦ and_congr_right fun hr ↦ and_congr_right fun _ ↦ ?_
  rw [sameName_eq (h.nulFree r hr) hname]
  rfl

theorem Books.find?_isSome_iff (h : t.Books trs) {id : StrategyId} :
    (t.find? owner id).isSome ↔ ∃ e ∈ kept trs, e.Is owner id := by
  rw [h.exists_entry_iff, Table.find?_isSome_iff]
  simp only [mem_of, and_assoc]
  rfl

theorem Books.exact (h : t.Books trs) {c : Call} (hc : c.NulFree) :
    c.Exact (kept trs) (givenIds trs) owner (t.answer owner now c).1 := by
  cases c with
  | create name strategy =>
    cases hname : t.hasName owner name with
    | true =>
      rw [answer_create_of_hasName hname]
      exact .inl ⟨(h.hasName_iff hc).mp hname, _, rfl⟩
    | false =>
      rw [answer_create hname]
      refine .inr ⟨by simp [← h.hasName_iff hc, hname], _, rfl, rfl, rfl, ?_, fun n hn ↦ ?_⟩
      · exact Int.natCast_pos.mpr (Nat.succ_pos _)
      · have := h.bounded n hn
        dsimp only
        omega
  | list =>
    have hlist : ((kept trs).filter (·.owner = owner)).map (·.listing) =
        (t.of owner).map (·.listing) := by
      rw [← h.rows, List.filter_map, List.map_map]
      rfl
    exact congrArg Except.ok hlist.symm
  | get id =>
    cases hfind : t.find? owner id with
    | none =>
      have hanswer : (t.answer owner now (.get id)).1 = .error (.notFound id) := by
        simp [Table.answer, hfind]
      exact .inr ⟨by simp [← h.find?_isSome_iff, hfind], hanswer⟩
    | some r =>
      obtain ⟨hr, howner⟩ := mem_of.mp (List.mem_of_find?_eq_some hfind)
      have hid : r.strategyId = id := by simpa using List.find?_some hfind
      have hanswer : (t.answer owner now (.get id)).1 = r.saved := by
        simp [Table.answer, hfind]
      rw [hanswer]
      refine .inl ⟨r.entry, ?_, ⟨howner, hid⟩, r.brings_saved⟩
      exact h.rows ▸ List.mem_map_of_mem hr
  | delete id =>
    cases hfind : t.find? owner id with
    | none =>
      rw [answer_delete_of_none hfind]
      exact .inr ⟨by simp [← h.find?_isSome_iff, hfind], rfl⟩
    | some r =>
      have hsome : (t.find? owner id).isSome := by simp [hfind]
      rw [answer_delete_of_isSome hsome]
      exact .inl ⟨h.find?_isSome_iff.mp hsome, rfl⟩

theorem Books.of_not_created (h : t.Books trs) {tr : Transaction} {t' : Table}
    (htr : tr.call.Exact (kept trs) (givenIds trs) tr.owner tr.result)
    (hcreated : tr.created? = none) (hsound : t'.Sound) (hlast : t'.lastId = t.lastId)
    (hsub : t'.rows ⊆ t.rows)
    (hrows : t'.rows.map (·.entry) = (kept trs).filter fun e ↦ !tr.deletes e) :
    t'.Books (trs ++ [tr]) := by
  have hgiven : givenIds (trs ++ [tr]) = givenIds trs := by
    simp [givenIds_append_singleton, hcreated]
  refine ⟨hsound, ?_, ?_, ?_, ?_, ?_, faithful_append_singleton h.faithful htr⟩
  · simpa [kept_append_singleton, hcreated] using hrows
  · rw [hgiven]
    exact h.ascending
  · rw [hgiven]
    exact h.positive
  · rw [hgiven, hlast]
    exact h.bounded
  · intro r hr
    exact h.nulFree r (hsub hr)

theorem Books.of_created (h : t.Books trs) {tr : Transaction} {r : Row}
    (htr : tr.call.Exact (kept trs) (givenIds trs) tr.owner tr.result)
    (hcreated : tr.created? = some r.entry) (hdeletes : tr.deletes = fun _ ↦ false)
    (hid : r.id = t.lastId + 1) (hname : Text.NulFree r.name)
    (hsound : Sound ⟨t.rows ++ [r], t.lastId + 1⟩) :
    Books ⟨t.rows ++ [r], t.lastId + 1⟩ (trs ++ [tr]) := by
  have hgiven : givenIds (trs ++ [tr]) = givenIds trs ++ [(t.lastId : Int) + 1] := by
    simp [givenIds_append_singleton, hcreated, Row.entry, Row.strategyId, hid]
  refine ⟨hsound, ?_, ?_, ?_, ?_, ?_, faithful_append_singleton h.faithful htr⟩
  · simp [kept_append_singleton, hcreated, hdeletes, h.rows]
  · rw [hgiven, List.pairwise_append]
    refine ⟨h.ascending, by simp, ?_⟩
    intro a ha b hb
    have := h.bounded a ha
    have := List.mem_singleton.mp hb
    omega
  · rw [hgiven]
    intro n hn
    rcases List.mem_append.mp hn with hn | hn
    · exact h.positive n hn
    · have := List.mem_singleton.mp hn
      omega
  · rw [hgiven]
    intro n hn
    dsimp only
    rcases List.mem_append.mp hn with hn | hn
    · have := h.bounded n hn
      omega
    · have := List.mem_singleton.mp hn
      omega
  · intro r' hr'
    rcases List.mem_append.mp hr' with hr' | hr'
    · exact h.nulFree r' hr'
    · obtain rfl := List.mem_singleton.mp hr'
      exact hname

theorem Books.answer (h : t.Books trs) (owner : String) (now : Instant) {c : Call}
    (hc : c.NulFree) : (t.answer owner now c).2.Books (trs ++ [t.transaction owner now c]) := by
  have hexact : c.Exact (kept trs) (givenIds trs) owner (t.answer owner now c).1 := h.exact hc
  have hsound := h.sound.answer owner now c
  obtain ⟨hcreated, hdeletes, ht⟩ | ⟨name, strategy, rfl, hname, hcreated, hdeletes, ht⟩ |
    ⟨id, hcreated, hdeletes, ht⟩ := t.transaction_cases owner now c
  · rw [ht]
    refine h.of_not_created hexact hcreated h.sound rfl (List.Subset.refl _) ?_
    simpa [hdeletes] using h.rows
  · rw [ht] at hsound ⊢
    exact h.of_created hexact hcreated hdeletes rfl hc hsound
  · rw [ht] at hsound ⊢
    refine h.of_not_created hexact hcreated hsound rfl List.filter_sublist.subset ?_
    rw [map_entry_erase, h.rows, hdeletes]

end Table

end TradingRules
