import TradingRules.Proofs.Document.Forgiving
import TradingRules.Proofs.Verdict

namespace TradingRules

namespace Decoder.Record

variable {ι σ α : Type} [DecidableEq ι] (r : Record ι σ α)

/-- The members of an object that are fields, under any of their spellings. -/
def known (members : List (Option String × Source)) : List (ι × Source) :=
  members.filterMap fun m ↦ (m.1.bind r.field?).map (·, m.2)

def source? (members : List (Option String × Source)) (i : ι) : Option Source :=
  (r.known members).lookup i

def value? (members : List (Option String × Source)) (i : ι) : Option Json :=
  (r.source? members i).bind fun s ↦ s.toJson?.bind Json.present?

def Once (members : List (Option String × Source)) (i : ι) : Prop :=
  ((r.known members).map Prod.fst).count i ≤ 1

instance (members : List (Option String × Source)) : DecidablePred (r.Once members) :=
  fun i ↦ inferInstanceAs (Decidable (((r.known members).map Prod.fst).count i ≤ 1))

theorem once_of_nodup {members : List (Option String × Source)}
    (h : ((r.known members).map Prod.fst).Nodup) (i : ι) : r.Once members i :=
  List.nodup_iff_count_le_one.mp h i

/-- The members of an object without defects in which no field stands twice. -/
structure WellFormed (members : List (Option String × Source)) : Prop where
  named : ∀ m ∈ members, m.1.isSome
  whole : ∀ m ∈ members, m.2.isWhole
  nodup : ((r.known members).map Prod.fst).Nodup

structure Valued (members : List (Option String × Source)) : Prop extends r.WellFormed members where
  valued : ∀ p ∈ r.known members, p.2.toJson?.isSome

instance (members : List (Option String × Source)) : Decidable (r.Valued members) :=
  decidable_of_iff ((∀ m ∈ members, m.1.isSome) ∧ (∀ m ∈ members, m.2.isWhole) ∧
      ((r.known members).map Prod.fst).Nodup ∧ ∀ p ∈ r.known members, p.2.toJson?.isSome)
    ⟨fun h ↦ ⟨⟨h.1, h.2.1, h.2.2.1⟩, h.2.2.2⟩, fun h ↦ ⟨h.named, h.whole, h.nodup, h.valued⟩⟩

omit [DecidableEq ι] in
theorem known_cons (name : String) (s : Source) (members : List (Option String × Source)) :
    r.known ((some name, s) :: members) = (r.field? name).toList.map (·, s) ++ r.known members := by
  cases h : r.field? name <;> simp [known, h]

theorem mem_of_source? {members : List (Option String × Source)} {i : ι} {s : Source}
    (h : r.source? members i = some s) : (i, s) ∈ r.known members := by
  obtain ⟨before, after, hcut, -⟩ := List.lookup_eq_some_iff.mp h
  rw [hcut]
  simp

variable {r}

theorem source?_of_mem {members : List (Option String × Source)} {p : ι × Source}
    (h : r.Once members p.1) (hp : p ∈ r.known members) : r.source? members p.1 = some p.2 := by
  obtain ⟨before, after, hcut⟩ := List.append_of_mem hp
  apply List.lookup_eq_some_iff.mpr
  refine ⟨before, after, hcut, ?_⟩
  intro q hq
  rw [Once, hcut, List.map_append, List.map_cons, List.count_append, List.count_cons_self] at h
  have hbefore : p.1 ∉ before.map Prod.fst := by
    rw [← List.count_eq_zero]
    omega
  rw [bne_iff_ne]
  intro hpq
  exact hbefore (hpq ▸ List.mem_map_of_mem hq)

theorem Valued.toJson?_of_source? {members : List (Option String × Source)} (h : r.Valued members)
    {i : ι} {s : Source} (hs : r.source? members i = some s) :
    ∃ v, s.toJson? = some v ∧ r.value? members i = v.present? := by
  obtain ⟨v, hv⟩ := Option.isSome_iff_exists.mp (h.valued _ (r.mem_of_source? hs))
  refine ⟨v, hv, ?_⟩
  rw [value?, hs, Option.bind_some, hv, Option.bind_some]

theorem Valued.chosen_of_choice {members : List (Option String × Source)} (h : r.Valued members)
    {β : Type} {names : List (String × β)} {origin : Origin} {i : ι} {s : Source} {b : β}
    (hs : r.source? members i = some s) (hb : Decoder.choice names origin s = .ok b) :
    (r.value? members i).bind (Forgiving.chosen names) = some b := by
  obtain ⟨v, hv, hvalue⟩ := h.toJson?_of_source? hs
  have hchosen := Forgiving.chosen_of_choice hb hv
  have hpresent : v.present? = some v := by
    obtain ⟨name, -, rfl | rfl⟩ := Forgiving.chosen_eq_some_iff.mp hchosen <;> rfl
  rw [hvalue, hpresent, Option.bind_some, hchosen]

theorem value?_eq_none {members : List (Option String × Source)} {i : ι}
    (h : r.source? members i = none) : r.value? members i = none := by
  rw [value?, h, Option.bind_none]

theorem Valued.reads_optional {members : List (Option String × Source)} (h : r.Valued members)
    {β : Type} (use : Json → Option β) (origin : Origin) (i : ι) :
    (∀ s, r.source? members i = some s →
      Forgiving.optional use origin s = .ok ((r.value? members i).bind use)) ∧
    (r.source? members i = none → (r.value? members i).bind use = none) := by
  constructor
  · intro s hs
    obtain ⟨v, hv, hvalue⟩ := h.toJson?_of_source? hs
    rw [hvalue, Forgiving.optional_eq_ok use hv]
  · intro hs
    rw [value?_eq_none hs, Option.bind_none]

def without (r : Record ι σ α) (i : ι) (members : List (Option String × Source)) :
    List (Option String × Source) :=
  members.filter fun m ↦ m.1.bind r.field? ≠ some i

theorem known_without (i : ι) (members : List (Option String × Source)) :
    r.known (r.without i members) = (r.known members).filter (·.1 ≠ i) := by
  rw [known, known, without, List.filterMap_filter, List.filter_filterMap]
  congr 1
  funext m
  cases m.1.bind r.field? with
  | none => simp
  | some j => by_cases hj : j = i <;> simp [hj, Option.filter]

theorem source?_without_self (i : ι) (members : List (Option String × Source)) :
    r.source? (r.without i members) i = none := by
  rw [source?, known_without, List.lookup_eq_none_iff]
  intro p hp
  rw [bne_iff_ne]
  exact Ne.symm (of_decide_eq_true (List.mem_filter.mp hp).2)

theorem source?_without_of_ne {i j : ι} (h : j ≠ i) (members : List (Option String × Source)) :
    r.source? (r.without i members) j = r.source? members j := by
  rw [source?, source?, known_without]
  generalize r.known members = fields
  induction fields with
  | nil => rfl
  | cons p fields ih =>
    obtain ⟨k, s⟩ := p
    by_cases hk : k = i
    · subst hk
      rw [List.lookup_cons, beq_eq_false_iff_ne.mpr h, List.filter_cons_of_neg (by simp), ih]
    · rw [List.filter_cons_of_pos (by simpa using hk), List.lookup_cons, List.lookup_cons, ih]

theorem Valued.without {members : List (Option String × Source)} (h : r.Valued members) (i : ι) :
    r.Valued (r.without i members) := by
  have hsub : (r.without i members).Sublist members := List.filter_sublist
  refine ⟨⟨fun m hm ↦ h.named m (hsub.subset hm), fun m hm ↦ h.whole m (hsub.subset hm), ?_⟩, ?_⟩
  · rw [known_without]
    exact (List.filter_sublist.map Prod.fst).nodup h.nodup
  · intro p hp
    rw [known_without] at hp
    exact h.valued p (List.mem_filter.mp hp).1

omit [DecidableEq ι] in
theorem Valued.of_toJson? {members : List (Option String × Source)}
    (h : (Source.object members true).toJson?.isSome)
    (hnodup : ((r.known members).map Prod.fst).Nodup) : r.Valued members := by
  have hmembers := Source.isSome_of_membersToJson? (by simpa [Source.toJson?] using h)
  refine ⟨⟨fun m hm ↦ (hmembers m hm).1, fun m hm ↦ ?_, hnodup⟩, fun p hp ↦ ?_⟩
  · obtain ⟨v, hv⟩ := Option.isSome_iff_exists.mp (hmembers m hm).2
    exact Source.isWhole_of_toJson? hv
  · obtain ⟨m, hm, hp⟩ := List.mem_filterMap.mp hp
    obtain ⟨i, -, rfl⟩ := Option.map_eq_some_iff.mp hp
    exact (hmembers m hm).2

theorem readMembers_eq_foldlM (origin : Origin) {members : List (Option String × Source)}
    (h : r.WellFormed members) {seen : List ι} (hseen : ∀ p ∈ r.known members, p.1 ∉ seen)
    (st : σ) : r.readMembers origin seen st members =
      (r.known members).foldlM (fun st p ↦ r.read origin p.1 p.2 st) st := by
  induction members generalizing seen st with
  | nil => rfl
  | cons m members ih =>
    obtain ⟨hnamed, hwhole, hnodup⟩ := h
    rw [List.forall_mem_cons] at hnamed hwhole
    obtain ⟨name, s⟩ := m
    obtain ⟨name, rfl⟩ := Option.isSome_iff_exists.mp hnamed.1
    rw [known_cons] at hseen hnodup ⊢
    rw [readMembers]
    cases hi : r.field? name with
    | none =>
      rw [hi] at hseen hnodup
      dsimp only
      rw [if_pos hwhole.1]
      exact ih ⟨hnamed.2, hwhole.2, hnodup⟩ hseen st
    | some i =>
      simp only [hi, Option.toList_some, List.map_cons, List.map_nil, List.cons_append,
        List.nil_append, List.nodup_cons, List.forall_mem_cons] at hseen hnodup
      dsimp only
      rw [if_neg hseen.1]
      simp only [Option.toList_some, List.map_cons, List.map_nil, List.cons_append,
        List.nil_append, List.foldlM_cons]
      congr 1
      funext st'
      apply ih ⟨hnamed.2, hwhole.2, hnodup.2⟩
      intro p hp
      rw [List.mem_cons, not_or]
      refine ⟨?_, hseen.2 p hp⟩
      intro hpi
      exact hnodup.1 (hpi ▸ List.mem_map_of_mem hp)

variable (r) in
/-- All names of an object stand, and so does whatever is skipped in it. -/
structure Passable (members : List (Option String × Source)) : Prop where
  named : ∀ m ∈ members, m.1.isSome
  whole : ∀ m ∈ members, m.1.bind r.field? = none → m.2.isWhole

omit [DecidableEq ι] in
theorem passable_cons {m : Option String × Source} {members : List (Option String × Source)} :
    r.Passable (m :: members) ↔
      (m.1.isSome ∧ (m.1.bind r.field? = none → m.2.isWhole)) ∧ r.Passable members := by
  constructor
  · intro h
    have hnamed := List.forall_mem_cons.mp h.named
    have hwhole := List.forall_mem_cons.mp h.whole
    exact ⟨⟨hnamed.1, hwhole.1⟩, hnamed.2, hwhole.2⟩
  · rintro ⟨hm, h⟩
    exact ⟨List.forall_mem_cons.mpr ⟨hm.1, h.named⟩, List.forall_mem_cons.mpr ⟨hm.2, h.whole⟩⟩

theorem readMembers_ok_iff {origin : Origin} {members : List (Option String × Source)}
    {seen : List ι} {st st' : σ} : r.readMembers origin seen st members = .ok st' ↔
      r.Passable members ∧ ((r.known members).map Prod.fst).Nodup ∧
        (∀ p ∈ r.known members, p.1 ∉ seen) ∧
        (r.known members).foldlM (fun st p ↦ r.read origin p.1 p.2 st) st = .ok st' := by
  induction members generalizing seen st with
  | nil =>
    have hpassable : r.Passable [] := by constructor <;> simp
    simp [readMembers, known, hpassable, pure, Except.pure]
  | cons m members ih =>
    obtain ⟨_ | name, s⟩ := m
    · have hnamed : ¬ r.Passable ((none, s) :: members) := by
        intro h
        exact Bool.false_ne_true (h.named _ List.mem_cons_self)
      simp [readMembers, hnamed]
    rw [readMembers, known_cons, passable_cons]
    cases hi : r.field? name with
    | none =>
      have hrest : (if s.isWhole = true then r.readMembers origin seen st members
          else .error .malformed) = .ok st' ↔
            s.isWhole = true ∧ r.readMembers origin seen st members = .ok st' := by
        split <;> simp [*]
      simp [hi, hrest, ih, and_assoc]
    | some i =>
      by_cases hseen : i ∈ seen
      · simp [hi, hseen]
      · simp only [Option.toList_some, List.map_cons, List.map_nil, List.cons_append,
          List.nil_append, List.foldlM_cons, List.nodup_cons, List.forall_mem_cons]
        rw [if_neg hseen, bind_eq_ok_iff, bind_eq_ok_iff]
        simp only [ih, List.mem_cons, not_or]
        constructor
        · rintro ⟨a, ha, hpass, hdup, hfresh, hread⟩
          have hknown : r.field? name ≠ none := by simp [hi]
          refine ⟨⟨⟨rfl, fun h ↦ absurd h hknown⟩, hpass⟩, ⟨?_, hdup⟩,
            ⟨hseen, fun p hp ↦ (hfresh p hp).2⟩, a, ha, hread⟩
          intro hmem
          obtain ⟨p, hp, hpi⟩ := List.mem_map.mp hmem
          exact (hfresh p hp).1 hpi
        · rintro ⟨⟨-, hpass⟩, ⟨hne, hdup⟩, ⟨-, hfresh⟩, a, ha, hread⟩
          refine ⟨a, ha, hpass, hdup, fun p hp ↦ ⟨?_, hfresh p hp⟩, hread⟩
          rintro rfl
          exact hne (List.mem_map_of_mem hp)

omit [DecidableEq ι] in
theorem read_map {β γ : Type} (x : Except DocumentError β) (f : β → γ) (put : γ → σ) :
    (do return put (f (← x))) = (f <$> x).map put := by
  cases x <;> rfl

variable (r)

/-- Each field of a record is read on its own, into a place of its own. -/
structure Places where
  Value : ι → Type
  reader (i : ι) : Decoder (Value i)
  get (i : ι) : σ → Value i
  put (i : ι) : Value i → σ → σ
  read_eq (origin : Origin) (i : ι) (s : Source) (st : σ) :
    r.read origin i s st = (reader i origin s).map (put i · st)
  get_put (i : ι) (a : Value i) (st : σ) : get i (put i a st) = a
  get_put_of_ne {i j : ι} (h : j ≠ i) (a : Value i) (st : σ) : get j (put i a st) = get j st
  ext {st st' : σ} (h : ∀ i, get i st' = get i st) : st = st'

namespace Places

variable {r} (P : r.Places) (origin : Origin)

/-- What is read in a list of fields: each of them into its place, the other places being left
alone. -/
def Reads (fields : List (ι × Source)) (st st' : σ) : Prop :=
  ∀ i, (∀ s, fields.lookup i = some s → P.reader i origin s = .ok (P.get i st')) ∧
    (fields.lookup i = none → P.get i st' = P.get i st)

omit [DecidableEq ι] in
theorem reads_of_source? {source? : Option Source} {i : ι} {s : Source} {st st' : σ}
    (hs : source? = some s) (hread : P.reader i origin s = .ok (P.get i st')) :
    (∀ t, source? = some t → P.reader i origin t = .ok (P.get i st')) ∧
      (source? = none → P.get i st' = P.get i st) := by
  subst hs
  constructor
  · intro t ht
    rwa [← Option.some.inj ht]
  · intro hnone
    cases hnone

theorem reads_cons_iff {i : ι} {s : Source} {fields : List (ι × Source)} {a : P.Value i}
    (hi : i ∉ fields.map Prod.fst) (ha : P.reader i origin s = .ok a) {st st' : σ} :
    P.Reads origin ((i, s) :: fields) st st' ↔ P.Reads origin fields (P.put i a st) st' := by
  apply forall_congr'
  intro j
  by_cases hj : j = i
  · subst hj
    have hnone : fields.lookup j = none := by
      rw [List.lookup_eq_none_iff]
      intro p hp
      rw [bne_iff_ne]
      intro hjp
      exact hi (hjp ▸ List.mem_map_of_mem hp)
    simp [hnone, ha, P.get_put, eq_comm]
  · have hlookup : ((i, s) :: fields).lookup j = fields.lookup j := by
      rw [List.lookup_cons, beq_eq_false_iff_ne.mpr hj]
    rw [hlookup, P.get_put_of_ne hj]

theorem foldlM_eq_ok_iff {fields : List (ι × Source)} (hfields : (fields.map Prod.fst).Nodup)
    {st st' : σ} : fields.foldlM (fun st p ↦ r.read origin p.1 p.2 st) st = .ok st' ↔
      P.Reads origin fields st st' := by
  induction fields generalizing st with
  | nil =>
    constructor
    · intro h
      obtain rfl := Except.ok.inj h
      intro i
      simp
    · intro h
      exact congrArg Except.ok (P.ext fun i ↦ (h i).2 rfl)
  | cons p fields ih =>
    obtain ⟨i, s⟩ := p
    rw [List.map_cons, List.nodup_cons] at hfields
    rw [List.foldlM_cons, P.read_eq]
    cases ha : P.reader i origin s with
    | error e =>
      apply iff_of_false nofun
      intro h
      have hi := (h i).1 s List.lookup_cons_self
      exact nomatch ha.symm.trans hi
    | ok a =>
      rw [P.reads_cons_iff origin hfields.1 ha, ← ih hfields.2]
      rfl

omit [DecidableEq ι] in
theorem exists_of_foldlM_eq_error {fields : List (ι × Source)} {st : σ} {e : DocumentError}
    (h : fields.foldlM (fun st p ↦ r.read origin p.1 p.2 st) st = .error e) :
    ∃ p ∈ fields, P.reader p.1 origin p.2 = .error e := by
  induction fields generalizing st with
  | nil => cases h
  | cons p fields ih =>
    rw [List.foldlM_cons, bind_eq_error_iff] at h
    obtain h | ⟨st', -, h⟩ := h
    · refine ⟨p, List.mem_cons_self, ?_⟩
      rw [P.read_eq] at h
      cases ha : P.reader p.1 origin p.2 with
      | error e' => simpa [ha, Except.map] using h
      | ok a => simp [ha, Except.map] at h
    · obtain ⟨q, hq, he⟩ := ih h
      exact ⟨q, List.mem_cons_of_mem _ hq, he⟩

theorem decode_congr_member {name : String} {i : ι} {s s' : Source} (hi : r.field? name = some i)
    (hs : P.reader i origin s = P.reader i origin s') (before after : List (Option String × Source))
    (closed : Bool) : r.decode origin (.object (before ++ (some name, s) :: after) closed) =
      r.decode origin (.object (before ++ (some name, s') :: after) closed) := by
  have hread (seen : List ι) (st : σ) :
      r.readMembers origin seen st (before ++ (some name, s) :: after) =
        r.readMembers origin seen st (before ++ (some name, s') :: after) := by
    induction before generalizing seen st with
    | nil => simp only [List.nil_append, readMembers, hi, P.read_eq, hs]
    | cons m before ih =>
      obtain ⟨_ | name, t⟩ := m
      · rfl
      · simp only [List.cons_append, readMembers, ih]
  simp only [decode, hread]

theorem decode_eq_ok_iff {members : List (Option String × Source)} {closed : Bool} {a : α} :
    r.decode origin (.object members closed) = .ok a ↔
      closed ∧ r.Passable members ∧ ((r.known members).map Prod.fst).Nodup ∧
        ∃ st, P.Reads origin (r.known members) r.start st ∧
          r.finish (fun i ↦ .missingField (r.name i)) st = .ok a := by
  have hclosed (st : σ) : (if closed then r.finish (fun i ↦ .missingField (r.name i)) st
      else .error .malformed) = .ok a ↔
        closed ∧ r.finish (fun i ↦ .missingField (r.name i)) st = .ok a := by
    split <;> simp [*]
  simp only [decode, bind_eq_ok_iff, readMembers_ok_iff, hclosed]
  constructor
  · rintro ⟨st, ⟨hpass, hnodup, -, hread⟩, hend, hfinish⟩
    exact ⟨hend, hpass, hnodup, st, (P.foldlM_eq_ok_iff origin hnodup).mp hread, hfinish⟩
  · rintro ⟨hend, hpass, hnodup, st, hread, hfinish⟩
    refine ⟨st, ⟨hpass, hnodup, ?_, (P.foldlM_eq_ok_iff origin hnodup).mpr hread⟩, hend, hfinish⟩
    intro p _
    exact List.not_mem_nil

variable {origin} {members : List (Option String × Source)} (h : r.WellFormed members)

include h

theorem readMembers_eq_ok_iff {st st' : σ} :
    r.readMembers origin [] st members = .ok st' ↔ P.Reads origin (r.known members) st st' := by
  rw [readMembers_eq_foldlM origin h (by simp), P.foldlM_eq_ok_iff origin h.nodup]

theorem decode_eq_ok_of_reads {st : σ} {a : α}
    (hst : P.Reads origin (r.known members) r.start st)
    (ha : r.finish (fun i ↦ .missingField (r.name i)) st = .ok a) :
    r.decode origin (.object members true) = .ok a := by
  have hread := (P.readMembers_eq_ok_iff h).mpr hst
  rw [decode, hread]
  exact ha

theorem exists_of_readMembers_eq_error {st : σ} {e : DocumentError}
    (he : r.readMembers origin [] st members = .error e) :
    ∃ i s, r.source? members i = some s ∧ P.reader i origin s = .error e := by
  rw [readMembers_eq_foldlM origin h (by simp)] at he
  obtain ⟨p, hp, he⟩ := P.exists_of_foldlM_eq_error origin he
  exact ⟨p.1, p.2, source?_of_mem (r.once_of_nodup h.nodup p.1) hp, he⟩

/-- A single field that cannot be read is what is complained about. -/
theorem decode_eq_error {i : ι} {s : Source} {e : DocumentError}
    (hs : r.source? members i = some s) (he : P.reader i origin s = .error e)
    (hothers : ∀ j t, j ≠ i → r.source? members j = some t → ∃ a, P.reader j origin t = .ok a) :
    r.decode origin (.object members true) = .error e := by
  have hread : r.readMembers origin [] r.start members = .error e := by
    cases hst : r.readMembers origin [] r.start members with
    | ok st' =>
      have hi := ((P.readMembers_eq_ok_iff h).mp hst i).1 s hs
      exact nomatch he.symm.trans hi
    | error e' =>
      obtain ⟨j, t, ht, he'⟩ := P.exists_of_readMembers_eq_error h hst
      by_cases hj : j = i
      · subst hj
        obtain rfl := Option.some.inj (hs.symm.trans ht)
        exact congrArg Except.error (Except.error.inj (he'.symm.trans he))
      · obtain ⟨a, ha⟩ := hothers j t hj ht
        exact nomatch he'.symm.trans ha
  rw [decode, hread]
  rfl

end Places

end Decoder.Record

end TradingRules
