import TradingRules.Proofs.Document.Fields

namespace TradingRules

namespace Decoder.Record

variable {ι σ α : Type} [DecidableEq ι] {r : Record ι σ α}

def less (r : Record ι σ α) (is : List ι) (members : List (Option String × Source)) :
    List (Option String × Source) :=
  is.foldr r.without members

theorem without_cons_self {i : ι} {name : String} (h : r.field? name = some i) (s : Source)
    (members : List (Option String × Source)) :
    r.without i ((some name, s) :: members) = r.without i members :=
  List.filter_cons_of_neg (by simp [h])

theorem without_cons_of_ne {i : ι} {m : Option String × Source} (h : m.1.bind r.field? ≠ some i)
    (members : List (Option String × Source)) :
    r.without i (m :: members) = m :: r.without i members :=
  List.filter_cons_of_pos (decide_eq_true h)

theorem without_eq_self {i : ι} {members : List (Option String × Source)}
    (h : i ∉ (r.known members).map Prod.fst) : r.without i members = members := by
  rw [without, List.filter_eq_self]
  intro m hm
  rw [decide_eq_true_iff]
  intro hi
  apply h
  refine List.mem_map.mpr ⟨(i, m.2), List.mem_filterMap.mpr ⟨m, hm, ?_⟩, rfl⟩
  rw [hi, Option.map_some]

theorem known_less_sublist (is : List ι) (members : List (Option String × Source)) :
    (r.known (r.less is members)).Sublist (r.known members) := by
  induction is with
  | nil => exact .refl _
  | cons i is ih =>
    rw [less, List.foldr_cons, known_without]
    exact List.filter_sublist.trans ih

theorem readMembers_congr_seen {origin : Origin} {members : List (Option String × Source)}
    {seen seen' : List ι} (h : ∀ p ∈ r.known members, p.1 ∈ seen ↔ p.1 ∈ seen') (st : σ) :
    r.readMembers origin seen st members = r.readMembers origin seen' st members := by
  induction members generalizing seen seen' st with
  | nil => rfl
  | cons m members ih =>
    obtain ⟨_ | name, s⟩ := m
    · rfl
    rw [known_cons] at h
    rw [readMembers, readMembers]
    cases hi : r.field? name with
    | none =>
      dsimp only
      rw [ih (by simpa [hi] using h)]
    | some i =>
      simp only [hi, Option.toList_some, List.map_cons, List.map_nil, List.cons_append,
        List.nil_append, List.forall_mem_cons] at h
      have hrest (st : σ) : r.readMembers origin (i :: seen) st members =
          r.readMembers origin (i :: seen') st members := by
        apply ih
        intro p hp
        rw [List.mem_cons, List.mem_cons, h.2 p hp]
      simp only [h.1, hrest]

namespace Places

variable (P : r.Places) {origin : Origin} {members : List (Option String × Source)} {i : ι}

theorem put_get (st : σ) : P.put i (P.get i st) st = st := by
  apply P.ext
  intro j
  by_cases hj : j = i
  · subst hj
    rw [P.get_put]
  · rw [P.get_put_of_ne hj]

variable (origin members i) in
/-- What stands for this field, once at most, leaves its place as it is at the start. -/
structure Idle : Prop where
  once : r.Once members i
  idle : ∀ p ∈ r.known members, p.1 = i → P.reader i origin p.2 = .ok (P.get i r.start)

variable {P}

theorem idle_of_source? (honce : r.Once members i) (h : ∀ s, r.source? members i = some s →
    P.reader i origin s = .ok (P.get i r.start)) : P.Idle origin members i := by
  refine ⟨honce, ?_⟩
  rintro p hp rfl
  exact h p.2 (source?_of_mem honce hp)

theorem Idle.of_sublist {members' : List (Option String × Source)} (h : P.Idle origin members i)
    (hsub : (r.known members').Sublist (r.known members)) : P.Idle origin members' i := by
  constructor
  · exact ((hsub.map Prod.fst).count_le i).trans h.once
  · intro p hp
    exact h.idle p (hsub.subset hp)

theorem idle_of_decode_eq_ok {closed : Bool} {a : α}
    (h : r.decode origin (.object members closed) = .ok a)
    (hi : ∀ s x, r.source? members i = some s → P.reader i origin s = .ok x →
      x = P.get i r.start) : P.Idle origin members i := by
  obtain ⟨-, -, hnodup, st, hread, -⟩ := (P.decode_eq_ok_iff origin).mp h
  apply idle_of_source? (r.once_of_nodup hnodup i)
  intro s hs
  have hvalue := (hread i).1 s hs
  rw [hvalue, hi s _ hs hvalue]

theorem readMembers_without (h : P.Idle origin members i) {seen : List ι} (hseen : i ∉ seen)
    {st : σ} (hst : P.get i st = P.get i r.start) :
    r.readMembers origin seen st (r.without i members) = r.readMembers origin seen st members := by
  induction members generalizing seen st with
  | nil => rfl
  | cons m members ih =>
    obtain ⟨_ | name, s⟩ := m
    · rfl
    have hrest : P.Idle origin members i := by
      apply h.of_sublist
      rw [known_cons]
      exact List.sublist_append_right _ _
    cases hj : r.field? name with
    | none =>
      rw [without_cons_of_ne (by simp [hj]), readMembers, readMembers, hj]
      dsimp only
      rw [ih hrest hseen hst]
    | some j =>
      by_cases hji : j = i
      · subst hji
        have hread : r.read origin j s st = .ok st := by
          have hmem : (j, s) ∈ r.known ((some name, s) :: members) := by simp [known_cons, hj]
          rw [P.read_eq, h.idle _ hmem rfl, ← hst, Except.map, put_get]
        -- the field does not come again, so it does not matter that it was seen
        have hlast : j ∉ (r.known members).map Prod.fst := by
          have hcount := h.once
          rw [Once, known_cons, hj] at hcount
          rw [← List.count_eq_zero]
          simpa using hcount
        rw [without_cons_self hj, without_eq_self hlast, readMembers, hj]
        dsimp only
        rw [if_neg hseen, hread]
        apply readMembers_congr_seen
        intro p hp
        have hpj : p.1 ≠ j := fun heq ↦ hlast (heq ▸ List.mem_map_of_mem hp)
        rw [List.mem_cons, or_iff_right hpj]
      · rw [without_cons_of_ne (by simpa [hj] using hji), readMembers, readMembers, hj]
        dsimp only
        split
        · rfl
        rw [P.read_eq]
        cases P.reader j origin s with
        | error e => rfl
        | ok a =>
          apply ih hrest
          · rw [List.mem_cons, not_or]
            exact ⟨Ne.symm hji, hseen⟩
          · rw [P.get_put_of_ne (Ne.symm hji), hst]

/-- An idle field may be left out of an object. -/
theorem decode_without (h : P.Idle origin members i) (closed : Bool) :
    r.decode origin (.object (r.without i members) closed) =
      r.decode origin (.object members closed) := by
  simp only [decode]
  rw [readMembers_without h List.not_mem_nil rfl]

theorem decode_less {is : List ι} (h : ∀ i ∈ is, P.Idle origin members i) (closed : Bool) :
    r.decode origin (.object (r.less is members) closed) =
      r.decode origin (.object members closed) := by
  induction is with
  | nil => rfl
  | cons i is ih =>
    rw [List.forall_mem_cons] at h
    have hidle := h.1.of_sublist (known_less_sublist is members)
    rw [← ih h.2, less, List.foldr_cons]
    exact decode_without hidle closed

end Places

end Decoder.Record

end TradingRules
