import Mathlib.Data.List.Forall2
import Mathlib.Data.List.Pairwise
import TradingRules.Proofs.Document.Fields
import TradingRules.Proofs.Json.Sorted

namespace TradingRules

namespace Decoder

variable {α β : Type} {d : Decoder α} {origin : Origin} {s s' : Source}

/-- The same is read from both sources, if anything; they may be refused for different reasons. -/
def Agree (d : Decoder α) (origin : Origin) (s s' : Source) : Prop :=
  ∀ a, d origin s = .ok a ↔ d origin s' = .ok a

theorem map_eq_ok_iff {f : α → β} {x : Except DocumentError α} {b : β} :
    x.map f = .ok b ↔ ∃ a, x = .ok a ∧ f a = b := by
  cases x <;> simp [Except.map]

theorem Agree.map (h : Agree d origin s s') (f : α → β) :
    Agree (fun origin s ↦ f <$> d origin s) origin s s' := by
  intro b
  change (d origin s).map f = .ok b ↔ (d origin s').map f = .ok b
  simp only [map_eq_ok_iff, h _]

theorem Agree.nullable (h : Agree d origin s s') (hnull : s = .null ↔ s' = .null) :
    Agree d.nullable origin s s' := by
  intro found
  simp only [nullable_eq_ok_iff, hnull, ne_eq, h _]

theorem items_agree {sources sources' : List Source}
    (h : List.Forall₂ (Agree d origin) sources sources') (as : List α) :
    items d origin sources = .ok as ↔ items d origin sources' = .ok as := by
  induction h generalizing as with
  | nil => rfl
  | cons hs _ ih => simp only [items, bind_eq_ok_iff, hs _, ih]

theorem Agree.list {sources sources' : List Source} {closed : Bool}
    (h : List.Forall₂ (Agree d origin) sources sources') :
    Agree d.list origin (.array sources closed) (.array sources' closed) := by
  intro as
  simp only [Decoder.list, bind_eq_ok_iff, items_agree h]

namespace Record

variable {ι σ : Type} [DecidableEq ι] (r : Record ι σ α) (F : ι → Source → Source → Prop)

/-- Two members that say the same: one and the same member, or two that stand for one field, each
under one of its spellings. -/
inductive SameMember : Option String × Source → Option String × Source → Prop
  | same (m : Option String × Source) : SameMember m m
  | field {name name' : String} {i : ι} {s s' : Source} (h : r.field? name = some i)
      (h' : r.field? name' = some i) (hs : F i s s') : SameMember (some name, s) (some name', s')

inductive SameItems : List ι → List Source → List Source → Prop
  | rest (is : List ι) (vs : List Source) : SameItems is vs vs
  | field {i : ι} {is : List ι} {s s' : Source} {vs vs' : List Source} (h : F i s s')
      (hrest : SameItems is vs vs') : SameItems (i :: is) (s :: vs) (s' :: vs')

/-- Two sources of which one is made from the other by putting the members of an object in which no
field stands twice in another order and under other spellings. What stands for a field may in turn
be rearranged, in whichever way is `F` for it, also where the fields stand in a list. -/
inductive Rearranged : Source → Source → Prop
  | same (s : Source) : Rearranged s s
  | object {members middle members' : List (Option String × Source)} {closed : Bool}
      (hnodup : ((r.known members).map Prod.fst).Nodup)
      (hsame : List.Forall₂ (r.SameMember F) members middle) (hperm : middle.Perm members') :
      Rearranged (.object members closed) (.object members' closed)
  | array {items items' : List Source} {closed : Bool} (h : SameItems F r.fields items items') :
      Rearranged (.array items closed) (.array items' closed)

variable {r F} {members members' : List (Option String × Source)}

omit [DecidableEq ι] in
theorem SameItems.length_eq {is : List ι} {items items' : List Source}
    (h : SameItems F is items items') : items.length = items'.length := by
  induction h with
  | rest => rfl
  | field _ _ ih => rw [List.length_cons, List.length_cons, ih]

omit [DecidableEq ι] in
theorem Rearranged.eq_null_iff (h : r.Rearranged F s s') : s = .null ↔ s' = .null := by
  cases h <;> simp

omit [DecidableEq ι] in
theorem passable_congr (h : List.Forall₂ (r.SameMember F) members members') :
    r.Passable members ↔ r.Passable members' := by
  induction h with
  | nil => rfl
  | cons hm _ ih =>
    rw [passable_cons, passable_cons, ih]
    cases hm with
    | same => rfl
    | field h h' => simp [h, h']

omit [DecidableEq ι] in
theorem passable_perm (h : members.Perm members') : r.Passable members ↔ r.Passable members' := by
  constructor
  · intro hm
    exact ⟨fun m hmem ↦ hm.named m (h.mem_iff.mpr hmem),
      fun m hmem ↦ hm.whole m (h.mem_iff.mpr hmem)⟩
  · intro hm
    exact ⟨fun m hmem ↦ hm.named m (h.mem_iff.mp hmem),
      fun m hmem ↦ hm.whole m (h.mem_iff.mp hmem)⟩

theorem source?_eq_some_iff (h : ((r.known members).map Prod.fst).Nodup) {i : ι} {s : Source} :
    r.source? members i = some s ↔ (i, s) ∈ r.known members :=
  ⟨r.mem_of_source?, source?_of_mem (p := (i, s)) (r.once_of_nodup h i)⟩

theorem source?_perm (h : members.Perm members') (hnodup : ((r.known members).map Prod.fst).Nodup)
    (i : ι) : r.source? members i = r.source? members' i := by
  have hknown : (r.known members).Perm (r.known members') := h.filterMap _
  have hnodup' : ((r.known members').map Prod.fst).Nodup :=
    (hknown.map Prod.fst).nodup_iff.mp hnodup
  ext s
  rw [source?_eq_some_iff hnodup, source?_eq_some_iff hnodup', hknown.mem_iff]

omit [DecidableEq ι] in
theorem map_fst_known (members : List (Option String × Source)) :
    (r.known members).map Prod.fst = members.filterMap (·.1.bind r.field?) := by
  rw [known, List.map_filterMap]
  congr 1
  funext m
  cases m.1.bind r.field? <;> rfl

variable (origin) in
theorem exists_error_of_twice {m m' : Option String × Source} (hm : m ∈ members)
    (hm' : m' ∈ members) (hne : m ≠ m') {i : ι} (hi : m.1.bind r.field? = some i)
    (hi' : m'.1.bind r.field? = some i) (closed : Bool) :
    ∃ e, r.decode origin (.object members closed) = .error e := by
  cases hdecode : r.decode origin (.object members closed) with
  | error e => exact ⟨e, rfl⟩
  | ok a =>
    obtain ⟨st, hread, -⟩ := bind_eq_ok_iff.mp hdecode
    have hnodup := (readMembers_ok_iff.mp hread).2.1
    rw [map_fst_known, List.Nodup, List.pairwise_filterMap] at hnodup
    have hsymm : Std.Symm fun m m' : Option String × Source ↦
        ∀ j, m.1.bind r.field? = some j → ∀ j', m'.1.bind r.field? = some j' → j ≠ j' :=
      ⟨fun _ _ h j hj j' hj' ↦ (h j' hj' j hj).symm⟩
    exact (hnodup.forall hm hm' hne i hi i hi' rfl).elim

omit [DecidableEq ι] in
/-- What is written for a record is rearranged when it is put in order, in whichever way the values
are. -/
theorem rearranged_sorted (hname : ∀ i, r.field? (r.name i) = some i) {ms : List (ι × Json)}
    (hms : (ms.map Prod.fst).Nodup) (hF : ∀ m ∈ ms, F m.1 (.ofJson m.2) (.ofJson m.2.sorted)) :
    r.Rearranged F (.ofJson (r.written ms)) (.ofJson (r.written ms).sorted) := by
  have hnames : ((ms.map fun m ↦ (r.name m.1, m.2)).map Prod.fst).Nodup := by
    have hmap : (ms.map fun m ↦ (r.name m.1, m.2)).map Prod.fst = (ms.map Prod.fst).map r.name := by
      simp
    rw [hmap]
    refine hms.map fun i j hij ↦ Option.some.inj ?_
    rw [← hname i, ← hname j, hij]
  obtain ⟨members', hsorted, hperm⟩ := Json.exists_sorted_object hnames
  have hknown : r.known (ms.map fun m ↦ (some (r.name m.1), Source.ofJson m.2)) =
      ms.map fun m ↦ (m.1, Source.ofJson m.2) := by
    rw [known, List.filterMap_map, ← List.filterMap_eq_map]
    exact congrArg (List.filterMap · ms) (funext fun m ↦ by simp [hname])
  have hsame : List.Forall₂ (r.SameMember F)
      (ms.map fun m ↦ (some (r.name m.1), Source.ofJson m.2))
      (ms.map fun m ↦ (some (r.name m.1), Source.ofJson m.2.sorted)) := by
    rw [List.forall₂_map_left_iff, List.forall₂_map_right_iff, List.forall₂_same]
    exact fun m hm ↦ .field (hname m.1) (hname m.1) (hF m hm)
  rw [written, hsorted, Source.ofJson, Source.ofJson, Source.ofMembers_map]
  refine .object ?_ hsame ?_
  · rw [hknown]
    rw [List.map_map]
    exact hms
  · have hmembers := hperm.map fun m ↦ (some m.1, Source.ofJson m.2)
    have hlast := Source.ofMembers_map Prod.fst Prod.snd members'
    rw [List.map_id'] at hlast
    rwa [List.map_map, List.map_map, ← hlast] at hmembers

namespace Places

variable (P : r.Places) (origin)

def AgreeOn (fields fields' : List (ι × Source)) : Prop :=
  ∀ i, Option.Rel (Agree (P.reader i) origin) (fields.lookup i) (fields'.lookup i)

variable {P origin}

theorem reads_congr {fields fields' : List (ι × Source)} (h : P.AgreeOn origin fields fields')
    (st st' : σ) : P.Reads origin fields st st' ↔ P.Reads origin fields' st st' := by
  apply forall_congr'
  intro i
  have hi := h i
  generalize fields.lookup i = source? at hi ⊢
  generalize fields'.lookup i = source?' at hi ⊢
  cases hi with
  | none => rfl
  | some hagree => simp [hagree _]

theorem AgreeOn.cons {fields fields' : List (ι × Source)} {i : ι}
    (hs : Agree (P.reader i) origin s s') (h : P.AgreeOn origin fields fields') :
    P.AgreeOn origin ((i, s) :: fields) ((i, s') :: fields') := by
  intro j
  by_cases hj : j = i
  · subst hj
    rw [List.lookup_cons_self, List.lookup_cons_self]
    exact .some hs
  · rw [List.lookup_cons, List.lookup_cons, beq_eq_false_iff_ne.mpr hj]
    exact h j

omit [DecidableEq ι] in
theorem field_of_sameMember (hF : ∀ i s s', F i s s' → Agree (P.reader i) origin s s')
    {m m' : Option String × Source} (h : r.SameMember F m m') :
    (m.1.bind r.field? = none ∧ m'.1.bind r.field? = none) ∨
      ∃ i, m.1.bind r.field? = some i ∧ m'.1.bind r.field? = some i ∧
        Agree (P.reader i) origin m.2 m'.2 := by
  cases h with
  | same =>
    cases m.1.bind r.field? with
    | none => exact .inl ⟨rfl, rfl⟩
    | some i => exact .inr ⟨i, rfl, rfl, fun _ ↦ Iff.rfl⟩
  | field h h' hs => exact .inr ⟨_, h, h', hF _ _ _ hs⟩

theorem known_of_sameMember (hF : ∀ i s s', F i s s' → Agree (P.reader i) origin s s')
    (h : List.Forall₂ (r.SameMember F) members members') :
    (r.known members).map Prod.fst = (r.known members').map Prod.fst ∧
      P.AgreeOn origin (r.known members) (r.known members') := by
  induction h with
  | nil => exact ⟨rfl, fun _ ↦ .none⟩
  | cons hm _ ih =>
    obtain ⟨h, h'⟩ | ⟨i, h, h', hs⟩ := field_of_sameMember hF hm
    · simp only [known, List.filterMap_cons, h, h', Option.map_none]
      exact ih
    · simp only [known, List.filterMap_cons, h, h', Option.map_some, List.map_cons]
      exact ⟨congrArg (i :: ·) ih.1, ih.2.cons hs⟩

theorem object_agree (hF : ∀ i s s', F i s s' → Agree (P.reader i) origin s s')
    {middle : List (Option String × Source)} (hnodup : ((r.known members).map Prod.fst).Nodup)
    (hsame : List.Forall₂ (r.SameMember F) members middle) (hperm : middle.Perm members')
    (closed : Bool) : Agree r.decode origin (.object members closed) (.object members' closed) := by
  obtain ⟨hfields, hagree⟩ := known_of_sameMember hF hsame
  have hknown : (r.known middle).Perm (r.known members') := hperm.filterMap _
  have hmiddle : ((r.known middle).map Prod.fst).Nodup := hfields ▸ hnodup
  have hnodup' := (hknown.map Prod.fst).nodup_iff.mp hmiddle
  have hlast : P.AgreeOn origin (r.known members) (r.known members') := by
    intro i
    have hi : (r.known middle).lookup i = (r.known members').lookup i :=
      source?_perm hperm hmiddle i
    exact hi ▸ hagree i
  intro a
  simp only [P.decode_eq_ok_iff, passable_congr hsame, passable_perm hperm, hnodup, hnodup',
    reads_congr hlast]

omit [DecidableEq ι] in
theorem readItems_agree (hF : ∀ i s s', F i s s' → Agree (P.reader i) origin s s') {is : List ι}
    {items items' : List Source} (h : SameItems F is items items') (st : σ)
    (result : σ × List Source) :
    r.readItems origin st is items = .ok result ↔
      r.readItems origin st is items' = .ok result := by
  induction h generalizing st with
  | rest => rfl
  | field hs _ ih =>
    have hread := hF _ _ _ hs
    simp only [readItems, bind_eq_ok_iff, P.read_eq, map_eq_ok_iff, hread _, ih]

theorem array_agree (hF : ∀ i s s', F i s s' → Agree (P.reader i) origin s s')
    {items items' : List Source} (h : SameItems F r.fields items items') (closed : Bool) :
    Agree r.decode origin (.array items closed) (.array items' closed) := by
  intro a
  simp only [decode, bind_eq_ok_iff, readItems_agree hF h, h.length_eq]

/-- From a rearranged source the same is read if this is so for each field. -/
theorem decode_agree (hF : ∀ i s s', F i s s' → Agree (P.reader i) origin s s')
    (h : r.Rearranged F s s') : Agree r.decode origin s s' := by
  cases h with
  | same => exact fun _ ↦ Iff.rfl
  | object hnodup hsame hperm => exact object_agree hF hnodup hsame hperm _
  | array h => exact array_agree hF h _

end Places

end Record

end Decoder

end TradingRules
