import Mathlib.Data.List.Nodup
import Mathlib.Data.List.Perm.Basic
import Mathlib.Data.String.Basic
import TradingRules.Json.Source

namespace TradingRules

namespace Json

mutual

/-- A value without defects is read with the members of its objects in order. -/
theorem toJson?_ofJson : ∀ v : Json, (Source.ofJson v).toJson? = some v.sorted
  | .null | .bool _ | .number _ | .string _ => rfl
  | .array items => by
    simp [Source.ofJson, Source.toJson?, sorted, itemsToJson?_ofItems items]
  | .object members => by
    simp [Source.ofJson, Source.toJson?, sorted, membersToJson?_ofMembers members []]

theorem itemsToJson?_ofItems :
    ∀ items : List Json, Source.itemsToJson? (Source.ofItems items) = some (sortedItems items)
  | [] => rfl
  | v :: rest => by
    simp [Source.ofItems, Source.itemsToJson?, sortedItems, toJson?_ofJson v,
      itemsToJson?_ofItems rest]

theorem membersToJson?_ofMembers : ∀ members done : List (String × Json),
    Source.membersToJson? (Source.ofMembers members) done = some (sortedMembers members done)
  | [], _ => rfl
  | (name, v) :: rest, done => by
    simp [Source.ofMembers, Source.membersToJson?, sortedMembers, toJson?_ofJson v,
      membersToJson?_ofMembers rest]

end

theorem insertMember_comm_of_lt {n n' : String} (h : n < n') (v v' : Json)
    (members : List (String × Json)) :
    insertMember n v (insertMember n' v' members) =
      insertMember n' v' (insertMember n v members) := by
  have hnot : ¬ n' < n := lt_asymm h
  have hne : n' ≠ n := h.ne'
  induction members with
  | nil => simp [insertMember, h, hnot, hne]
  | cons m rest ih =>
    obtain ⟨k, u⟩ := m
    rcases lt_trichotomy n k with hk | rfl | hk
    · rcases lt_trichotomy n' k with hk' | rfl | hk'
      · simp [insertMember, h, hnot, hne, hk, hk']
      · simp [insertMember, h, hnot, hne]
      · simp [insertMember, hk, hk'.not_gt, hk'.ne', hnot, hne]
    · simp [insertMember, hnot, hne]
    · have hk' : k < n' := hk.trans h
      simp [insertMember, hk.not_gt, hk.ne', hk'.not_gt, hk'.ne', ih]

theorem insertMember_comm {n n' : String} (h : n ≠ n') (v v' : Json)
    (members : List (String × Json)) :
    insertMember n v (insertMember n' v' members) =
      insertMember n' v' (insertMember n v members) := by
  rcases lt_or_gt_of_ne h with hlt | hlt
  · exact insertMember_comm_of_lt hlt v v' members
  · exact (insertMember_comm_of_lt hlt v' v members).symm

def present? : Json → Option Json
  | .null => none
  | v => some v

theorem eq_of_present? {v w : Json} (h : v.present? = some w) : v = w := by
  cases v with
  | null => cases h
  | bool | number | string | array | object => exact Option.some.inj h

end Json

namespace Source

variable {s : Source} {v : Json}

theorem isWhole_of_toJson? (h : s.toJson? = some v) : s.isWhole := by
  cases s with
  | array items closed =>
    cases closed with
    | true => rfl
    | false => simp [toJson?] at h
  | object members closed =>
    cases closed with
    | true => rfl
    | false => simp [toJson?] at h
  | deep | defect => simp [toJson?] at h
  | null | bool | number | string => rfl

theorem isSome_of_membersToJson? {members : List (Option String × Source)}
    {done : List (String × Json)} (h : (membersToJson? members done).isSome) :
    ∀ m ∈ members, m.1.isSome ∧ m.2.toJson?.isSome := by
  induction members generalizing done with
  | nil => simp
  | cons m members ih =>
    obtain ⟨name, s⟩ := m
    cases name with
    | none => simp [membersToJson?] at h
    | some name =>
      cases hs : s.toJson? with
      | none => simp [membersToJson?, hs] at h
      | some v =>
        simp only [membersToJson?, hs] at h
        rw [List.forall_mem_cons, hs]
        exact ⟨⟨rfl, rfl⟩, ih h⟩

def addMember (done : Option (List (String × Json))) (m : Option String × Source) :
    Option (List (String × Json)) :=
  match m.1, m.2.toJson? with
  | some name, some v => done.map (Json.insertMember name v)
  | _, _ => none

theorem foldl_addMember_none (members : List (Option String × Source)) :
    members.foldl addMember none = none := by
  induction members with
  | nil => rfl
  | cons m members ih =>
    have hm : addMember none m = none := by
      unfold addMember
      split <;> rfl
    rw [List.foldl_cons, hm, ih]

theorem membersToJson?_eq_foldl (members : List (Option String × Source))
    (done : List (String × Json)) :
    membersToJson? members done = members.foldl addMember (some done) := by
  induction members generalizing done with
  | nil => rfl
  | cons m members ih =>
    obtain ⟨name, s⟩ := m
    cases name with
    | none => simp [membersToJson?, addMember, foldl_addMember_none]
    | some name =>
      cases hs : s.toJson? with
      | none => simp [membersToJson?, addMember, hs, foldl_addMember_none]
      | some v => simp [membersToJson?, addMember, hs, ih]

theorem addMember_comm {m m' : Option String × Source} (h : m.1 ≠ m'.1)
    (done : Option (List (String × Json))) :
    addMember (addMember done m) m' = addMember (addMember done m') m := by
  obtain ⟨name, s⟩ := m
  obtain ⟨name', s'⟩ := m'
  unfold addMember
  cases name <;> cases name' <;> cases s.toJson? <;> cases s'.toJson? <;> cases done <;> try rfl
  next name name' v v' done =>
  have hne : name' ≠ name := fun heq ↦ h (congrArg some heq.symm)
  exact congrArg some (Json.insertMember_comm hne v' v done)

/-- The members of an object may stand in any order if each name stands once. -/
theorem toJson?_object_perm {members members' : List (Option String × Source)}
    (h : members.Perm members') (hnames : (members.map Prod.fst).Nodup) :
    (object members true).toJson? = (object members' true).toJson? := by
  have hfold : members.foldl addMember (some []) = members'.foldl addMember (some []) := by
    refine h.foldl_eq' (fun m hm m' hm' done ↦ ?_) _
    by_cases hname : m.1 = m'.1
    · rw [List.inj_on_of_nodup_map hnames hm hm' hname]
    · exact addMember_comm hname done
  rw [toJson?, toJson?, membersToJson?_eq_foldl, membersToJson?_eq_foldl, hfold]

end Source

end TradingRules
