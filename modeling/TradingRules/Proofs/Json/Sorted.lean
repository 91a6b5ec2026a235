import Mathlib.Data.List.Nodup
import TradingRules.Proofs.Json.RoundTrip

namespace TradingRules

namespace Json

theorem sortedItems_eq_map (items : List Json) : sortedItems items = items.map sorted := by
  induction items with
  | nil => rfl
  | cons v rest ih => simp [sortedItems, ih]

theorem mem_insertMember {name : String} {v : Json} {members : List (String × Json)}
    {m : String × Json} (h : m ∈ insertMember name v members) : m = (name, v) ∨ m ∈ members := by
  induction members with
  | nil => exact .inl (List.mem_singleton.mp h)
  | cons k rest ih =>
    rw [insertMember] at h
    split_ifs at h with hlt heq
    · exact List.mem_cons.mp h
    · exact (List.mem_cons.mp h).imp_right (List.mem_cons_of_mem k)
    · rcases List.mem_cons.mp h with rfl | h
      · exact .inr List.mem_cons_self
      · exact (ih h).imp_right (List.mem_cons_of_mem k)

theorem perm_insertMember {name : String} {v : Json} {members : List (String × Json)}
    (h : name ∉ members.map Prod.fst) :
    (insertMember name v members).Perm ((name, v) :: members) := by
  induction members with
  | nil => exact .refl _
  | cons k rest ih =>
    rw [List.map_cons, List.mem_cons, not_or] at h
    rw [insertMember, if_neg h.1]
    split
    · exact .refl _
    · exact ((ih h.2).cons k).trans (.swap _ _ _)

theorem perm_sortedMembers {members done : List (String × Json)}
    (h : (members.map Prod.fst ++ done.map Prod.fst).Nodup) :
    (sortedMembers members done).Perm (members.map (fun m ↦ (m.1, m.2.sorted)) ++ done) := by
  induction members generalizing done with
  | nil => exact .refl _
  | cons m rest ih =>
    rw [List.map_cons, List.cons_append, List.nodup_cons, List.mem_append, not_or] at h
    have hm : (insertMember m.1 m.2.sorted done).Perm ((m.1, m.2.sorted) :: done) :=
      perm_insertMember h.1.2
    have hnodup : (rest.map Prod.fst ++ (insertMember m.1 m.2.sorted done).map Prod.fst).Nodup := by
      rw [((hm.map Prod.fst).append_left _).nodup_iff, List.map_cons, List.nodup_middle,
        List.nodup_cons, List.mem_append, not_or]
      exact h
    exact ((ih hnodup).trans (hm.append_left _)).trans List.perm_middle

/-- Only the order of the members is another one where each name stands once. -/
theorem exists_sorted_object {members : List (String × Json)} (h : (members.map Prod.fst).Nodup) :
    ∃ members', (object members).sorted = .object members' ∧
      (members.map fun m ↦ (m.1, m.2.sorted)).Perm members' := by
  have hperm : (sortedMembers members []).Perm (members.map (fun m ↦ (m.1, m.2.sorted)) ++ []) :=
    perm_sortedMembers (by simpa using h)
  rw [List.append_nil] at hperm
  exact ⟨_, by rw [sorted], hperm.symm⟩

theorem sorted_of_within_zero {kind : Number → Prop} {v : Json} (h : v.Within 0 kind) :
    v.sorted = v := by
  cases v with
  | null | bool | number | string => rfl
  | array | object => exact absurd rfl h.1

mutual

theorem Within.sorted {levels : Nat} {kind : Number → Prop} :
    ∀ {v : Json}, v.Within levels kind → v.sorted.Within levels kind
  | .null, _ | .bool _, _ | .string _, _ => trivial
  | .number _, h => h
  | .array _, h => ⟨h.1, withinItems_sorted h.2⟩
  | .object _, h => ⟨h.1, withinMembers_sorted h.2 trivial⟩

theorem withinItems_sorted {levels : Nat} {kind : Number → Prop} :
    ∀ {items : List Json}, WithinItems levels kind items →
      WithinItems levels kind (sortedItems items)
  | [], _ => trivial
  | _ :: _, h => ⟨h.1.sorted, withinItems_sorted h.2⟩

theorem withinMembers_sorted {levels : Nat} {kind : Number → Prop} :
    ∀ {members done : List (String × Json)}, WithinMembers levels kind members →
      WithinMembers levels kind done → WithinMembers levels kind (sortedMembers members done)
  | [], _, _, hdone => hdone
  | (name, v) :: rest, done, h, hdone => by
    rw [sortedMembers]
    refine withinMembers_sorted h.2 (withinMembers_iff.mpr fun m hm ↦ ?_)
    rcases mem_insertMember hm with rfl | hm
    · exact h.1.sorted
    · exact withinMembers_iff.mp hdone m hm

end

end Json

end TradingRules
