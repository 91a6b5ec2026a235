import TradingRules.Proofs.Document.Written
import TradingRules.Proofs.Json.Values

namespace TradingRules

/-- The two forms of a value that stands for one of several names. -/
def Json.Names (v : Json) (name : String) : Prop :=
  v = .string name ∨ v = .object [(name, .null)]

theorem Source.names_of_toJson? {s : Source} {v : Json} {name : String} (hv : s.toJson? = some v)
    (h : s = .string (some name) ∨ ∃ closed, s = .object [(some name, .null)] closed) :
    v.Names name := by
  obtain rfl | ⟨closed, rfl⟩ := h
  · left
    exact (Option.some.inj hv).symm
  · cases closed with
    | true =>
      right
      exact (Option.some.inj hv).symm
    | false => simp [toJson?] at hv

theorem Source.names_of_ofJson {v : Json} {name : String}
    (h : ofJson v = .string (some name) ∨
      ∃ closed, ofJson v = .object [(some name, .null)] closed) : v.Names name := by
  obtain h | ⟨closed, h⟩ := h
  · cases v with
    | string t =>
      simp only [ofJson, Source.string.injEq, Option.some.injEq] at h
      left
      rw [h]
    | null | bool | number | array | object => simp [ofJson] at h
  · cases v with
    | object members =>
      simp only [ofJson, Source.object.injEq] at h
      obtain _ | ⟨⟨n, w⟩, _ | ⟨m, rest⟩⟩ := members
      · simp [ofMembers] at h
      · cases w <;> simp_all [ofMembers, ofJson, Json.Names]
      · simp [ofMembers] at h
    | null | bool | number | array | string => simp [ofJson] at h

namespace Decoder

variable {α : Type} {names : List (String × α)}

theorem variantOf_eq_ok_iff {name : String} {a : α} :
    variantOf names name = .ok a ↔ names.lookup name = some a := by
  rw [variantOf]
  cases names.lookup name <;> simp

theorem unit_eq_ok_iff {s : Source} : unit s = .ok () ↔ s = .null := by
  constructor
  · intro h
    unfold unit at h
    split at h
    · rfl
    · exact absurd h (Source.refuse_ne_ok _ _ _)
  · intro h
    rw [h, unit]

theorem nullable_eq_ok_iff {d : Decoder α} {origin : Origin} {s : Source} {found : Option α} :
    d.nullable origin s = .ok found ↔
      (s = .null ∧ found = none) ∨ (s ≠ .null ∧ ∃ a, d origin s = .ok a ∧ found = some a) := by
  by_cases hs : s = .null
  · subst hs
    simp [nullable, eq_comm]
  · have hread : d.nullable origin s = some <$> d origin s := by
      cases s <;> first | rfl | exact absurd rfl hs
    rw [hread]
    cases d origin s <;> simp [hs, Functor.map, Except.map, eq_comm]

theorem exists_of_choice {origin : Origin} {s : Source} {a : α}
    (h : choice names origin s = .ok a) : ∃ name, names.lookup name = some a ∧
      (s = .string (some name) ∨ ∃ closed, s = .object [(some name, .null)] closed) := by
  unfold choice at h
  split at h
  · next name => exact ⟨name, variantOf_eq_ok_iff.mp h, .inl rfl⟩
  · next name w closed =>
    obtain ⟨b, hb, hrest⟩ := bind_eq_ok_iff.mp h
    obtain ⟨_, hw, hend⟩ := bind_eq_ok_iff.mp hrest
    rw [← Except.ok.inj hend, unit_eq_ok_iff.mp hw]
    exact ⟨name, variantOf_eq_ok_iff.mp hb, .inr ⟨closed, rfl⟩⟩
  · cases h
  · exact absurd h (Source.refuse_ne_ok _ _ _)
  · next name w rest closed =>
    obtain ⟨b, hb, hrest⟩ := bind_eq_ok_iff.mp h
    obtain ⟨_, hw, hend⟩ := bind_eq_ok_iff.mp hrest
    split at hend
    · next hlast =>
      rw [Bool.and_eq_true, List.isEmpty_iff] at hlast
      rw [← Except.ok.inj hend, unit_eq_ok_iff.mp hw, hlast.1]
      exact ⟨name, variantOf_eq_ok_iff.mp hb, .inr ⟨closed, rfl⟩⟩
    · cases hend
  · cases h

theorem choice_ofJson {v : Json} {name : String} {a : α} (h : names.lookup name = some a)
    (hv : v.Names name) (origin : Origin) : choice names origin (.ofJson v) = .ok a := by
  obtain rfl | rfl := hv
  · exact choice_name h origin
  · have ha := variantOf_eq_ok_iff.mpr h
    cases origin <;>
      simp [Source.ofJson, Source.ofMembers, choice, ha, unit, bind, Except.bind, pure, Except.pure]

end Decoder

namespace Forgiving

variable {α : Type} {names : List (String × α)} {origin : Origin} {s : Source} {v : Json}

def chosen (names : List (String × α)) (v : Json) : Option α :=
  (Decoder.ofJson (Decoder.choice names) v).toOption

theorem chosen_eq_some_iff {a : α} :
    chosen names v = some a ↔ ∃ name, names.lookup name = some a ∧ v.Names name := by
  constructor
  · intro h
    have hok : Decoder.choice names .value (.ofJson v) = .ok a := by
      unfold chosen Decoder.ofJson at h
      cases hd : Decoder.choice names .value (.ofJson v) with
      | error e => simp [hd, Except.toOption] at h
      | ok b => simpa [hd, Except.toOption] using h
    obtain ⟨name, hname, hv⟩ := Decoder.exists_of_choice hok
    exact ⟨name, hname, Source.names_of_ofJson hv⟩
  · intro h
    obtain ⟨name, hname, hv⟩ := h
    rw [chosen, Decoder.ofJson, Decoder.choice_ofJson hname hv]
    rfl

theorem chosen_of_choice {a : α} (h : Decoder.choice names origin s = .ok a)
    (hv : s.toJson? = some v) : chosen names v = some a := by
  obtain ⟨name, hname, hs⟩ := Decoder.exists_of_choice h
  exact chosen_eq_some_iff.mpr ⟨name, hname, Source.names_of_toJson? hv hs⟩

/-- A value that can be represented is never refused. What it says counts unless it is null. -/
theorem optional_eq_ok (use : Json → Option α) (hv : s.toJson? = some v) :
    optional use origin s = .ok (v.present?.bind use) := by
  have hjson : Decoder.json origin s = .ok v := by simp [Decoder.json, hv]
  have hpresent : present origin s = .ok v.present? := by
    rw [present, hjson]
    cases v <;> rfl
  rw [optional, hpresent]
  rfl

theorem toJson?_of_optional {use : Json → Option α} {x : Option α}
    (h : optional use origin s = .ok x) : ∃ v, s.toJson? = some v := by
  obtain ⟨_, hpresent, -⟩ := bind_eq_ok_iff.mp h
  obtain ⟨v, hv, -⟩ := bind_eq_ok_iff.mp hpresent
  unfold Decoder.json at hv
  split at hv
  · next w hw => exact ⟨w, hw⟩
  · cases hv

end Forgiving

end TradingRules
