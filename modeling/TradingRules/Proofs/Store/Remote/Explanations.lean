import Mathlib.Data.List.TakeWhile
import TradingRules.Proofs.Json.Values
import TradingRules.Proofs.Store.File
import TradingRules.Store.Remote.Reply

namespace TradingRules

namespace Text

theorem isBlankText_ofList (cs : List Char) : isBlankText (.ofList cs) = cs.all isBlank := by
  rw [isBlankText, String.toList_ofList]

theorem all_isBlank_dropBlanks (cs : List Char) : (dropBlanks cs).all isBlank = cs.all isBlank := by
  have hcut : cs.all isBlank = (cs.takeWhile isBlank ++ dropBlanks cs).all isBlank := by
    rw [dropBlanks, List.takeWhile_append_dropWhile]
  rw [hcut, List.all_append, List.all_takeWhile, Bool.true_and]

theorem isBlankText_trim (s : String) : isBlankText (trim s) = isBlankText s := by
  rw [trim, isBlankText_ofList, dropBlanksEnd, List.all_reverse, all_isBlank_dropBlanks,
    List.all_reverse, all_isBlank_dropBlanks, isBlankText]

theorem trim_eq_empty_iff {s : String} : trim s = "" ↔ isBlankText s = true := by
  constructor
  · intro h
    rw [← isBlankText_trim, h]
    rfl
  · intro h
    have hdrop : dropBlanks s.toList = [] :=
      List.dropWhile_eq_nil_iff.mpr (List.all_eq_true.mp h)
    rw [trim, hdrop]
    rfl

end Text

namespace Json

def texts : Json → List String
  | .array items => items.filterMap string?
  | _ => []

end Json

namespace Remote

def Tells (s : String) : Prop :=
  Text.isBlankText s = false

def States (v : Json) (name s : String) : Prop :=
  v.member? name = some (.string s) ∧ Tells s

/-- The first string of a list says something. The strings after it do not count. -/
def Complains (v : Json) (s : String) : Prop :=
  v.texts.head? = some s ∧ Tells s

/-- What counts as an explanation, and what it is: of an object a text under one of the usual names
before any list, a list of complaints about no field before those about a field. -/
inductive Explains : Json → String → Prop
  | text {s : String} (h : Tells s) : Explains (.string s) (Text.trim s)
  | item {before after : List Json} {s : String} (hbefore : ∀ t, .string t ∈ before → ¬ Tells t)
      (h : Tells s) : Explains (.array (before ++ .string s :: after)) (Text.trim s)
  | usual {members : List (String × Json)} {before after : List String} {name s : String}
      (hcut : ["detail", "error", "message"] = before ++ name :: after)
      (hbefore : ∀ n ∈ before, ∀ t, ¬ States (.object members) n t)
      (h : States (.object members) name s) : Explains (.object members) (Text.trim s)
  | general {members : List (String × Json)} {v : Json} {s : String}
      (husual : ∀ n ∈ ["detail", "error", "message"], ∀ t, ¬ States (.object members) n t)
      (hv : (Json.object members).member? "non_field_errors" = some v) (h : Complains v s) :
      Explains (.object members) (Text.trim s)
  | field {members before after : List (String × Json)} {name : String} {v : Json} {s : String}
      (husual : ∀ n ∈ ["detail", "error", "message"], ∀ t, ¬ States (.object members) n t)
      (hgeneral : ∀ u, (Json.object members).member? "non_field_errors" = some u →
        ∀ t, ¬ Complains u t)
      (hcut : members = before ++ (name, v) :: after)
      (hbefore : ∀ m ∈ before, ∀ t, ¬ Complains m.2 t) (h : Complains v s) :
      Explains (.object members) (name ++ ": " ++ Text.trim s)

def Usable : Json → Prop
  | .string s => Tells s
  | .array items => ∃ s, .string s ∈ items ∧ Tells s
  | .object members =>
    (∃ name ∈ ["detail", "error", "message"], ∃ s, States (.object members) name s) ∨
      ∃ m ∈ members, ∃ s ∈ m.2.texts, Tells s
  | _ => False

/-- An object says nothing but in lists, and each of them begins with a text that says nothing. -/
def Buried : Json → Prop
  | .object members =>
    (∀ name ∈ ["detail", "error", "message"], ∀ s, ¬ States (.object members) name s) ∧
      ∀ m ∈ members, ∀ s, ¬ Complains m.2 s
  | _ => False

theorem nonBlank?_eq_some_iff {s m : String} :
    nonBlank? s = some m ↔ Tells s ∧ Text.trim s = m := by
  simp [nonBlank?, Tells, Text.trim_eq_empty_iff]

theorem nonBlank?_eq_none_iff {s : String} : nonBlank? s = none ↔ ¬ Tells s := by
  simp [nonBlank?, Tells, Text.trim_eq_empty_iff]

theorem string?_eq_some_iff {v : Json} {s : String} : v.string? = some s ↔ v = .string s := by
  cases v <;> simp [Json.string?]

theorem fieldText?_eq_some_iff {v : Json} {name m : String} :
    fieldText? v name = some m ↔ ∃ s, States v name s ∧ Text.trim s = m := by
  simp only [fieldText?, Option.bind_eq_bind, Option.bind_eq_some_iff, string?_eq_some_iff,
    nonBlank?_eq_some_iff, States]
  constructor
  · rintro ⟨v, hv, s, rfl, hs, hm⟩
    exact ⟨s, ⟨hv, hs⟩, hm⟩
  · rintro ⟨s, ⟨hv, hs⟩, hm⟩
    exact ⟨_, hv, s, rfl, hs, hm⟩

theorem fieldText?_eq_none_iff {v : Json} {name : String} :
    fieldText? v name = none ↔ ∀ s, ¬ States v name s := by
  rw [Option.eq_none_iff_forall_ne_some]
  simp [fieldText?_eq_some_iff]

theorem firstString?_eq_head? (v : Json) : firstString? v = v.texts.head? := by
  cases v with
  | array items => simp [firstString?, Json.array?, Json.texts]
  | _ => rfl

theorem listText?_eq_some_iff {v : Json} {m : String} :
    listText? v = some m ↔ ∃ s, Complains v s ∧ Text.trim s = m := by
  simp [listText?, Option.bind_eq_some_iff, firstString?_eq_head?, nonBlank?_eq_some_iff, Complains,
    and_assoc]

theorem listText?_eq_none_iff {v : Json} : listText? v = none ↔ ∀ s, ¬ Complains v s := by
  rw [Option.eq_none_iff_forall_ne_some]
  simp [listText?_eq_some_iff]

theorem itemText?_eq_some_iff {v : Json} {m : String} : v.string?.bind nonBlank? = some m ↔
    ∃ s, v = .string s ∧ Tells s ∧ Text.trim s = m := by
  simp [Option.bind_eq_some_iff, string?_eq_some_iff, nonBlank?_eq_some_iff]

theorem itemText?_eq_none_iff {v : Json} :
    v.string?.bind nonBlank? = none ↔ ∀ t, v = .string t → ¬ Tells t := by
  simp [Option.bind_eq_none_iff, string?_eq_some_iff, nonBlank?_eq_none_iff]

theorem explanation?_eq_some_iff {v : Json} {m : String} :
    explanation? v = some m ↔ Explains v m := by
  cases v with
  | null | bool | number =>
    refine iff_of_false nofun ?_
    rintro ⟨⟩
  | string s =>
    rw [explanation?, nonBlank?_eq_some_iff]
    constructor
    · rintro ⟨hs, rfl⟩
      exact .text hs
    · rintro ⟨hs⟩
      exact ⟨hs, rfl⟩
  | array items =>
    rw [explanation?, List.findSome?_eq_some_iff]
    constructor
    · rintro ⟨before, u, after, rfl, hu, hbefore⟩
      obtain ⟨s, rfl, htells, rfl⟩ := itemText?_eq_some_iff.mp hu
      exact .item (fun t ht ↦ itemText?_eq_none_iff.mp (hbefore _ ht) t rfl) htells
    · rintro ⟨⟩
      next before after s hbefore hs =>
      refine ⟨before, .string s, after, rfl, itemText?_eq_some_iff.mpr ⟨s, rfl, hs, rfl⟩,
        fun u hu ↦ ?_⟩
      rw [itemText?_eq_none_iff]
      rintro t rfl
      exact hbefore t hu
  | object members =>
    rw [explanation?, Option.or_eq_some_iff, Option.or_eq_some_iff, List.findSome?_eq_some_iff,
      List.findSome?_eq_none_iff, Option.bind_eq_some_iff, Option.bind_eq_none_iff,
      List.findSome?_eq_some_iff]
    simp only [fieldText?_eq_none_iff, listText?_eq_none_iff, fieldText?_eq_some_iff,
      listText?_eq_some_iff, Option.map_eq_some_iff, Option.map_eq_none_iff]
    constructor
    · rintro (⟨before, name, after, hcut, ⟨s, hs, rfl⟩, hbefore⟩ | ⟨husual, ⟨u, hu, s, hs, rfl⟩ |
        ⟨hgeneral, before, ⟨name, u⟩, after, hcut, ⟨_, ⟨s, hs, rfl⟩, rfl⟩, hbefore⟩⟩)
      · exact .usual hcut hbefore hs
      · exact .general husual hu hs
      · exact .field husual hgeneral hcut hbefore hs
    · intro h
      cases h with
      | usual hcut hbefore hs => exact .inl ⟨_, _, _, hcut, ⟨_, hs, rfl⟩, hbefore⟩
      | general husual hv hs => exact .inr ⟨husual, .inl ⟨_, hv, _, hs, rfl⟩⟩
      | field husual hgeneral hcut hbefore hs =>
        exact .inr ⟨husual, .inr ⟨hgeneral, _, _, _, hcut, ⟨_, ⟨_, hs, rfl⟩, rfl⟩, hbefore⟩⟩

theorem isSome_fieldText?_iff {v : Json} {name : String} :
    (fieldText? v name).isSome ↔ ∃ s, States v name s := by
  rw [Option.isSome_iff_ne_none, ne_eq, fieldText?_eq_none_iff, not_forall_not]

theorem isSome_listText?_iff {v : Json} : (listText? v).isSome ↔ ∃ s, Complains v s := by
  rw [Option.isSome_iff_ne_none, ne_eq, listText?_eq_none_iff, not_forall_not]

theorem isSome_object_iff (members : List (String × Json)) :
    (explanation? (.object members)).isSome ↔
      (∃ name ∈ ["detail", "error", "message"], ∃ s, States (.object members) name s) ∨
        ∃ m ∈ members, ∃ s, Complains m.2 s := by
  rw [explanation?, Option.isSome_or, Option.isSome_or, Bool.or_eq_true, Bool.or_eq_true,
    List.findSome?_isSome_iff, List.findSome?_isSome_iff]
  simp only [isSome_fieldText?_iff, Option.isSome_map, isSome_listText?_iff]
  refine or_congr_right ⟨?_, .inr⟩
  rintro (hgeneral | hfield)
  · -- The complaints about no field stand in the list of all members too.
    obtain ⟨m, hm⟩ := Option.isSome_iff_exists.mp hgeneral
    obtain ⟨u, hu, hm⟩ := Option.bind_eq_some_iff.mp hm
    obtain ⟨s, hs, -⟩ := listText?_eq_some_iff.mp hm
    obtain ⟨before, after, hcut, -⟩ := List.lookup_eq_some_iff.mp hu
    have hmem : ("non_field_errors", u) ∈ members := by
      rw [hcut]
      exact List.mem_append_right _ List.mem_cons_self
    exact ⟨_, hmem, s, hs⟩
  · exact hfield

theorem isSome_explanation?_iff (v : Json) :
    (explanation? v).isSome ↔ Usable v ∧ ¬ Buried v := by
  cases v with
  | null | bool | number => exact iff_of_false nofun (fun h ↦ h.1)
  | string s =>
    rw [explanation?, Option.isSome_iff_ne_none, ne_eq, nonBlank?_eq_none_iff, not_not]
    exact ⟨fun h ↦ ⟨h, not_false⟩, And.left⟩
  | array items =>
    rw [explanation?, List.findSome?_isSome_iff]
    constructor
    · rintro ⟨v, hv, hsome⟩
      obtain ⟨m, hm⟩ := Option.isSome_iff_exists.mp hsome
      obtain ⟨s, rfl, htells, -⟩ := itemText?_eq_some_iff.mp hm
      exact ⟨⟨s, hv, htells⟩, not_false⟩
    · rintro ⟨⟨s, hs, htells⟩, -⟩
      have hm := itemText?_eq_some_iff.mpr ⟨s, rfl, htells, rfl⟩
      exact ⟨_, hs, Option.isSome_of_eq_some hm⟩
  | object members =>
    rw [isSome_object_iff]
    constructor
    · rintro (⟨name, hname, s, hs⟩ | ⟨m, hm, s, hs⟩)
      · exact ⟨.inl ⟨name, hname, s, hs⟩, fun hburied ↦ hburied.1 name hname s hs⟩
      · exact ⟨.inr ⟨m, hm, s, List.mem_of_head? hs.1, hs.2⟩,
          fun hburied ↦ hburied.2 m hm s hs⟩
    · rintro ⟨-, hburied⟩
      by_contra hnone
      rw [not_or] at hnone
      refine hburied ⟨?_, ?_⟩
      · intro name hname s hs
        exact hnone.1 ⟨name, hname, s, hs⟩
      · intro m hm s hs
        exact hnone.2 ⟨m, hm, s, hs⟩

theorem Explains.tells {v : Json} {m : String} (h : Explains v m) : Tells m := by
  have htrim {s : String} (hs : Tells s) : Tells (Text.trim s) :=
    (Text.isBlankText_trim s).trans hs
  cases h with
  | text h | item _ h => exact htrim h
  | usual _ _ h | general _ _ h => exact htrim h.2
  | field _ _ _ _ h =>
    have hcolon : Text.isBlank ':' = false := rfl
    simp [Tells, Text.isBlankText, List.all_append, hcolon]

namespace Reply

def explanation? (r : Reply) : Option String :=
  (Json.parse? r.text).bind Remote.explanation?

def Holds (r : Reply) (members : List (Option String × Source)) : Prop :=
  Json.readText r.text = ⟨.object members true, true⟩

theorem text_of_object {r : Reply} {members : List (String × Json)}
    (hstatus : ¬ (r.status = 204 ∨ r.status = 304))
    (hbody : r.body = (Json.object members).compact) :
    r.text = (Json.object members).compact := by
  obtain ⟨cs, hlist⟩ : ∃ cs, r.body.toList = '\x7b' :: cs := by
    rw [hbody, Json.compact, String.toList_ofList]
    cases members <;> simp [Json.write]
  rw [text, if_neg hstatus, dropByteOrderMark, hlist]
  exact (if_neg (by decide)).trans hbody

theorem Holds.explanation?_perm {r r' : Reply} {members members' : List (Option String × Source)}
    (h : r.Holds members) (h' : r'.Holds members') (hperm : members.Perm members')
    (hnames : (members.map Prod.fst).Nodup) : r.explanation? = r'.explanation? := by
  unfold explanation? Json.parse?
  rw [h, h']
  dsimp only
  rw [if_pos rfl, if_pos rfl, Source.toJson?_object_perm hperm hnames]

end Reply

end Remote

def StoreError.reason? : StoreError → Option String
  | .conflict message | .unauthorized message | .rejected _ message => some message
  | _ => none

namespace Remote

theorem Reply.reason?_refusal (r : Reply) (id : Option StrategyId) :
    (r.refusal id).reason? =
      if r.status = 404 ∧ id.isSome then none
      else some (r.explanation?.getD StoreError.generic) := by
  unfold refusal explanation?
  dsimp only
  by_cases hmissing : r.status = 404
  · cases id <;> simp [hmissing, StoreError.reason?]
  · simp only [hmissing, false_and, if_false]
    split
    · rfl
    split
    · rfl
    split <;> rfl

/-- A body explains a refusal exactly if something in it is usable and not all of it is buried: a
list in an object counts by its first text alone. What is found is the explanation that counts, and
it tells something; it does not depend on the order in which the members of an object are written;
and the general text is given only where none is found. -/
theorem explanations_are_first_texts (v : Json) (r : Reply) (id : Option StrategyId) :
    ((explanation? v).isSome ↔ Usable v ∧ ¬ Buried v) ∧
    (∀ m, explanation? v = some m ↔ Explains v m) ∧
    (∀ m, explanation? v = some m → Tells m) ∧
    (∀ (r' : Reply) (members members' : List (Option String × Source)), r.Holds members →
      r'.Holds members' → members.Perm members' → (members.map Prod.fst).Nodup →
      r.explanation? = r'.explanation?) ∧
    (r.refusal id).reason? = if r.status = 404 ∧ id.isSome then none
      else some (r.explanation?.getD StoreError.generic) := by
  refine ⟨isSome_explanation?_iff v, fun m ↦ explanation?_eq_some_iff, ?_, ?_,
    r.reason?_refusal id⟩
  · intro m h
    exact (explanation?_eq_some_iff.mp h).tells
  · intro r' members members' h h' hperm hnames
    exact h.explanation?_perm h' hperm hnames

/-- Two bodies with the same members. The first list in ascending order of the names tells nothing,
nor does the text under the usual name. -/
theorem explanations_are_first_texts_of_two_bodies :
    let name := ("name", Json.array [.string "Taken."])
    let action := ("action", Json.array [.string "", .string "Odd."])
    let detail := ("detail", Json.string " ")
    let r : Reply := ⟨400, (Json.object [name, detail, action]).compact⟩
    let r' : Reply := ⟨400, (Json.object [action, detail, name]).compact⟩
    let members := Source.ofMembers [name, detail, action]
    let members' := Source.ofMembers [action, detail, name]
    r.Holds members ∧ r'.Holds members' ∧ members.Perm members' ∧ (members.map Prod.fst).Nodup ∧
      r.explanation? = r'.explanation? ∧ r.explanation? = some "name: Taken." ∧
      Tells "name: Taken." := by
  intro name action detail r r' members members'
  have hlegible : (Json.object [name, detail, action]).Legible 127 := by
    simp [Json.Within, Json.WithinMembers, Json.WithinItems, name, detail, action]
  have hlegible' : (Json.object [action, detail, name]).Legible 127 := by
    simp [Json.Within, Json.WithinMembers, Json.WithinItems, name, detail, action]
  have htext : r.text = _ := Reply.text_of_object (by decide) rfl
  have htext' : r'.text = _ := Reply.text_of_object (by decide) rfl
  have h : r.Holds members := by
    rw [Reply.Holds, htext]
    exact Json.readText_compact hlegible
  have h' : r'.Holds members' := by
    rw [Reply.Holds, htext']
    exact Json.readText_compact hlegible'
  have hperm : members.Perm members' := (List.reverse_perm members).symm
  have hnames : (members.map Prod.fst).Nodup := by decide
  have hparse := Json.parse?_compact hlegible
  have hexplained : r.explanation? = some "name: Taken." := by
    rw [Reply.explanation?, htext, hparse]
    rfl
  obtain ⟨-, -, htells, horder, -⟩ :=
    explanations_are_first_texts (Json.object [name, detail, action]).sorted r none
  exact ⟨h, h', hperm, hnames, horder r' members members' h h' hperm hnames, hexplained,
    htells _ rfl⟩

/-- The first text of the complaints about a field is blank, and the server seems to have given no
reason. -/
theorem complaint_behind_a_blank_is_lost :
    let complaints : Json := .array [.string " ", .string "This field may not be blank."]
    let body : Json := .object [("name", complaints)]
    let r : Reply := ⟨400, body.compact⟩
    Json.parse? r.text = some body ∧ Usable body ∧ explanation? body = none ∧
      r.refusal none = .rejected 400 StoreError.generic := by
  intro complaints body r
  have hlegible : body.Legible 127 := by
    simp [Json.Within, Json.WithinMembers, Json.WithinItems, body, complaints]
  have htext : r.text = body.compact := Reply.text_of_object (by decide) rfl
  have hparse : Json.parse? r.text = some body := htext ▸ Json.parse?_compact hlegible
  have htells : Tells "This field may not be blank." := by
    unfold Tells
    decide
  refine ⟨hparse, ?_, rfl, ?_⟩
  · exact .inr ⟨_, List.mem_cons_self, _, List.mem_cons_of_mem _ List.mem_cons_self, htells⟩
  · rw [Reply.refusal, hparse]
    rfl

end Remote

end TradingRules
