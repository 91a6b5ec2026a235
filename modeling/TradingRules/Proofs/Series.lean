import Mathlib.Data.List.Basic
import TradingRules.Proofs.Names
import TradingRules.Proofs.Verdict

namespace TradingRules

namespace Parameter

theorem ofName?_name (p : Parameter) : ofName? p.name = some p := by
  cases p <;> decide

theorem ofName?_eq_some_iff {name : String} {p : Parameter} :
    ofName? name = some p ↔ p.name = name := by
  constructor
  · intro h
    simpa using List.find?_some h
  · rintro rfl
    exact p.ofName?_name

theorem name_injective {p q : Parameter} (h : p.name = q.name) : p = q :=
  Option.some.inj (p.ofName?_name.symm.trans (h ▸ q.ofName?_name))

end Parameter

def Indicator.parameterNames (i : Indicator) : List String :=
  i.schema.map (·.1.name)

theorem Indicator.name_mem_parameterNames_iff {i : Indicator} {p : Parameter} :
    p.name ∈ i.parameterNames ↔ p ∈ i.schema.map Prod.fst := by
  rw [parameterNames, List.mem_map, List.mem_map]
  refine exists_congr fun q ↦ and_congr_right fun _ ↦ ?_
  exact ⟨Parameter.name_injective, congrArg Parameter.name⟩

namespace Series

variable {s s' t : Series} {p q : Parameter} {m n : UInt32} {name other : String}

section Places

theorem isSome_get?_iff (s : Series) (p : Parameter) :
    (s.get? p).isSome ↔ p ∈ s.indicator.schema.map Prod.fst := by
  cases s <;> cases p <;> simp [get?, indicator, Indicator.schema]

@[simp] theorem indicator_put (s : Series) (p : Parameter) (n : UInt32) :
    (s.put p n).indicator = s.indicator := by
  cases s <;> cases p <;> rfl

theorem get?_put (s : Series) (p : Parameter) (n : UInt32) (q : Parameter) :
    (s.put p n).get? q = if q = p then (s.get? p).map fun _ ↦ n else s.get? q := by
  cases s <;> cases p <;> cases q <;> rfl

theorem ext_get? (hindicator : s.indicator = t.indicator) (h : ∀ p, s.get? p = t.get? p) :
    s = t := by
  have hnamed : s.named? = t.named? := by
    funext name
    exact congrArg (Parameter.ofName? name).bind (funext h)
  rw [← s.ofLookup_named?, ← t.ofLookup_named?, hindicator, hnamed]

end Places

section Listing

theorem map_fst_parameters (s : Series) :
    s.parameters.map Prod.fst = s.indicator.schema.map Prod.fst := by
  cases s <;> rfl

theorem get?_of_mem {p : Parameter × UInt32} (h : p ∈ s.parameters) : s.get? p.1 = some p.2 := by
  obtain ⟨q, -, hq⟩ := List.mem_filterMap.mp h
  obtain ⟨n, hn, rfl⟩ := Option.map_eq_some_iff.mp hq
  exact hn

theorem mem_parameters (h : s.get? p = some n) : (p, n) ∈ s.parameters := by
  have hmem : p ∈ s.parameters.map Prod.fst := by
    rw [map_fst_parameters, ← isSome_get?_iff, h]
    rfl
  obtain ⟨⟨q, m⟩, hq, rfl⟩ := List.mem_map.mp hmem
  obtain rfl : m = n := Option.some.inj ((get?_of_mem hq).symm.trans h)
  exact hq

theorem parameters_standard (i : Indicator) : (standard i).parameters = i.schema := by
  cases i <;> rfl

end Listing

section Lookup

theorem indicator_standard (i : Indicator) : (standard i).indicator = i := by
  cases i <;> rfl

theorem ofLookup_congr {i : Indicator} {f g : String → Option UInt32}
    (h : ∀ p ∈ i.schema.map Prod.fst, g p.name = f p.name) : ofLookup i g = ofLookup i f := by
  apply List.foldl_ext
  intro s p hp
  rw [h p.1 (List.mem_map_of_mem hp)]

def fill (f : String → Option UInt32) (s : Series) (p : Parameter) : Series :=
  ((f p.name).map (s.put p)).getD s

theorem indicator_fill (f : String → Option UInt32) (s : Series) (p : Parameter) :
    (s.fill f p).indicator = s.indicator := by
  unfold fill
  cases f p.name with
  | none => rfl
  | some n => exact s.indicator_put p n

theorem get?_fill (f : String → Option UInt32) (s : Series) (p q : Parameter) :
    (s.fill f p).get? q = if q = p then (s.get? q).map (f q.name).getD else s.get? q := by
  unfold fill
  split
  · next h =>
    subst h
    cases f q.name with
    | none => exact (Option.map_id_apply ..).symm
    | some n => exact (s.get?_put q n q).trans (if_pos rfl)
  · next h =>
    cases f p.name with
    | none => rfl
    | some n => exact (s.get?_put p n q).trans (if_neg h)

theorem indicator_ofLookup (i : Indicator) (f : String → Option UInt32) :
    (ofLookup i f).indicator = i := by
  refine List.foldlRecOn (motive := fun s : Series ↦ s.indicator = i) i.schema _
    (indicator_standard i) fun s hs p _ ↦ ?_
  exact (s.indicator_fill f p.1).trans hs

/-- A parameter has the value that is known for it, or else the one it starts from. -/
theorem get?_ofLookup (i : Indicator) (f : String → Option UInt32) (q : Parameter) :
    (ofLookup i f).get? q = ((standard i).get? q).map (f q.name).getD := by
  -- On the list of parameters that are looked up; looking one up twice is the same as once.
  have hfold (ps : List (Parameter × UInt32)) (s : Series) :
      (ps.foldl (fun s p ↦ s.fill f p.1) s).get? q =
        if q ∈ ps.map Prod.fst then (s.get? q).map (f q.name).getD else s.get? q := by
    induction ps generalizing s with
    | nil => rfl
    | cons p ps ih =>
      rw [List.foldl_cons, ih, get?_fill, List.map_cons]
      by_cases hp : q = p.1
      · have htwice : ((s.get? q).map (f q.name).getD).map (f q.name).getD =
            (s.get? q).map (f q.name).getD := by
          rw [Option.map_map]
          cases f q.name <;> rfl
        rw [if_pos hp, htwice, ite_self, if_pos (hp ▸ List.mem_cons_self)]
      · simp only [List.mem_cons, hp, if_false, false_or]
  refine (hfold i.schema (standard i)).trans (ite_eq_left_iff.mpr fun hq ↦ ?_)
  have hnone : (standard i).get? q = none := by
    rwa [← Option.not_isSome_iff_eq_none, isSome_get?_iff, indicator_standard]
  rw [hnone]
  rfl

end Lookup

section Names

theorem named?_name (s : Series) (p : Parameter) : s.named? p.name = s.get? p := by
  rw [named?, p.ofName?_name]
  rfl

theorem isSome_named?_iff (s : Series) (name : String) :
    (s.named? name).isSome ↔ name ∈ s.indicator.parameterNames := by
  unfold named?
  cases h : Parameter.ofName? name with
  | none =>
    refine iff_of_false nofun fun hmem ↦ ?_
    obtain ⟨p, -, hp⟩ := List.mem_map.mp hmem
    rw [Parameter.ofName?_eq_some_iff.mpr hp] at h
    cases h
  | some p =>
    rw [← Parameter.ofName?_eq_some_iff.mp h, Indicator.name_mem_parameterNames_iff]
    exact s.isSome_get?_iff p

theorem ext_named? (hindicator : s.indicator = t.indicator)
    (h : ∀ name, s.named? name = t.named? name) : s = t := by
  refine ext_get? hindicator fun p ↦ ?_
  rw [← named?_name, ← named?_name, h]

theorem named?_ofLookup (i : Indicator) (f : String → Option UInt32) (name : String) :
    (ofLookup i f).named? name = ((standard i).named? name).map (f name).getD := by
  unfold named?
  cases h : Parameter.ofName? name with
  | none => rfl
  | some p =>
    rw [← Parameter.ofName?_eq_some_iff.mp h]
    exact get?_ofLookup i f p

end Names

section Setting

theorem checkRange_eq_ok_iff : checkRange name n = .ok () ↔ 1 ≤ n.toNat ∧ n.toNat ≤ 200 :=
  (Verdict.ite _ _).ok_iff

theorem set_eq_ok_iff : s.set name n = .ok s' ↔ (1 ≤ n.toNat ∧ n.toNat ≤ 200) ∧
    ∃ p, p.name = name ∧ (s.get? p).isSome ∧ s' = s.put p n := by
  unfold set
  rw [bind_eq_ok_iff, ← checkRange_eq_ok_iff]
  constructor
  · rintro ⟨_, hrange, h⟩
    split at h
    · next p hp =>
      obtain ⟨hname, hsome⟩ := Option.filter_eq_some_iff.mp hp
      exact ⟨hrange, p, Parameter.ofName?_eq_some_iff.mp hname, hsome, (Except.ok.inj h).symm⟩
    · cases h
  · rintro ⟨hrange, p, hname, hsome, rfl⟩
    have hp : (Parameter.ofName? name).filter (fun p ↦ (s.get? p).isSome) = some p :=
      Option.filter_eq_some_iff.mpr ⟨Parameter.ofName?_eq_some_iff.mpr hname, hsome⟩
    refine ⟨(), hrange, ?_⟩
    rw [hp]

theorem exists_set_iff : (∃ s', s.set name n = .ok s') ↔
    (1 ≤ n.toNat ∧ n.toNat ≤ 200) ∧ name ∈ s.indicator.parameterNames := by
  simp only [set_eq_ok_iff]
  constructor
  · rintro ⟨_, hrange, p, rfl, hsome, -⟩
    exact ⟨hrange, Indicator.name_mem_parameterNames_iff.mpr ((s.isSome_get?_iff p).mp hsome)⟩
  · rintro ⟨hrange, hname⟩
    obtain ⟨⟨p, _⟩, hp, rfl⟩ := List.mem_map.mp hname
    have hsome := (s.isSome_get?_iff p).mpr (List.mem_map_of_mem hp)
    exact ⟨_, hrange, p, rfl, hsome, rfl⟩

theorem indicator_of_set (h : s.set name n = .ok s') : s'.indicator = s.indicator := by
  obtain ⟨-, p, -, -, rfl⟩ := set_eq_ok_iff.mp h
  exact s.indicator_put p n

theorem named?_of_set (h : s.set name n = .ok s') : s'.named? name = some n := by
  obtain ⟨-, p, rfl, hsome, rfl⟩ := set_eq_ok_iff.mp h
  rw [named?_name, get?_put, if_pos rfl]
  obtain ⟨m, hm⟩ := Option.isSome_iff_exists.mp hsome
  rw [hm]
  rfl

theorem named?_of_set_of_ne (h : s.set name n = .ok s') (hne : other ≠ name) :
    s'.named? other = s.named? other := by
  obtain ⟨-, p, rfl, -, rfl⟩ := set_eq_ok_iff.mp h
  unfold named?
  cases hq : Parameter.ofName? other with
  | none => rfl
  | some q =>
    rw [← Parameter.ofName?_eq_some_iff.mp hq] at hne
    exact (s.get?_put p n q).trans (if_neg fun h ↦ hne (congrArg Parameter.name h))

/-- One parameter has a new value, and that is all the difference between two series. -/
structure ChangedAt (s : Series) (name : String) (n : UInt32) (s' : Series) : Prop where
  indicator : s'.indicator = s.indicator
  value : s'.named? name = some n
  others : ∀ other, other ≠ name → s'.named? other = s.named? other

theorem set_cases (s : Series) (name : String) (n : UInt32) :
    ((¬ (1 ≤ n.toNat ∧ n.toNat ≤ 200) ∨ name ∉ s.indicator.parameterNames) ∧
      ∃ v, s.set name n = .error v) ∨
    ((1 ≤ n.toNat ∧ n.toNat ≤ 200) ∧ name ∈ s.indicator.parameterNames ∧
      ∃ s', s.set name n = .ok s' ∧ s.ChangedAt name n s') := by
  cases h : s.set name n with
  | error v =>
    refine .inl ⟨?_, v, rfl⟩
    rw [← not_and_or, ← exists_set_iff]
    rintro ⟨s', hs'⟩
    cases h.symm.trans hs'
  | ok s' =>
    obtain ⟨hn, hname⟩ := exists_set_iff.mp ⟨s', h⟩
    refine .inr ⟨hn, hname, s', rfl, indicator_of_set h, named?_of_set h, ?_⟩
    exact fun other ↦ named?_of_set_of_ne h

def afterSetting (s : Series) (name : String) (n : UInt32) : Series :=
  match s.set name n with
  | .ok s' => s'
  | .error _ => s

theorem afterSetting_of_ok (h : s.set name n = .ok s') : s.afterSetting name n = s' := by
  rw [afterSetting, h]

theorem afterSetting_of_error {v : Violation} (h : s.set name n = .error v) :
    s.afterSetting name n = s := by
  rw [afterSetting, h]

theorem indicator_afterSetting (s : Series) (name : String) (n : UInt32) :
    (s.afterSetting name n).indicator = s.indicator := by
  cases h : s.set name n with
  | ok s' => rw [afterSetting_of_ok h, indicator_of_set h]
  | error v => rw [afterSetting_of_error h]

theorem named?_afterSetting (s : Series) (name other : String) (n : UInt32) :
    (s.afterSetting name n).named? other =
      if other = name ∧ 1 ≤ n.toNat ∧ n.toNat ≤ 200 then (s.named? other).map fun _ ↦ n
      else s.named? other := by
  cases h : s.set name n with
  | ok s' =>
    obtain ⟨hn, hname⟩ := exists_set_iff.mp ⟨s', h⟩
    rw [afterSetting_of_ok h]
    split
    · next hother =>
      obtain ⟨m, hm⟩ := Option.isSome_iff_exists.mp ((s.isSome_named?_iff name).mpr hname)
      rw [hother.1, named?_of_set h, hm]
      rfl
    · next hother => exact named?_of_set_of_ne h fun heq ↦ hother ⟨heq, hn⟩
  | error v =>
    rw [afterSetting_of_error h]
    split
    · next hother =>
      -- The value is within the limits, so it is the name that is refused.
      have hnone : s.named? other = none := by
        rw [← Option.not_isSome_iff_eq_none, isSome_named?_iff]
        intro hmem
        obtain ⟨s', hs'⟩ := exists_set_iff.mpr ⟨hother.2, hother.1 ▸ hmem⟩
        cases h.symm.trans hs'
      rw [hnone]
      rfl
    · rfl

theorem afterSetting_comm (hne : other ≠ name) (s : Series) (m n : UInt32) :
    (s.afterSetting name n).afterSetting other m =
      (s.afterSetting other m).afterSetting name n := by
  refine ext_named? (by simp only [indicator_afterSetting]) fun q ↦ ?_
  simp only [named?_afterSetting]
  by_cases hq : q = other
  · simp [hq, hne]
  · simp [hq]

end Setting

section Range

def InRange (s : Series) : Prop :=
  ∀ p n, s.get? p = some n → 1 ≤ n.toNat ∧ n.toNat ≤ 200

theorem inRange_iff :
    s.InRange ↔ ∀ p ∈ s.parameters, 1 ≤ p.2.toNat ∧ p.2.toNat ≤ 200 :=
  ⟨fun h p hp ↦ h p.1 p.2 (get?_of_mem hp), fun h _ _ hn ↦ h _ (mem_parameters hn)⟩

/-- The first parameter of a series that is not within the limits. -/
def Blames (s : Series) (v : Violation) : Prop :=
  ∃ before p after, s.parameters = before ++ p :: after ∧
    (∀ q ∈ before, 1 ≤ q.2.toNat ∧ q.2.toNat ≤ 200) ∧ ¬ (1 ≤ p.2.toNat ∧ p.2.toNat ≤ 200) ∧
      .parameterOutOfRange p.1.name p.2 = v

theorem verdict_check (s : Series) : Verdict s.check s.InRange s.Blames :=
  (Verdict.forM (fun _ ↦ Verdict.ite _ _) s.parameters).congr inRange_iff.symm fun _ ↦ Iff.rfl

theorem InRange.of_check (h : s.check = .ok ()) : s.InRange :=
  s.verdict_check.ok_iff.mp h

theorem inRange_standard (i : Indicator) : (standard i).InRange := by
  refine .of_check ?_
  cases i <;> rfl

theorem ChangedAt.inRange (h : s.ChangedAt name n s') (hn : 1 ≤ n.toNat ∧ n.toNat ≤ 200)
    (hs : s.InRange) : s'.InRange := by
  intro p m hm
  rw [← named?_name] at hm
  by_cases hname : p.name = name
  · obtain rfl : m = n := Option.some.inj (hm.symm.trans (hname ▸ h.value))
    exact hn
  · rw [h.others p.name hname, named?_name] at hm
    exact hs p m hm

end Range

/-- The parameters of a series are its places. They are listed in their order and looked up by their
names, and they make up the series. A setting changes the value at one place, if the value is within
the limits and the name is that of a place, and a series passes its check if all values are. -/
theorem parameters_are_places (s : Series) :
    (s.parameters.map (·.1.name) = s.indicator.parameterNames ∧
      ∀ p ∈ s.parameters, s.named? p.1.name = some p.2) ∧
    ofLookup s.indicator s.named? = s ∧
    (∀ (i : Indicator) (f : String → Option UInt32),
      (standard i).parameters = i.schema ∧
      (∀ t, ofLookup i f = t ↔ t.indicator = i ∧
        ∀ name, t.named? name = ((standard i).named? name).map (f name).getD) ∧
      ∀ g : String → Option UInt32, (∀ name ∈ i.parameterNames, g name = f name) →
        ofLookup i g = ofLookup i f) ∧
    (∀ name n,
      ((∃ s', s.set name n = .ok s') ↔
        (1 ≤ n.toNat ∧ n.toNat ≤ 200) ∧ name ∈ s.indicator.parameterNames) ∧
      (∀ s', s.set name n = .ok s' → s.afterSetting name n = s' ∧ s'.indicator = s.indicator ∧
        s'.named? name = some n ∧ ∀ other, other ≠ name → s'.named? other = s.named? other) ∧
      (∀ v, s.set name n = .error v → s.afterSetting name n = s) ∧
      ∀ other m, other ≠ name → (s.afterSetting name n).afterSetting other m =
        (s.afterSetting other m).afterSetting name n) ∧
    (s.check = .ok () ↔ ∀ name n, s.named? name = some n → 1 ≤ n.toNat ∧ n.toNat ≤ 200) := by
  refine ⟨⟨?_, fun p hp ↦ ?_⟩, s.ofLookup_named?,
    fun i f ↦ ⟨parameters_standard i, fun t ↦ ?_, fun g hg ↦ ?_⟩,
    fun name n ↦ ⟨exists_set_iff, fun s' h ↦ ?_, fun v ↦ afterSetting_of_error, fun other m hne ↦
      afterSetting_comm hne s m n⟩, ?_⟩
  · have hnames := congrArg (List.map Parameter.name) s.map_fst_parameters
    rwa [List.map_map, List.map_map] at hnames
  · rw [named?_name, get?_of_mem hp]
  · constructor
    · rintro rfl
      exact ⟨indicator_ofLookup i _, named?_ofLookup i f⟩
    · rintro ⟨hindicator, hnamed⟩
      refine ext_named? (by rw [indicator_ofLookup, hindicator]) fun name ↦ ?_
      rw [named?_ofLookup, hnamed]
  · exact ofLookup_congr fun p hp ↦ hg p.name (Indicator.name_mem_parameterNames_iff.mpr hp)
  · exact ⟨afterSetting_of_ok h, indicator_of_set h, named?_of_set h,
      fun other ↦ named?_of_set_of_ne h⟩
  · rw [s.verdict_check.ok_iff]
    constructor
    · intro h name n hn
      obtain ⟨p, -, hp⟩ := Option.bind_eq_some_iff.mp hn
      exact h p n hp
    · intro h p n hn
      exact h p.name n ((s.named?_name p).trans hn)

end Series

end TradingRules
