import TradingRules.Document.Forgiving

namespace TradingRules

theorem bind_eq_ok_iff {ε α β : Type} {x : Except ε α} {f : α → Except ε β} {b : β} :
    x >>= f = .ok b ↔ ∃ a, x = .ok a ∧ f a = .ok b := by
  cases x <;> simp [bind, Except.bind]

theorem Source.refuse_ne_ok {α : Type} (expected : String) (s : Source) (a : α) :
    s.refuse expected ≠ .ok a := by
  intro h
  obtain ⟨f, -, hf⟩ := bind_eq_ok_iff.mp h
  cases hf

theorem Source.ofMembers_map {α : Type} (name : α → String) (value : α → Json) (ms : List α) :
    ofMembers (ms.map fun m ↦ (name m, value m)) =
      ms.map fun m ↦ (some (name m), ofJson (value m)) := by
  induction ms with
  | nil => rfl
  | cons m ms ih => simp [ofMembers, ih]

namespace Decoder.Record

variable {ι σ α : Type} [DecidableEq ι] (r : Record ι σ α) (origin : Origin)

/-- Members written for some fields, each under the name of its field. -/
def written (ms : List (ι × Json)) : Json :=
  .object (ms.map fun m ↦ (r.name m.1, m.2))

def readAll (st : σ) : List (ι × Json) → Except DocumentError σ
  | [] => .ok st
  | (i, v) :: rest => do readAll (← r.read origin i (.ofJson v) st) rest

omit [DecidableEq ι] in
theorem readAll_append (st : σ) (ms ns : List (ι × Json)) :
    r.readAll origin st (ms ++ ns) = r.readAll origin st ms >>= (r.readAll origin · ns) := by
  induction ms generalizing st with
  | nil => rfl
  | cons m ms ih =>
    simp only [List.cons_append, readAll, ih]
    cases r.read origin m.1 (.ofJson m.2) st <;> rfl

section Written

variable {r} (hname : ∀ i, r.field? (r.name i) = some i)

include hname

theorem readMembers_written (ms : List (ι × Json)) (seen : List ι) (st : σ)
    (hms : (ms.map Prod.fst).Nodup) (hseen : ∀ m ∈ ms, m.1 ∉ seen) :
    r.readMembers origin seen st (ms.map fun m ↦ (some (r.name m.1), Source.ofJson m.2)) =
      r.readAll origin st ms := by
  induction ms generalizing seen st with
  | nil => rfl
  | cons m ms ih =>
    rw [List.map_cons, List.nodup_cons] at hms
    simp only [List.map_cons, readMembers, hname, hseen m (by simp), if_false, readAll]
    cases r.read origin m.1 (.ofJson m.2) st with
    | error e => rfl
    | ok st' =>
      refine ih (m.1 :: seen) st' hms.2 fun k hk ↦ ?_
      rw [List.mem_cons, not_or]
      exact ⟨fun h ↦ hms.1 (h ▸ List.mem_map_of_mem hk), hseen k (by simp [hk])⟩

/-- A record is read from what is written for its fields as if they were read in turn. -/
theorem decode_written {ms : List (ι × Json)} (hms : (ms.map Prod.fst).Nodup) {st : σ}
    (hst : r.readAll origin r.start ms = .ok st) :
    r.decode origin (.ofJson (r.written ms)) =
      r.finish (fun i ↦ .missingField (r.name i)) st := by
  have h := readMembers_written origin hname ms [] r.start hms (by simp)
  simp only [written, Source.ofJson, Source.ofMembers_map, decode]
  rw [h, hst]
  rfl

end Written

section Kept

variable {r origin} {P : σ → Prop}
  (hread : ∀ i s st st', P st → r.read origin i s st = .ok st' → P st')

include hread

theorem readMembers_keeps {seen : List ι} {st st' : σ} {members : List (Option String × Source)}
    (hst : P st) (h : r.readMembers origin seen st members = .ok st') : P st' := by
  induction members generalizing seen st with
  | nil => exact Except.ok.inj h ▸ hst
  | cons m members ih =>
    obtain ⟨name, v⟩ := m
    cases name with
    | none => cases h
    | some name =>
      rw [readMembers] at h
      split at h
      · split at h
        · cases h
        · obtain ⟨st₁, h₁, h⟩ := bind_eq_ok_iff.mp h
          exact ih (hread _ _ _ _ hst h₁) h
      · split at h
        · exact ih hst h
        · cases h

omit [DecidableEq ι] in
theorem readItems_keeps {st st' : σ} {is : List ι} {items extra : List Source} (hst : P st)
    (h : r.readItems origin st is items = .ok (st', extra)) : P st' := by
  induction is generalizing st items with
  | nil =>
    obtain ⟨rfl, -⟩ : st = st' ∧ items = extra := by simpa [readItems] using h
    exact hst
  | cons i is ih =>
    cases items with
    | nil =>
      obtain ⟨rfl, -⟩ : st = st' ∧ [] = extra := by simpa [readItems] using h
      exact hst
    | cons v items =>
      obtain ⟨st₁, h₁, h⟩ := bind_eq_ok_iff.mp h
      exact ih (hread _ _ _ _ hst h₁) h

theorem exists_finish_of_decode {s : Source} {a : α} (hstart : P r.start)
    (h : r.decode origin s = .ok a) : ∃ absent st, P st ∧ r.finish absent st = .ok a := by
  unfold decode at h
  split at h
  · obtain ⟨st, hst, h⟩ := bind_eq_ok_iff.mp h
    split at h
    · exact ⟨_, st, readMembers_keeps hread hstart hst, h⟩
    · cases h
  · obtain ⟨⟨st, extra⟩, hst, h⟩ := bind_eq_ok_iff.mp h
    dsimp only at h
    split at h
    · cases h
    · obtain ⟨b, hb, h⟩ := bind_eq_ok_iff.mp h
      refine ⟨_, st, readItems_keeps hread hstart hst, hb.trans ?_⟩
      split at h
      · exact h
      · split at h <;> cases h
  · cases h
  · exact absurd h (Source.refuse_ne_ok _ _ _)

end Kept

end Decoder.Record

namespace Decoder

theorem choice_name {α : Type} {names : List (String × α)} {name : String} {a : α}
    (h : names.lookup name = some a) (origin : Origin) :
    choice names origin (.string (some name)) = .ok a := by
  cases origin <;> simp [choice, variantOf, h]

theorem list_ofJson {α β : Type} {d : Decoder β} {origin : Origin} {write : α → Json}
    {value : α → β} {as : List α} (h : ∀ a ∈ as, d origin (.ofJson (write a)) = .ok (value a)) :
    list d origin (.ofJson (.array (as.map write))) = .ok (as.map value) := by
  have hitems : items d origin (Source.ofItems (as.map write)) = .ok (as.map value) := by
    induction as with
    | nil => rfl
    | cons a as ih =>
      have ha := h a (by simp)
      have has := ih fun b hb ↦ h b (by simp [hb])
      simp [Source.ofItems, items, ha, has, bind, Except.bind, pure, Except.pure]
  simp [Source.ofJson, list, hitems, bind, Except.bind, pure, Except.pure]

theorem nullable_ofJson {α : Type} {d : Decoder α} {origin : Origin} {v : Json} {a : α}
    (hv : v ≠ .null) (h : d origin (.ofJson v) = .ok a) :
    nullable d origin (.ofJson v) = .ok (some a) := by
  cases v <;> simp_all [Source.ofJson, nullable, Functor.map, Except.map]

theorem exists_of_mem_list {α : Type} {d : Decoder α} {origin : Origin} {s : Source} {as : List α}
    (h : list d origin s = .ok as) {a : α} (ha : a ∈ as) : ∃ source, d origin source = .ok a := by
  have hitems (sources : List Source) :
      ∀ as, items d origin sources = .ok as → a ∈ as → ∃ source, d origin source = .ok a := by
    induction sources with
    | nil =>
      intro as h ha
      rw [← Except.ok.inj h] at ha
      exact nomatch ha
    | cons source sources ih =>
      intro as h ha
      obtain ⟨b, hb, h⟩ := bind_eq_ok_iff.mp h
      obtain ⟨bs, hbs, h⟩ := bind_eq_ok_iff.mp h
      rw [← Except.ok.inj h] at ha
      rcases List.mem_cons.mp ha with rfl | ha
      · exact ⟨source, hb⟩
      · exact ih bs hbs ha
  unfold list at h
  split at h
  · obtain ⟨bs, hbs, h⟩ := bind_eq_ok_iff.mp h
    split at h
    · exact hitems _ bs hbs (Except.ok.inj h ▸ ha)
    · cases h
  · cases h
  · exact absurd h (Source.refuse_ne_ok _ _ _)

theorem eq_of_nullable {α : Type} {d : Decoder α} {origin : Origin} {s : Source} {a : α}
    (h : nullable d origin s = .ok (some a)) : d origin s = .ok a := by
  unfold nullable at h
  split at h
  · cases h
  · cases hd : d origin s with
    | error e => simp [hd, Functor.map, Except.map] at h
    | ok b => simpa [hd, Functor.map, Except.map] using h

end Decoder

namespace Forgiving

variable (origin : Origin)

theorem optional_ofJson {α : Type} (use : Json → Option α) {v : Json}
    (hv : (Source.ofJson v).toJson? = some v) (hnull : v ≠ .null) :
    optional use origin (.ofJson v) = .ok (use v) := by
  have hpresent : present origin (.ofJson v) = .ok (some v) := by
    cases v <;> simp_all [present, Decoder.json, bind, Except.bind, pure, Except.pure]
  simp [optional, hpresent, bind, Except.bind, pure, Except.pure]

theorem text_string (s : String) : text origin (.ofJson (.string s)) = .ok (some s) :=
  optional_ofJson origin _ rfl (by simp)

theorem count_ofNat (n : UInt32) : count origin (.ofJson (.ofNat n.toNat)) = .ok (some n) := by
  have h : n.toNat < UInt32.size := n.toNat_lt
  have hcount : countOf (.ofNat n.toNat) = some n := by simp [Json.ofNat, countOf, wholeNumber?, h]
  exact (optional_ofJson origin _ rfl (by simp [Json.ofNat])).trans (congrArg _ hcount)

theorem number_ofBinary64 {x : Binary64} (hx : x.isFinite) :
    number origin (.ofJson (.ofBinary64 x)) = .ok (some x) := by
  have h : Json.ofBinary64 x = .number (.real x) := by simp [Json.ofBinary64, hx]
  have huse : numberOf (.number (.real x)) = some x := by
    simp [numberOf, Number.toBinary64, hx]
  rw [h]
  exact (optional_ofJson origin _ rfl (by simp)).trans (congrArg _ huse)

theorem choice_string {α : Type} {names : List (String × α)} {name : String} {a : α}
    (h : names.lookup name = some a) :
    choice names origin (.ofJson (.string name)) = .ok (some a) := by
  have huse : (Decoder.ofJson (Decoder.choice names) (.string name)).toOption = some a := by
    simp [Decoder.ofJson, Source.ofJson, Decoder.choice_name h, Except.toOption]
  exact (optional_ofJson origin _ rfl (by simp)).trans (congrArg _ huse)

end Forgiving

end TradingRules
