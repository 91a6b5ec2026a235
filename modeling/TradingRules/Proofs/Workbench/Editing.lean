import TradingRules.Proofs.Workbench.Distinct

namespace TradingRules

open Workbench (Session Question Answer)

namespace Workbench

inductive Adds (w : Workbench) : Rule → Session (String × Workbench) → Prop
  | standard : Adds w .added (Operation.add.carryOut w)
  | crossing (primary compare : Indicator) (value : String) :
      Adds w (.crossing primary compare value)
        ((Operation.addCrossing primary compare value).carryOut w)

variable {w : Workbench} {id : String}

theorem Adds.eq_add {r : Rule} {p : Session (String × Workbench)} (h : w.Adds r p) :
    p = w.add r := by
  cases h <;> rfl

theorem editFirst_of_not_mem {cs : List Condition} (h : id ∉ cs.map (·.id)) (e : Edit) :
    editFirst id e cs = .ok none := by
  induction cs with
  | nil => rfl
  | cons c cs ih =>
    rw [List.map_cons, List.mem_cons, not_or] at h
    rw [editFirst, if_neg (Ne.symm h.1), ih h.2]
    rfl

theorem remove_of_not_mem (h : id ∉ w.draft.identities) : w.remove id = (false, w) := by
  have hkeep : w.draft.conditions.filter (·.id ≠ id) = w.draft.conditions := by
    rw [List.filter_eq_self]
    intro c hc
    rw [decide_eq_true_iff]
    intro hid
    exact h (hid ▸ List.mem_map_of_mem hc)
  rw [remove, hkeep, decide_eq_false (not_not.mpr rfl)]

theorem length_remove_lt_iff :
    (w.remove id).2.draft.conditions.length < w.draft.conditions.length ↔
      id ∈ w.draft.identities := by
  rw [remove, List.length_filter_lt_length_iff_exists, Strategy.identities, List.mem_map]
  simp

theorem fst_remove_iff : (w.remove id).1 ↔
    (w.remove id).2.draft.conditions.length < w.draft.conditions.length := by
  rw [remove, decide_eq_true_iff]
  exact ⟨Nat.lt_of_le_of_ne (List.length_filter_le ..), Nat.ne_of_lt⟩

theorem carryOut_update_of_not_mem (h : id ∉ w.draft.identities) (e : Edit) :
    (Operation.update id e).carryOut w = pure (.ok false, w) := by
  rw [Operation.carryOut, update, editFirst_of_not_mem h]
  rfl

section Added

variable (h : id ∉ w.draft.identities)

include h

theorem remove_push (r : Rule) : (w.push ⟨id, r⟩).remove id = (true, w) := by
  let c : Condition := ⟨id, r⟩
  have hkeep : (w.draft.conditions ++ [c]).filter (·.id ≠ id) = w.draft.conditions := by
    have hw := congrArg (·.2.draft.conditions) (remove_of_not_mem h)
    rw [List.filter_append, List.filter_cons_of_neg (by simp [c]), List.filter_nil,
      List.append_nil]
    exact hw
  have hlength : w.draft.conditions.length ≠ (w.draft.conditions ++ [c]).length := by simp
  rw [remove, push, hkeep, decide_eq_true hlength]

theorem update_push (r : Rule) (e : Edit) :
    (w.push ⟨id, r⟩).update id e = (r.edit e).map fun r' ↦ some (w.push ⟨id, r'⟩) := by
  have hothers : ∀ c ∈ w.draft.conditions, c.id ≠ id := by
    intro c hc hid
    exact h (hid ▸ List.mem_map_of_mem hc)
  have hedit : editFirst id e (w.push ⟨id, r⟩).draft.conditions =
      (Condition.edit ⟨id, r⟩ e).map fun c' ↦ some (w.draft.conditions ++ [c']) :=
    editFirst_append hothers rfl []
  rw [update, hedit, Condition.edit]
  cases r.edit e <;> rfl

theorem exists_act_update_push (r : Rule) (e : Edit) :
    ∃ r', (Operation.update id e).act (w.push ⟨id, r⟩) = pure (w.push ⟨id, r'⟩) := by
  rw [Operation.act, update_push h]
  cases r.edit e with
  | error v => exact ⟨r, rfl⟩
  | ok r' => exact ⟨r', rfl⟩

theorem exists_updates_push (r : Rule) (es : List Edit) :
    ∃ r', es.foldlM (fun w e ↦ (Operation.update id e).act w) (w.push ⟨id, r⟩) =
      pure (w.push ⟨id, r'⟩) := by
  induction es generalizing r with
  | nil => exact ⟨r, rfl⟩
  | cons e es ih =>
    obtain ⟨r₁, h₁⟩ := exists_act_update_push h r e
    obtain ⟨r₂, h₂⟩ := ih r₁
    exact ⟨r₂, by rw [List.foldlM_cons, h₁, pure_bind, h₂]⟩

end Added

/-- With different identities, an edit and a removal reach the one condition that has the identity,
or nothing if there is none. A rule that is added under a new identity becomes the last condition;
edits of it, accepted or refused, and then its removal lead back to the workbench before. -/
theorem edits_reach_one_condition (hnodup : w.draft.identities.Nodup) :
    (∀ id e, id ∉ w.draft.identities →
      (Operation.update id e).carryOut w = pure (.ok false, w)) ∧
    (∀ before c after e, w.draft.conditions = before ++ c :: after →
      (∃ c', c.edit e = .ok c' ∧ c'.id = c.id ∧ (Operation.update c.id e).carryOut w =
        pure (.ok true, { w with draft.conditions := before ++ c' :: after })) ∨
      ∃ v, c.edit e = .error v ∧ (Operation.update c.id e).carryOut w = pure (.error v, w)) ∧
    (∀ id, id ∉ w.draft.identities → (Operation.remove id).carryOut w = pure (false, w)) ∧
    (∀ before c after, w.draft.conditions = before ++ c :: after →
      (Operation.remove c.id).carryOut w =
        pure (true, { w with draft.conditions := before ++ after })) ∧
    (∀ id, ((w.remove id).1 ↔
        (w.remove id).2.draft.conditions.length < w.draft.conditions.length) ∧
      ((w.remove id).2.draft.conditions.length < w.draft.conditions.length ↔
        id ∈ w.draft.identities)) ∧
    ∀ r p, w.Adds r p → ∀ {σ : Type} (answer : (q : Question) → σ → Answer q × σ) (s : σ) id s',
      answer .newId s = (id, s') → id ∉ w.draft.identities →
      p.course answer s = ⟨(id, w.push ⟨id, r⟩), [⟨.newId, id⟩], s'⟩ ∧
      (w.push ⟨id, r⟩).draft.conditions.getLast? = some ⟨id, r⟩ ∧
      ∀ es : List Edit,
        (do let w' ← es.foldlM (fun w e ↦ (Operation.update id e).act w) (w.push ⟨id, r⟩)
            (Operation.remove id).carryOut w') = pure (true, w) := by
  have hapart := tellsApart_iff.mpr hnodup
  refine ⟨fun id e h ↦ carryOut_update_of_not_mem h e, ?_,
    fun id h ↦ congrArg pure (remove_of_not_mem h), ?_,
    fun id ↦ ⟨fst_remove_iff, length_remove_lt_iff⟩, ?_⟩
  · intro before c after e hsplit
    have hupdate := hapart.updated before c after e hsplit
    cases hc : c.edit e with
    | ok c' =>
      refine .inl ⟨c', rfl, Condition.id_of_edit hc, ?_⟩
      rw [Operation.carryOut, hupdate, hc]
      rfl
    | error v =>
      refine .inr ⟨v, rfl, ?_⟩
      rw [Operation.carryOut, hupdate, hc]
      rfl
  · intro before c after hsplit
    exact congrArg pure (hapart.removed before c after hsplit)
  · intro r p hp σ answer s id s' hanswer hid
    obtain rfl := hp.eq_add
    refine ⟨?_, List.getLast?_concat, ?_⟩
    · rw [add, Dialogue.course_bind, course_newId, hanswer]
      rfl
    · intro es
      obtain ⟨r', hupdates⟩ := exists_updates_push hid r es
      have hremove : (Operation.remove id).carryOut (w.push ⟨id, r'⟩) = pure (true, w) :=
        congrArg pure (remove_push hid r')
      rw [hupdates]
      exact hremove

theorem edits_reach_one_condition_of_three :
    let a : Condition := ⟨"a", .initial⟩
    let b : Condition := ⟨"b", .crossing .sma .ema ""⟩
    let c : Condition := ⟨"c", .ofOperator .volume .outside "20"⟩
    let w : Workbench := ⟨⟨[a, b, c], .or, .short, .stopLoss (.ofNat 5)⟩, [⟨⟨4⟩, "Kept"⟩], some ⟨4⟩⟩
    let es : List Edit := [.compareIndicator .rsi, .parameter .compare "fast_period" 7,
      .parameter .compare "period" 300, .operator .equals]
    let answer : (q : Question) → Nat → Answer q × Nat
      | .call c, n => (c.fail .storage, n + 1)
      | .newId, n => ("d", n + 1)
    w.draft.identities.Nodup ∧
      (Operation.update "b" (.operator .between)).carryOut w = pure (.ok true,
        { w with draft.conditions := [a, ⟨"b", ⟨.sma 20, .between, "", none, none⟩⟩, c] }) ∧
      (Operation.update "a" (.compareValue none)).carryOut w =
        pure (.error (.compareValueNotApplicable .lessThan), w) ∧
      (Operation.update "d" (.value "1")).carryOut w = pure (.ok false, w) ∧
      (Operation.remove "b").carryOut w = pure (true, { w with draft.conditions := [a, c] }) ∧
      (Operation.remove "d").carryOut w = pure (false, w) ∧
      (Operation.add.carryOut w).course answer 0 =
        ⟨("d", w.push ⟨"d", .added⟩), [⟨.newId, "d"⟩], 1⟩ ∧
      (do let w' ← es.foldlM (fun w e ↦ (Operation.update "d" e).act w) (w.push ⟨"d", .added⟩)
          (Operation.remove "d").carryOut w') = pure (true, w) := by
  intro a b c w es answer
  have hnodup : w.draft.identities.Nodup := by decide
  have habsent : "d" ∉ w.draft.identities := by decide
  obtain ⟨hunknown, hupdate, hkept, hremove, -, hadd⟩ := edits_reach_one_condition hnodup
  have hadded := hadd _ _ .standard answer 0 "d" 1 rfl habsent
  refine ⟨hnodup, ?_, ?_, hunknown _ _ habsent, hremove [a] b [c] rfl, hkept _ habsent,
    hadded.1, hadded.2.2 es⟩
  · obtain ⟨b', hb', -, h⟩ | ⟨v, hv, -⟩ := hupdate [a] b [c] (.operator .between) rfl
    · obtain rfl := Except.ok.inj hb'
      exact h
    · cases hv
  · obtain ⟨a', ha', -⟩ | ⟨v, hv, h⟩ := hupdate [] a [b, c] (.compareValue none) rfl
    · cases ha'
    · obtain rfl := Except.error.inj hv
      exact h

end Workbench

end TradingRules
