import TradingRules.Proofs.Store.Remote.Attempts
import TradingRules.Proofs.Store.Remote.Explanations

namespace TradingRules

namespace Remote

theorem occurs_iff_infix {part cs : List Char} : occurs part cs ↔ part <:+: cs := by
  induction cs with
  | nil => simp [occurs]
  | cons c rest ih => simp [occurs, List.infix_cons_iff, ih]

/-- The first complaint about the name says that it exists or has to be unique. -/
def NameTaken (v : Json) : Prop :=
  ∃ complaints s, v.member? "name" = some complaints ∧ complaints.texts.head? = some s ∧
    ("exist".toList <:+: (Text.lowerCase s).toList ∨
      "unique".toList <:+: (Text.lowerCase s).toList)

theorem isNameCollision_iff {v : Json} : isNameCollision v ↔ NameTaken v := by
  unfold isNameCollision
  constructor
  · intro h
    split at h
    · next s hs =>
      obtain ⟨complaints, hname, hs⟩ := Option.bind_eq_some_iff.mp hs
      rw [firstString?_eq_head?] at hs
      rw [Bool.or_eq_true, occurs_iff_infix, occurs_iff_infix] at h
      exact ⟨complaints, s, hname, hs, h⟩
    · exact absurd h Bool.false_ne_true
  · rintro ⟨complaints, s, hname, hs, h⟩
    rw [← firstString?_eq_head?] at hs
    rw [hname, Option.bind_some, hs]
    rwa [Bool.or_eq_true, occurs_iff_infix, occurs_iff_infix]

namespace Reply

def ReportsName (r : Reply) : Prop :=
  ∃ v, Json.parse? r.text = some v ∧ NameTaken v

theorem reportsName_iff {r : Reply} :
    r.ReportsName ↔ ((Json.parse? r.text).map isNameCollision).getD false := by
  cases h : Json.parse? r.text with
  | none => simp [ReportsName, h]
  | some v => simp [ReportsName, h, isNameCollision_iff]

theorem refusal_of_serverFault {r : Reply} (h : 500 ≤ r.status) (id : Option StrategyId) :
    (r.ReportsName ∧ r.refusal id = .conflict (r.explanation?.getD StoreError.generic)) ∨
      (¬ r.ReportsName ∧
        r.refusal id = .rejected r.status (r.explanation?.getD StoreError.generic)) := by
  rw [reportsName_iff]
  unfold refusal explanation?
  dsimp only
  rw [if_neg (by omega), if_neg (by omega), if_neg (by omega)]
  split
  · next hname => exact .inl ⟨hname, rfl⟩
  · next hname => exact .inr ⟨hname, rfl⟩

theorem isTransient_refusal_of_lt {r : Reply} (h : r.status < 500) (id : Option StrategyId) :
    (r.refusal id).isTransient = false := by
  have hrejected (message : String) : (StoreError.rejected r.status message).isTransient = false :=
    decide_eq_false (Nat.not_le.mpr h)
  unfold refusal
  dsimp only
  split
  · cases id
    · exact hrejected _
    · rfl
  split
  · rfl
  split
  · rfl
  split
  · rfl
  · exact hrejected _

end Reply

end Remote

theorem Call.exists_refusal {c : Call} (hc : c.method = .get) {r : Remote.Reply}
    (h : 400 ≤ r.status) : ∃ id, c.outcome (.ok r) = c.fail (r.refusal id) := by
  have hfailed : r.isSuccess = false := by
    rw [Remote.Reply.isSuccess, Bool.and_eq_false_iff, decide_eq_false_iff_not,
      decide_eq_false_iff_not]
    omega
  cases c with
  | list =>
    refine ⟨none, ?_⟩
    rw [outcome, Remote.Reply.read, hfailed]
    rfl
  | get id =>
    refine ⟨some id, ?_⟩
    rw [outcome, Remote.Reply.read, hfailed]
    rfl
  | create | delete => cases hc

namespace Remote.Client

variable {σ : Type} (answer : (q : Question) → σ → Answer q × σ) (k : Client)

theorem place_of_delivery {c : Call} (hc : c.method = .get) (s : σ) :
    let course := (k.answer c).course answer s
    let deliveries := (sent course.log).map Prod.snd
    ∀ (n : Nat) (d : Delivery), deliveries[n]? = some d →
      (Transient (c.outcome d) → n < k.maxRetries.toNat →
        n + 1 < deliveries.length ∨ course.result = none ∧ k.Overflows n) ∧
      (¬ Transient (c.outcome d) →
        n + 1 = deliveries.length ∧ course.result = some (c.outcome d)) ∧
      (n + 1 = deliveries.length → course.result = some (c.outcome d) ∨
        course.result = none ∧ Transient (c.outcome d) ∧ n < k.maxRetries.toNat ∧
          k.Overflows n) := by
  intro course deliveries n d hd
  obtain ⟨failed, last, hsent, hall, -, -, hresult⟩ := k.attempts_answer answer hc s
  have hdeliveries : deliveries = failed ++ [last] := by simp [deliveries, course, hsent]
  rw [hdeliveries] at hd ⊢
  rw [List.length_append, List.length_singleton]
  rcases Nat.lt_or_ge n failed.length with hn | hn
  · rw [List.getElem?_append_left hn] at hd
    have hfailed := hall d (List.mem_of_getElem? hd)
    exact ⟨fun _ _ ↦ .inl (by omega), fun h ↦ absurd hfailed h, by omega⟩
  · rw [List.getElem?_append_right hn, List.getElem?_singleton] at hd
    have hend : n - failed.length = 0 := by
      by_contra hne
      rw [if_neg hne] at hd
      cases hd
    rw [if_pos hend] at hd
    obtain rfl := Option.some.inj hd
    obtain rfl : n = failed.length := by omega
    obtain ⟨hresult, hstop⟩ | ⟨hresult, hlast, hleft, hover⟩ := hresult
    · refine ⟨fun htransient hleft ↦ ?_, fun _ ↦ ⟨rfl, hresult⟩, fun _ ↦ .inl hresult⟩
      obtain hfinal | hlength := hstop
      · exact absurd htransient hfinal
      · omega
    · exact ⟨fun _ _ ↦ .inr ⟨hresult, hover⟩, fun h ↦ absurd hlast h,
        fun _ ↦ .inr ⟨hresult, hlast, hleft, hover⟩⟩

/-- A reading call is made again after a reply with a status from 500 to 599 while retries are left
and what is counted for them fits 32 bits, unless the body of the reply complains that a name is
taken: that is a conflict, and final. A reply with a status from 400 to 499 is final whatever its
body is. -/
theorem reads_are_repeated_after_server_faults (k : Client) {c : Call} (hc : c.method = .get)
    {σ : Type} (answer : (q : Question) → σ → Answer q × σ) (s : σ) :
    let course := (k.answer c).course answer s
    let deliveries := (sent course.log).map Prod.snd
    ∀ (n : Nat) (r : Reply), deliveries[n]? = some (.ok r) →
      (n + 1 = deliveries.length → course.result = some (c.outcome (.ok r)) ∨
        course.result = none ∧ Transient (c.outcome (.ok r)) ∧ n < k.maxRetries.toNat ∧
          k.Overflows n) ∧
      (500 ≤ r.status → r.status ≤ 599 → ¬ r.ReportsName →
        (∃ e : StoreError, c.outcome (.ok r) = c.fail e ∧ e.isTransient) ∧
        (n < k.maxRetries.toNat →
          n + 1 < deliveries.length ∨ course.result = none ∧ k.Overflows n)) ∧
      (500 ≤ r.status → r.status ≤ 599 → r.ReportsName →
        course.result = some (c.fail (.conflict (r.explanation?.getD StoreError.generic))) ∧
        c.outcome (.ok r) = c.fail (.conflict (r.explanation?.getD StoreError.generic)) ∧
        n + 1 = deliveries.length) ∧
      (400 ≤ r.status → r.status ≤ 499 →
        (∃ e : StoreError, c.outcome (.ok r) = c.fail e ∧ e.isTransient = false) ∧
        n + 1 = deliveries.length ∧ course.result = some (c.outcome (.ok r))) := by
  intro course deliveries n r hr
  obtain ⟨hagain, hfinal, hresult⟩ := place_of_delivery answer k hc s n (.ok r) hr
  have houtcome (h : 400 ≤ r.status) : ∃ id, c.outcome (.ok r) = c.fail (r.refusal id) :=
    Call.exists_refusal hc h
  refine ⟨hresult, fun hlow _ hname ↦ ?_, fun hlow _ hname ↦ ?_, fun hlow hhigh ↦ ?_⟩
  · obtain ⟨id, hfail⟩ := houtcome (by omega)
    obtain ⟨h, -⟩ | ⟨-, hrejected⟩ := r.refusal_of_serverFault hlow id
    · exact absurd h hname
    have htransient : (r.refusal id).isTransient := by
      rw [hrejected]
      exact decide_eq_true hlow
    refine ⟨⟨_, hfail, htransient⟩, hagain ?_⟩
    rw [hfail]
    exact htransient
  · obtain ⟨id, hfail⟩ := houtcome (by omega)
    obtain ⟨-, hconflict⟩ | ⟨h, -⟩ := r.refusal_of_serverFault hlow id
    · rw [hconflict] at hfail
      rw [hfail] at hfinal
      obtain ⟨hend, hconflict⟩ := hfinal Bool.false_ne_true
      exact ⟨hconflict, hfail, hend⟩
    · exact absurd hname h
  · obtain ⟨id, hfail⟩ := houtcome hlow
    have hpermanent := Reply.isTransient_refusal_of_lt (by omega : r.status < 500) id
    refine ⟨⟨_, hfail, hpermanent⟩, hfinal ?_⟩
    rw [hfail]
    exact Bool.eq_false_iff.mp hpermanent

theorem reads_are_repeated_after_a_busy_server :
    let k := connect "http://localhost:8000" none 4
    let busy : Reply := ⟨503, "\x7b\"detail\":\"Busy.\"\x7d"⟩
    let taken : Reply := ⟨500, "\x7b\"name\":[\"Has to be unique.\"]\x7d"⟩
    let answer (q : Question) (replies : List Delivery) : Answer q × List Delivery :=
      match q with
      | .send _ => (replies.headD (.error "closed"), replies.tail)
      | .warn => (true, replies)
      | .wait _ => ((), replies)
    let course := (k.answer .list).course answer [.ok busy, .ok taken, .ok busy]
    let deliveries := (sent course.log).map Prod.snd
    deliveries = [.ok busy, .ok taken] ∧ ¬ busy.ReportsName ∧ taken.ReportsName ∧
      (∃ e : StoreError, Call.list.outcome (.ok busy) = Call.list.fail e ∧ e.isTransient) ∧
      course.result = some (.error (.conflict "name: Has to be unique.")) := by
  intro k busy taken answer course deliveries
  have hbusy : ¬ busy.ReportsName := by
    rw [Reply.reportsName_iff]
    decide +kernel
  have htaken : taken.ReportsName := by
    rw [Reply.reportsName_iff]
    decide +kernel
  have hdeliveries : deliveries = [.ok busy, .ok taken] := by decide +kernel
  have hmessage : taken.explanation? = some "name: Has to be unique." := by decide +kernel
  have hfirst : deliveries[0]? = some (.ok busy) := by rw [hdeliveries]; rfl
  have hsecond : deliveries[1]? = some (.ok taken) := by rw [hdeliveries]; rfl
  obtain ⟨-, hagain, -⟩ := reads_are_repeated_after_server_faults k rfl answer _ 0 busy hfirst
  obtain ⟨-, -, hconflict, -⟩ :=
    reads_are_repeated_after_server_faults k rfl answer _ 1 taken hsecond
  obtain ⟨hresult, -, -⟩ := hconflict (by decide) (by decide) htaken
  rw [hmessage] at hresult
  exact ⟨hdeliveries, hbusy, htaken, (hagain (by decide) (by decide) hbusy).1, hresult⟩

/-- A server that is down mentions a host under the wrong name, and is not asked again. -/
theorem server_fault_is_taken_for_a_conflict :
    let k := connect "http://localhost:8000" none 3
    let down : Reply := ⟨503, "\x7b\"name\":[\"This host does not exist.\"]\x7d"⟩
    let answer : (q : Question) → Unit → Answer q × Unit
      | .send _, _ => (.ok down, ())
      | .warn, _ => (true, ())
      | .wait _, _ => ((), ())
    let course := (k.answer .list).course answer ()
    500 ≤ down.status ∧ down.status ≤ 599 ∧
      course.result = some (.error (.conflict "name: This host does not exist.")) ∧
      (StoreError.conflict "name: This host does not exist.").isTransient = false ∧
      (sent course.log).map Prod.snd = [.ok down] := by
  intro k down answer course
  refine ⟨by decide, by decide, ?_, rfl, ?_⟩
  · decide +kernel
  · decide +kernel

end Remote.Client

end TradingRules
