import TradingRules.Proofs.Store.Remote.Attempts

namespace TradingRules.Remote

/-- A network on which no request is replied to, and where no warnings are written. -/
def silence : (q : Question) → Unit → Answer q × Unit
  | .send _, _ => (.error "", ())
  | .warn, _ => (false, ())
  | .wait _, _ => ((), ())

namespace Client

variable {k : Client} {request : Request} {α : Type} {outcome : Delivery → Except StoreError α}
  {repeated left : Nat} {log : Log} {result : Option (Except StoreError α)}

theorem Tries.factors (h : k.Tries request outcome repeated left log result) :
    (sent log).length = (waits log).length + 1 ∧
      ∀ (i : Nat) (factor : UInt32), (waits log)[i]? = some factor →
        repeated + i < 32 ∧ factor.toNat = Nat.pow 2 (repeated + i) := by
  induction h with
  | settled | exhausted | overflown => exact ⟨rfl, fun i factor hi ↦ by cases hi⟩
  | @again repeated left d written factor log result h hpause hrest ih =>
    obtain ⟨hlength, hfactor⟩ := ih
    refine ⟨congrArg (· + 1) hlength, fun i other hi ↦ ?_⟩
    cases i with
    | zero =>
      obtain rfl := Option.some.inj hi
      exact pause?_eq_some hpause
    | succ i =>
      rw [← Nat.add_assoc, Nat.add_right_comm]
      exact hfactor i other hi

theorem Tries.brokenOff (h : k.Tries request outcome repeated left log result)
    (hrepeated : repeated ≤ 32) :
    (result = none ↔
      (∀ p ∈ sent log, Transient (outcome p.2)) ∧ (waits log).length < left) ∧
    (result = none → repeated + (waits log).length = 32 ∨
      ⟨.warn, true⟩ ∈ log ∧ k.maxRetries.toNat + 1 = UInt32.size) := by
  induction h with
  | settled h =>
    refine ⟨iff_of_false nofun fun hall ↦ h ?_, nofun⟩
    exact hall.1 _ (List.mem_singleton_self _)
  | exhausted => exact ⟨iff_of_false nofun fun hall ↦ absurd hall.2 (Nat.not_lt_zero _), nofun⟩
  | overflown h hpause =>
    refine ⟨iff_of_true rfl ⟨fun p hp ↦ ?_, Nat.succ_pos _⟩, fun _ ↦ ?_⟩
    · obtain rfl := List.mem_singleton.mp hp
      exact h
    · obtain hlong | ⟨hwritten, hcount⟩ := pause?_eq_none hpause
      · exact .inl (Nat.le_antisymm hrepeated hlong)
      · exact .inr ⟨by simp [hwritten], hcount⟩
  | @again repeated left d written factor log result h hpause hrest ih =>
    obtain ⟨hiff, honly⟩ := ih (pause?_eq_some hpause).1
    have hsent : sent (⟨.send request, d⟩ :: ⟨.warn, written⟩ :: ⟨.wait factor, ()⟩ :: log) =
        (request, d) :: sent log := rfl
    constructor
    · rw [hiff, hsent, List.forall_mem_cons, and_iff_right h]
      exact and_congr_right fun _ ↦ Nat.succ_lt_succ_iff.symm
    · intro hresult
      obtain hlong | ⟨hwritten, hcount⟩ := honly hresult
      · rw [Nat.add_right_comm, Nat.add_assoc] at hlong
        exact .inl hlong
      · exact .inr ⟨.tail _ (.tail _ (.tail _ hwritten)), hcount⟩

theorem exists_of_mem_sent {p : Request × Delivery} (h : p ∈ sent log) :
    ⟨.send p.1, p.2⟩ ∈ log := by
  obtain ⟨⟨q, answer⟩, he, hp⟩ := List.mem_filterMap.mp h
  cases q with
  | send request =>
    obtain rfl := Option.some.inj hp
    exact he
  | warn => cases hp
  | wait factor => cases hp

theorem answer_silence_eq_none (k : Client) {c : Call} (hc : c.method = .get)
    (h : 32 < k.maxRetries.toNat) : ((k.answer c).course silence ()).result = none := by
  have hlost : ∀ p ∈ sent ((k.answer c).course silence ()).log, Transient (c.outcome p.2) := by
    intro p hp
    obtain ⟨s, hs⟩ := Dialogue.exists_state_of_mem_log silence (exists_of_mem_sent hp)
    have hsilent : p.2 = .error "" := hs
    rw [hsilent, Call.outcome_error]
    rfl
  obtain ⟨hlength, hfactor⟩ := (k.tries_answer silence hc ()).factors
  refine ((k.tries_answer silence hc ()).brokenOff (Nat.zero_le 32)).1.mpr ⟨hlost, ?_⟩
  obtain ⟨failed, last, hsent, -, -, hbound, -⟩ := k.attempts_answer silence hc ()
  have hmade := congrArg List.length hsent
  rw [List.length_map, List.length_append, List.length_singleton] at hmade
  omega

/-- Each retry of a reading call comes after a delay with a factor of 32 bits, which is one at first
and doubles from retry to retry. The call is broken off if the last attempt fails transiently
although retries are left; that happens when the thirty-third factor does not fit any more, or when
a warning is written that counts too many attempts. So all answers lead to a result exactly if there
are no more than 32 retries. -/
theorem delays_double_within_32_bits (k : Client) {c : Call} (hc : c.method = .get) :
    (∀ {σ : Type} (answer : (q : Question) → σ → Answer q × σ) (s : σ),
      let course := (k.answer c).course answer s
      (sent course.log).length = (waits course.log).length + 1 ∧
      (waits course.log).length ≤ k.maxRetries.toNat ∧
      (∀ (i : Nat) (factor : UInt32), (waits course.log)[i]? = some factor →
        i < 32 ∧ factor.toNat = Nat.pow 2 i) ∧
      (course.result = none ↔ (∀ p ∈ sent course.log, Transient (c.outcome p.2)) ∧
        (waits course.log).length < k.maxRetries.toNat) ∧
      (course.result = none → (waits course.log).length = 32 ∨
        ⟨.warn, true⟩ ∈ course.log ∧ k.maxRetries.toNat + 1 = UInt32.size)) ∧
    (k.maxRetries.toNat ≤ 32 ↔
      ∀ {σ : Type} (answer : (q : Question) → σ → Answer q × σ) (s : σ),
        ((k.answer c).course answer s).result ≠ none) := by
  have hcourse {σ : Type} (answer : (q : Question) → σ → Answer q × σ) (s : σ) :
      let course := (k.answer c).course answer s
      (waits course.log).length ≤ k.maxRetries.toNat ∧ (waits course.log).length ≤ 32 := by
    obtain ⟨failed, last, hsent, -, hleft, hbound, -⟩ := k.attempts_answer answer hc s
    have hmade := congrArg List.length hsent
    have hlength := (k.tries_answer answer hc s).factors.1
    rw [List.length_map, List.length_append, List.length_singleton] at hmade
    constructor <;> omega
  refine ⟨fun answer s ↦ ?_, fun hretries _ answer s hnone ↦ ?_, fun hall ↦ ?_⟩
  · obtain ⟨hlength, hfactor⟩ := (k.tries_answer answer hc s).factors
    obtain ⟨hiff, honly⟩ := (k.tries_answer answer hc s).brokenOff (Nat.zero_le 32)
    simp only [Nat.zero_add] at hfactor honly
    exact ⟨hlength, (hcourse answer s).1, hfactor, hiff, honly⟩
  · obtain ⟨hiff, honly⟩ := (k.tries_answer answer hc s).brokenOff (Nat.zero_le 32)
    have hmany : (2 : Nat) ^ 32 = UInt32.size := rfl
    obtain ⟨-, hleft⟩ := hiff.mp hnone
    obtain hlong | ⟨-, hcount⟩ := honly hnone <;> omega
  · -- If there are more retries, there is no result when nothing is replied.
    by_contra hretries
    exact hall silence () (answer_silence_eq_none k hc (Nat.not_le.mp hretries))

theorem delays_double_in_a_long_outage :
    let k := connect "http://localhost:8000" none 40
    let course := (k.answer (.get ⟨7⟩)).course silence ()
    (Call.get ⟨7⟩).method = .get ∧ (waits course.log).length = 32 ∧
      (∃ factor, (waits course.log)[31]? = some factor ∧ factor.toNat = Nat.pow 2 31) ∧
      course.result = none ∧ ¬ k.maxRetries.toNat ≤ 32 := by
  intro k course
  obtain ⟨hall, hiff⟩ := delays_double_within_32_bits k (c := .get ⟨7⟩) rfl
  obtain ⟨-, -, hfactor, hnone, honly⟩ := hall silence ()
  have hresult : course.result = none := answer_silence_eq_none k rfl (by decide)
  have hlength : (waits course.log).length = 32 :=
    (honly hresult).resolve_right fun h ↦ absurd h.2 (by decide)
  obtain ⟨factor, hlast⟩ : ∃ factor, (waits course.log)[31]? = some factor :=
    ⟨_, List.getElem?_eq_getElem (by omega)⟩
  exact ⟨rfl, hlength, ⟨factor, hlast, (hfactor 31 factor hlast).2⟩, hresult, by decide⟩

/-- A server is busy for 33 attempts and would reply to the next one. The delay before that one has
no factor, and the call is broken off. -/
theorem delay_before_the_34th_attempt_overflows :
    let k := connect "http://localhost:8000" none 33
    let busy : Reply := ⟨503, ""⟩
    let answer (q : Question) (replies : List Reply) : Answer q × List Reply :=
      match q with
      | .send _ => (replies.head?.elim (.error "closed") .ok, replies.tail)
      | .warn => (false, replies)
      | .wait _ => ((), replies)
    let course := (k.answer .list).course answer (List.replicate 33 busy ++ [⟨200, "[]"⟩])
    course.result = none ∧ (sent course.log).length = 33 ∧ (waits course.log).length = 32 ∧
      Nat.pow 2 32 = UInt32.size := by
  intro k busy answer course
  refine ⟨?_, ?_, ?_, rfl⟩
  · decide +kernel
  · decide +kernel
  · decide +kernel

end Client

end TradingRules.Remote
