import Mathlib.Data.List.TakeWhile
import TradingRules.Proofs.Dialogue
import TradingRules.Store.Remote.Client

namespace TradingRules

namespace Call

def place : Call → String
  | .create _ _ | .list => "/api/strategies/"
  | .get id | .delete id => "/api/strategies/" ++ toString id.number ++ "/"

def method : Call → Remote.Method
  | .create _ _ => .post
  | .list | .get _ => .get
  | .delete _ => .delete

def body : Call → String
  | .create name strategy => (Remote.Client.creation name strategy).compact
  | .list | .get _ | .delete _ => ""

def request (k : Remote.Client) (c : Call) : Remote.Request :=
  ⟨c.method, k.base ++ c.place, k.token.map ("Bearer " ++ ·), c.body⟩

def outcome : (c : Call) → Remote.Delivery → c.Result
  | .create _ _, .ok r => r.read SavedStrategy.decoder none
  | .list, .ok r => r.read (Decoder.list Listing.decoder) none
  | .get id, .ok r => r.read SavedStrategy.decoder (some id)
  | .delete id, .ok r => if r.isSuccess then .ok () else .error (r.refusal (some id))
  | c, .error reason => c.fail (.network reason)

theorem outcome_error (c : Call) (reason : String) :
    c.outcome (.error reason) = c.fail (.network reason) := by
  cases c <;> rfl

end Call

namespace Remote

def Transient {α : Type} : Except StoreError α → Prop
  | .ok _ => False
  | .error e => e.isTransient

abbrev Log := List (Dialogue.Exchange Question Answer)

/-- The requests among what was asked of the network, each with what came of it. -/
def sent (log : Log) : List (Request × Delivery) :=
  log.filterMap fun
    | ⟨.send request, delivery⟩ => some (request, delivery)
    | _ => none

def waits (log : Log) : List UInt32 :=
  log.filterMap fun
    | ⟨.wait factor, _⟩ => some factor
    | _ => none

def once {α : Type} (request : Request) (outcome : Delivery → α) : Exchange α := do
  return outcome (← ask (.send request))

namespace Client

theorem delayFactor?_eq_some_iff {n : Nat} {factor : UInt32} :
    delayFactor? n = some factor ↔ n < 32 ∧ factor.toNat = Nat.pow 2 n := by
  have hsize : Nat.pow 2 n < UInt32.size ↔ n < 32 :=
    Nat.pow_lt_pow_iff_right (by decide : 1 < 2) (m := 32)
  rw [delayFactor?, ← hsize]
  split
  · next h =>
    have hfactor : (UInt32.ofNat (Nat.pow 2 n)).toNat = Nat.pow 2 n := UInt32.toNat_ofNat_of_lt' h
    rw [Option.some_inj, ← UInt32.toNat_inj, hfactor, eq_comm]
    exact (and_iff_right h).symm
  · next h => exact iff_of_false nofun fun hfits ↦ h hfits.1

variable (k : Client)

/-- What is counted for a further attempt after so many need not fit 32 bits: the factor of the
delay before it, or the number of attempts that a warning speaks of. -/
def Overflows (n : Nat) : Prop :=
  n = 32 ∨ k.maxRetries.toNat + 1 = UInt32.size

variable {k} in
theorem pause?_eq_some {written : Bool} {n : Nat} {factor : UInt32}
    (h : k.pause? written n = some factor) : n < 32 ∧ factor.toNat = Nat.pow 2 n := by
  rw [pause?, Option.ite_none_left_eq_some] at h
  exact delayFactor?_eq_some_iff.mp h.2

variable {k} in
theorem pause?_eq_none {written : Bool} {n : Nat} (h : k.pause? written n = none) :
    32 ≤ n ∨ written ∧ k.maxRetries.toNat + 1 = UInt32.size := by
  unfold pause? at h
  split at h
  · next hwritten => exact .inr ⟨hwritten.1, Nat.le_antisymm k.maxRetries.toNat_lt hwritten.2⟩
  · refine .inl (Nat.le_of_not_lt fun hlt ↦ ?_)
    have hfactor : delayFactor? n = some (.ofNat (Nat.pow 2 n)) :=
      if_pos (Nat.pow_lt_pow_right (by decide) hlt)
    cases hfactor.symm.trans h

/-- How the attempts of a reading call go on after so many, with so many left: what is asked of the
network, and the result unless they are broken off. -/
inductive Tries (request : Request) {α : Type} (outcome : Delivery → Except StoreError α) :
    Nat → Nat → Log → Option (Except StoreError α) → Prop
  | settled {repeated left : Nat} {d : Delivery} (h : ¬ Transient (outcome d)) :
      Tries request outcome repeated left [⟨.send request, d⟩] (some (outcome d))
  | exhausted {repeated : Nat} {d : Delivery} :
      Tries request outcome repeated 0 [⟨.send request, d⟩] (some (outcome d))
  | overflown {repeated left : Nat} {d : Delivery} {written : Bool} (h : Transient (outcome d))
      (hpause : k.pause? written repeated = none) :
      Tries request outcome repeated (left + 1) [⟨.send request, d⟩, ⟨.warn, written⟩] none
  | again {repeated left : Nat} {d : Delivery} {written : Bool} {factor : UInt32} {log : Log}
      {result : Option (Except StoreError α)} (h : Transient (outcome d))
      (hpause : k.pause? written repeated = some factor)
      (hrest : Tries request outcome (repeated + 1) left log result) :
      Tries request outcome repeated (left + 1)
        (⟨.send request, d⟩ :: ⟨.warn, written⟩ :: ⟨.wait factor, ()⟩ :: log) result

section Persist

variable {σ α : Type} (answer : (q : Question) → σ → Answer q × σ) (request : Request)
  (outcome : Delivery → Except StoreError α)

theorem course_once (s : σ) : (once request outcome).course answer s =
    ⟨outcome (answer (.send request) s).1, [⟨.send request, (answer (.send request) s).1⟩],
      (answer (.send request) s).2⟩ :=
  rfl

theorem tries_persist (repeated left : Nat) (s : σ) :
    let course := (k.persist (once request outcome) repeated left).course answer s
    k.Tries request outcome repeated left course.log course.result := by
  -- On the attempts left. Those after a delay are as they would be in the state it leaves.
  induction left generalizing repeated s with
  | zero => exact .exhausted
  | succ left ih =>
    rw [persist, Dialogue.course_bind, course_once]
    dsimp only
    generalize (answer (.send request) s).1 = d
    generalize (answer (.send request) s).2 = s
    have hsettled (h : ¬ Transient (outcome d)) :
        k.Tries request outcome repeated (left + 1) [⟨.send request, d⟩] (some (outcome d)) :=
      .settled h
    cases houtcome : outcome d with
    | ok a =>
      rw [houtcome] at hsettled
      exact hsettled not_false
    | error e =>
      dsimp only
      split
      · next htransient =>
        have hfailed : Transient (outcome d) := by
          rw [houtcome]
          exact htransient
        have hwarned : (ask .warn).course answer s =
            ⟨(answer .warn s).1, [⟨.warn, (answer .warn s).1⟩], (answer .warn s).2⟩ := rfl
        rw [Dialogue.course_bind, hwarned]
        dsimp only
        cases hpause : k.pause? (answer .warn s).1 repeated with
        | none => exact .overflown hfailed hpause
        | some factor => exact .again hfailed hpause (ih (repeated + 1) _)
      · next hpermanent =>
        rw [houtcome] at hsettled
        exact hsettled hpermanent

variable {k request outcome}

theorem Tries.exists_sent {repeated left : Nat} {log : Log} {result : Option (Except StoreError α)}
    (h : k.Tries request outcome repeated left log result) (hrepeated : repeated ≤ 32) :
    ∃ failed last, sent log = (failed ++ [last]).map (fun d ↦ (request, d)) ∧
      (∀ d ∈ failed, Transient (outcome d)) ∧ failed.length ≤ left ∧
      repeated + failed.length ≤ 32 ∧
      (result = some (outcome last) ∧ (¬ Transient (outcome last) ∨ failed.length = left) ∨
        result = none ∧ Transient (outcome last) ∧ failed.length < left ∧
          k.Overflows (repeated + failed.length)) := by
  induction h with
  | @settled repeated left d h =>
    exact ⟨[], d, rfl, by simp, Nat.zero_le _, hrepeated, .inl ⟨rfl, .inl h⟩⟩
  | @exhausted repeated d =>
    exact ⟨[], d, rfl, by simp, Nat.le_refl _, hrepeated, .inl ⟨rfl, .inr rfl⟩⟩
  | @overflown repeated left d written h hpause =>
    refine ⟨[], d, rfl, by simp, Nat.zero_le _, hrepeated, .inr ⟨rfl, h, Nat.succ_pos left, ?_⟩⟩
    exact (pause?_eq_none hpause).imp (Nat.le_antisymm hrepeated) And.right
  | @again repeated left d written factor log result h hpause hrest ih =>
    obtain ⟨failed, last, hsent, hfailed, hleft, hbound, hend⟩ := ih (pause?_eq_some hpause).1
    rw [Nat.add_right_comm, Nat.add_assoc] at hbound hend
    refine ⟨d :: failed, last, congrArg (List.cons (request, d)) hsent,
      List.forall_mem_cons.mpr ⟨h, hfailed⟩, Nat.succ_le_succ hleft, hbound, ?_⟩
    obtain ⟨hresult, hstop⟩ | ⟨hresult, hlast, hlt, hover⟩ := hend
    · exact .inl ⟨hresult, hstop.imp_right (congrArg (· + 1))⟩
    · exact .inr ⟨hresult, hlast, Nat.succ_lt_succ hlt, hover⟩

end Persist

/-- The attempts of a reading call: the same request until one does not fail transiently or none are
left, or until what is counted overflows. The result is what the last one comes to, unless there is
none. -/
def Attempts (k : Client) (c : Call) (sent : List (Request × Delivery))
    (result : Option c.Result) : Prop :=
  ∃ failed last, sent = (failed ++ [last]).map (fun d ↦ (c.request k, d)) ∧
    (∀ d ∈ failed, Transient (c.outcome d)) ∧ failed.length ≤ k.maxRetries.toNat ∧
    failed.length ≤ 32 ∧
    (result = some (c.outcome last) ∧
        (¬ Transient (c.outcome last) ∨ failed.length = k.maxRetries.toNat) ∨
      result = none ∧ Transient (c.outcome last) ∧ failed.length < k.maxRetries.toNat ∧
        k.Overflows failed.length)

section Answer

theorem itemUrl_eq (id : StrategyId) :
    k.itemUrl id = k.base ++ ("/api/strategies/" ++ toString id.number ++ "/") := by
  simp [itemUrl, String.append_assoc]

theorem send_bind (method : Method) (url body : String) {α : Type}
    {next : Except StoreError Reply → Exchange α} {outcome : Delivery → α}
    (hreply : ∀ r, next (.ok r) = pure (outcome (.ok r)))
    (hloss : ∀ reason, next (.error (.network reason)) = pure (outcome (.error reason))) :
    (k.send method url body >>= next) =
      once ⟨method, url, k.token.map ("Bearer " ++ ·), body⟩ outcome := by
  refine congrArg (Dialogue.ask _) (funext fun delivery ↦ ?_)
  cases delivery with
  | error reason => exact hloss reason
  | ok r => exact hreply r

variable {c : Call}

theorem answer_of_get (hc : c.method = .get) :
    k.answer c = k.persist (once (c.request k) c.outcome) 0 k.maxRetries.toNat := by
  cases c with
  | create _ _ => cases hc
  | delete _ => cases hc
  | list =>
    have hfetch : k.fetch (Decoder.list Listing.decoder) k.listUrl none =
        once (Call.list.request k) Call.list.outcome :=
      k.send_bind .get k.listUrl "" (fun _ ↦ rfl) fun _ ↦ rfl
    exact congrArg (k.persist · 0 k.maxRetries.toNat) hfetch
  | get id =>
    have hfetch : k.fetch SavedStrategy.decoder (k.itemUrl id) (some id) =
        once ((Call.get id).request k) (Call.get id).outcome := by
      rw [itemUrl_eq]
      exact k.send_bind .get _ "" (fun _ ↦ rfl) fun _ ↦ rfl
    exact congrArg (k.persist · 0 k.maxRetries.toNat) hfetch

theorem answer_of_ne_get (hc : c.method ≠ .get) :
    k.answer c = once (c.request k) fun d ↦ some (c.outcome d) := by
  cases c with
  | list => exact absurd rfl hc
  | get _ => exact absurd rfl hc
  | create name strategy => exact k.send_bind .post k.listUrl _ (fun _ ↦ rfl) fun _ ↦ rfl
  | delete id =>
    rw [answer, itemUrl_eq]
    exact k.send_bind .delete _ "" (fun _ ↦ rfl) fun _ ↦ rfl

variable {σ : Type} (answer : (q : Question) → σ → Answer q × σ)

theorem tries_answer (hc : c.method = .get) (s : σ) :
    let course := (k.answer c).course answer s
    k.Tries (c.request k) c.outcome 0 k.maxRetries.toNat course.log course.result := by
  rw [answer_of_get k hc]
  exact k.tries_persist answer _ _ 0 _ s

theorem attempts_answer (hc : c.method = .get) (s : σ) :
    let course := (k.answer c).course answer s
    k.Attempts c (sent course.log) course.result := by
  obtain ⟨failed, last, hsent, hfailed, hleft, hbound, hend⟩ :=
    (k.tries_answer answer hc s).exists_sent (Nat.zero_le 32)
  rw [Nat.zero_add] at hbound hend
  exact ⟨failed, last, hsent, hfailed, hleft, hbound, hend⟩

theorem exists_answer_of_ne_get (hc : c.method ≠ .get) (s : σ) :
    let course := (k.answer c).course answer s
    ∃ d, course.result = some (c.outcome d) ∧ sent course.log = [(c.request k, d)] := by
  rw [answer_of_ne_get k hc]
  exact ⟨_, rfl, rfl⟩

end Answer

def slashes (n : Nat) : String :=
  .ofList (List.replicate n '/')

theorem base_connect {base : String} (hend : base.toList.getLast? ≠ some '/') (n : Nat)
    (token : Option String) (maxRetries : UInt32) :
    connect (base ++ slashes n) token maxRetries = ⟨base, token, maxRetries⟩ := by
  have hslashes : ∀ c ∈ List.replicate n '/', decide (c = '/') = true := by
    intro c hc
    exact decide_eq_true (List.eq_of_mem_replicate hc)
  have hstop : base.toList.reverse.dropWhile (· = '/') = base.toList.reverse := by
    rw [← List.head?_reverse] at hend
    cases hrest : base.toList.reverse with
    | nil => rfl
    | cons c cs =>
      rw [hrest] at hend
      exact List.dropWhile_cons_of_neg (by simpa using hend)
  rw [connect, slashes, String.toList_append, String.toList_ofList, List.reverse_append,
    List.reverse_replicate, List.dropWhile_append_of_pos hslashes, hstop, List.reverse_reverse,
    String.ofList_toList]

/-- Every call makes one request, with the credentials, behind the address without the slashes at
its end. A reading call makes it again until an attempt does not fail transiently or none are left,
and comes to what the last attempt comes to; only if what is counted does not fit 32 bits, it is
broken off before. A writing call makes it once. -/
theorem calls_reach_the_server {base : String} (hend : base.toList.getLast? ≠ some '/') (n : Nat)
    (token : Option String) (maxRetries : UInt32) {σ : Type}
    (answer : (q : Question) → σ → Answer q × σ) (s : σ) (c : Call) :
    let k := connect (base ++ slashes n) token maxRetries
    let course := (k.answer c).course answer s
    ∃ request failed last,
      request.method = c.method ∧ request.url = base ++ c.place ∧
      request.authorization = token.map ("Bearer " ++ ·) ∧
      sent course.log = (failed ++ [last]).map (fun d ↦ (request, d)) ∧
      (c.method = .get → (∀ d ∈ failed, Transient (c.outcome d)) ∧
        failed.length ≤ maxRetries.toNat ∧
        (course.result = some (c.outcome last) ∧
            (¬ Transient (c.outcome last) ∨ failed.length = maxRetries.toNat) ∨
          course.result = none ∧ Transient (c.outcome last) ∧
            failed.length < maxRetries.toNat ∧
            (failed.length = 32 ∨ maxRetries.toNat + 1 = UInt32.size))) ∧
      (c.method ≠ .get → failed = [] ∧ course.result = some (c.outcome last)) := by
  rw [base_connect hend]
  intro k course
  by_cases hc : c.method = .get
  · obtain ⟨failed, last, hsent, hfailed, hleft, -, hresult⟩ := k.attempts_answer answer hc s
    exact ⟨c.request k, failed, last, rfl, rfl, rfl, hsent, fun _ ↦ ⟨hfailed, hleft, hresult⟩,
      absurd hc⟩
  · obtain ⟨last, hresult, hsent⟩ := k.exists_answer_of_ne_get answer hc s
    exact ⟨c.request k, [], last, rfl, rfl, rfl, hsent, fun hget ↦ absurd hget hc,
      fun _ ↦ ⟨rfl, hresult⟩⟩

theorem calls_reach_the_server_behind_slashes :
    let base := "http://[::1]:8000/v1"
    let replies : List Delivery :=
      [.ok ⟨503, ""⟩, .error "timed out", .ok ⟨404, ""⟩, .ok ⟨200, ""⟩]
    let answer (q : Question) (replies : List Delivery) : Answer q × List Delivery :=
      match q with
      | .send _ => (replies.headD (.error "closed"), replies.tail)
      | .warn => (true, replies)
      | .wait _ => ((), replies)
    let c := Call.get ⟨7⟩
    let course := ((connect (base ++ slashes 2) (some "secret") 4).answer c).course answer replies
    base.toList.getLast? ≠ some '/' ∧ course.result = some (.error (.notFound ⟨7⟩)) ∧
      ∃ request failed last, request.method = .get ∧
        request.url = "http://[::1]:8000/v1/api/strategies/7/" ∧
        request.authorization = some "Bearer secret" ∧
        sent course.log = (failed ++ [last]).map (fun d ↦ (request, d)) ∧
        (∀ d ∈ failed, Transient (c.outcome d)) ∧ failed.length ≤ 4 := by
  intro base replies answer c course
  have hend : base.toList.getLast? ≠ some '/' := by decide +kernel
  have hurl : base ++ c.place = "http://[::1]:8000/v1/api/strategies/7/" := by decide +kernel
  obtain ⟨request, failed, last, hmethod, hplace, htoken, hsent, hget, -⟩ :=
    calls_reach_the_server hend 2 (some "secret") 4 answer replies c
  obtain ⟨hfailed, hlength, -⟩ := hget rfl
  exact ⟨hend, by decide +kernel, request, failed, last, hmethod, hplace.trans hurl, htoken, hsent,
    hfailed, hlength⟩

/-- A server is out of reach for 33 attempts, with one more left that it would reply to. -/
theorem list_is_broken_off_before_its_last_attempt :
    let replies : List Delivery := List.replicate 33 (.error "closed") ++ [.ok ⟨200, "[]"⟩]
    let answer (q : Question) (replies : List Delivery) : Answer q × List Delivery :=
      match q with
      | .send _ => (replies.headD (.error "closed"), replies.tail)
      | .warn => (false, replies)
      | .wait _ => ((), replies)
    let k := connect "http://localhost:8000" none 33
    let course := (k.answer .list).course answer replies
    (sent course.log).length = 33 ∧
      (∀ p ∈ sent course.log, Transient (Call.list.outcome p.2)) ∧ course.result = none ∧
      Call.list.outcome (.ok ⟨200, "[]"⟩) = .ok [] := by
  intro replies answer k course
  have hsent : (sent course.log).map Prod.snd = List.replicate 33 (.error "closed") := by
    decide +kernel
  refine ⟨?_, fun p hp ↦ ?_, by decide +kernel, by decide +kernel⟩
  · simpa using congrArg List.length hsent
  · have hmem : p.2 ∈ (sent course.log).map Prod.snd := List.mem_map_of_mem hp
    rw [hsent] at hmem
    rw [List.eq_of_mem_replicate hmem]
    rfl

end Client

end Remote

end TradingRules
