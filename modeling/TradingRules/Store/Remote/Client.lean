import TradingRules.Dialogue
import TradingRules.Store.Remote.Reply

namespace TradingRules.Remote

inductive Method
  | get
  | post
  | delete
  deriving DecidableEq

def Method.name : Method → String
  | .get => "GET"
  | .post => "POST"
  | .delete => "DELETE"

structure Request where
  method : Method
  url : String
  authorization : Option String
  body : String
  deriving DecidableEq

inductive Question
  | send (request : Request)
  /-- Warns of an attempt that failed, and asks whether the warning is written. -/
  | warn
  /-- Waits for this many times the usual delay. -/
  | wait (factor : UInt32)

/-- A reply, or the reason of the network why there is none. -/
abbrev Delivery := Except String Reply

abbrev Answer : Question → Type
  | .send _ => Delivery
  | .warn => Bool
  | .wait _ => Unit

abbrev Exchange (α : Type) :=
  Dialogue Question Answer α

def ask (q : Question) : Exchange (Answer q) :=
  Dialogue.question q

structure Client where
  base : String
  token : Option String
  maxRetries : UInt32
  deriving DecidableEq

namespace Client

def connect (address : String) (token : Option String) (maxRetries : UInt32) : Client :=
  ⟨.ofList (address.toList.reverse.dropWhile (· = '/')).reverse, token, maxRetries⟩

variable (k : Client)

def listUrl : String :=
  k.base ++ "/api/strategies/"

def itemUrl (id : StrategyId) : String :=
  k.base ++ "/api/strategies/" ++ toString id.number ++ "/"

def send (method : Method) (url body : String) : Exchange (Except StoreError Reply) := do
  let delivery ← ask (.send ⟨method, url, k.token.map ("Bearer " ++ ·), body⟩)
  return delivery.mapError .network

def fetch {α : Type} (d : Decoder α) (url : String) (id : Option StrategyId) :
    Exchange (Except StoreError α) := do
  match ← k.send .get url "" with
  | .ok reply => return reply.read d id
  | .error e => return .error e

def delayMs : Nat := 1000

/-- The factor of the delay before a further attempt after so many others. It doubles each time, as
long as it fits 32 bits. -/
def delayFactor? (repeated : Nat) : Option UInt32 :=
  if Nat.pow 2 repeated < UInt32.size then some (.ofNat (Nat.pow 2 repeated)) else none

/-- The factor of the delay after a warning. One that is written says how many attempts there are,
which has to fit 32 bits, too. -/
def pause? (written : Bool) (repeated : Nat) : Option UInt32 :=
  if written ∧ UInt32.size ≤ k.maxRetries.toNat + 1 then none else delayFactor? repeated

/-- Makes attempts until one does not fail transiently or none are left. An overflow on the way
breaks the program off, so that there is no result. -/
def persist {α : Type} (attempt : Exchange (Except StoreError α)) (repeated : Nat) :
    Nat → Exchange (Option (Except StoreError α))
  | 0 => do return some (← attempt)
  | left + 1 => do
    match ← attempt with
    | .ok a => return some (.ok a)
    | .error e =>
      if e.isTransient then
        match k.pause? (← ask .warn) repeated with
        | some factor => do
          ask (.wait factor)
          persist attempt (repeated + 1) left
        | none => return none
      else return some (.error e)

def read {α : Type} (d : Decoder α) (url : String) (id : Option StrategyId) :
    Exchange (Option (Except StoreError α)) :=
  k.persist (k.fetch d url id) 0 k.maxRetries.toNat

def creation (name : String) (strategy : Strategy) : Json :=
  .object [("name", .string name), ("configuration", strategy.toJson)]

def answer : (c : Call) → Exchange (Option c.Result)
  | .create name strategy => do
    match ← k.send .post k.listUrl (creation name strategy).compact with
    | .ok reply => return some (reply.read SavedStrategy.decoder none)
    | .error e => return some (.error e)
  | .list => k.read (Decoder.list Listing.decoder) k.listUrl none
  | .get id => k.read SavedStrategy.decoder (k.itemUrl id) (some id)
  | .delete id => do
    match ← k.send .delete (k.itemUrl id) "" with
    | .ok reply =>
      return some (if reply.isSuccess then .ok () else .error (reply.refusal (some id)))
    | .error e => return some (.error e)

end Client

end TradingRules.Remote
