import TradingRules.Json.Place
import TradingRules.Strategy.Document

namespace TradingRules

inductive StoreError
  | notFound (id : StrategyId)
  | conflict (message : String)
  | unauthorized (message : String)
  /-- Any other refusal, with the status of the reply. -/
  | rejected (status : Nat) (message : String)
  /-- The network brought no reply, for a reason of its own. -/
  | network (reason : String)
  /-- An answer that cannot be read, and how it fails to begin with a list if it does. -/
  | unreadableReply (cause : DocumentError) (fault : Option Json.ListFault)
  | unreadableRow (id : StrategyId) (cause : DocumentError)
  | storage
  deriving DecidableEq

namespace StoreError

def unreadable (text : String) : String :=
  "Invalid response from store: " ++ text

def message : StoreError → String
  | .notFound id => s!"Strategy {id.number} not found"
  | .conflict message => message
  | .unauthorized message => s!"Not authorized: {message}"
  | .rejected _ message => message
  | .network reason => s!"Network error: {reason}"
  | .unreadableReply cause _ => unreadable cause.message
  | .unreadableRow id cause =>
    unreadable s!"strategy {id.number} has an unreadable configuration: {cause.message}"
  | .storage => "<storage>"

def placedMessage (e : StoreError) : String :=
  match e with
  | .unreadableReply cause (some fault) =>
    unreadable (fault.misfit.text?.getD cause.message) ++ fault.place.text
  | e => e.message

def isTransient : StoreError → Bool
  | .network _ => true
  | .rejected status _ => 500 ≤ status
  | _ => false

/-- What is said when a store refuses without a reason. -/
def generic : String :=
  "Something went wrong. Please try again."

end StoreError

inductive Call
  | create (name : String) (strategy : Strategy)
  | list
  | get (id : StrategyId)
  | delete (id : StrategyId)
  deriving DecidableEq

abbrev Call.Reply : Call → Type
  | .create _ _ => SavedStrategy (Option String)
  | .list => List Listing
  | .get _ => SavedStrategy (Option String)
  | .delete _ => Unit

abbrev Call.Result (c : Call) : Type :=
  Except StoreError c.Reply

def Call.fail (c : Call) (e : StoreError) : c.Result :=
  .error e

end TradingRules
