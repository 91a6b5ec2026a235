import TradingRules.Store.Basic

namespace TradingRules.Remote

structure Reply where
  status : Nat
  body : String
  deriving DecidableEq

def nonBlank? (s : String) : Option String :=
  let trimmed := Text.trim s
  if trimmed = "" then none else some trimmed

def firstString? (v : Json) : Option String := do
  (← v.array?).findSome? Json.string?

def fieldText? (v : Json) (name : String) : Option String := do
  nonBlank? (← (← v.member? name).string?)

def listText? (v : Json) : Option String := do
  nonBlank? (← firstString? v)

/-- The explanation in an answer: of an object the texts under the usual names, then the complaints
about no field in particular, then those about the first field that has any. -/
def explanation? (v : Json) : Option String :=
  match v with
  | .string s => nonBlank? s
  | .array items => items.findSome? fun v ↦ v.string?.bind nonBlank?
  | .object members =>
    (["detail", "error", "message"].findSome? (fieldText? v)).or
      (((v.member? "non_field_errors").bind listText?).or
        (members.findSome? fun (name, v) ↦ (listText? v).map fun text ↦ name ++ ": " ++ text))
  | _ => none

def occurs (part : List Char) : List Char → Bool
  | [] => part.isEmpty
  | c :: rest => part.isPrefixOf (c :: rest) || occurs part rest

def isNameCollision (v : Json) : Bool :=
  match (v.member? "name").bind firstString? with
  | some s =>
    let text := (Text.lowerCase s).toList
    occurs ['e', 'x', 'i', 's', 't'] text || occurs ['u', 'n', 'i', 'q', 'u', 'e'] text
  | none => false

def dropByteOrderMark (s : String) : String :=
  match s.toList with
  | c :: rest => if c.toNat = 0xFEFF then .ofList rest else s
  | [] => s

/-- The text of a reply. Some replies have no body, whatever is sent with them. -/
def Reply.text (r : Reply) : String :=
  if r.status = 204 ∨ r.status = 304 then "" else dropByteOrderMark r.body

def Reply.isSuccess (r : Reply) : Bool :=
  200 ≤ r.status && r.status < 300

def Reply.refusal (r : Reply) (id : Option StrategyId) : StoreError :=
  let answer := Json.parse? r.text
  let message := (answer.bind explanation?).getD StoreError.generic
  let rejected := StoreError.rejected r.status message
  if r.status = 404 then match id with
    | some id => .notFound id
    | none => rejected
  else if r.status = 401 ∨ r.status = 403 then .unauthorized message
  else if r.status = 409 then .conflict message
  else if (answer.map isNameCollision).getD false then .conflict message
  else rejected

def Reply.read {α : Type} (d : Decoder α) (id : Option StrategyId) (r : Reply) :
    Except StoreError α :=
  if r.isSuccess then
    (d.ofText r.text).mapError fun e ↦ .unreadableReply e (Json.listFault? r.text)
  else .error (r.refusal id)

end TradingRules.Remote
