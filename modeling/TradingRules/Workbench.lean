import TradingRules.Condition.Edit
import TradingRules.Dialogue
import TradingRules.Store.Basic

namespace TradingRules

structure Workbench where
  draft : Strategy
  saved : List Listing
  loaded : Option StrategyId
  deriving DecidableEq

namespace Workbench

inductive Question
  | call (c : Call)
  | newId

abbrev Answer : Question → Type
  | .call c => c.Result
  | .newId => String

abbrev Session (α : Type) :=
  Dialogue Question Answer α

def call (c : Call) : Session c.Result :=
  Dialogue.question (Question.call c)

def newId : Session String :=
  Dialogue.question Question.newId

inductive Refusal
  | violation (v : Violation)
  | duplicateName (name : String)
  | store (e : StoreError)
  deriving DecidableEq

def Refusal.message : Refusal → String
  | .violation v => v.message
  | .duplicateName name => "A strategy named \"" ++ name ++ "\" already exists."
  | .store e => e.message

def Refusal.isLocal : Refusal → Bool
  | .store _ => false
  | _ => true

/-- A saved draft, and why the list is not up to date, if it is not. -/
structure SaveReport where
  strategy : SavedStrategy
  refreshError : Option StoreError

structure DeleteReport where
  id : StrategyId
  refreshError : Option StoreError

def new : Session Workbench := do
  return ⟨.initial (← newId), [], none⟩

variable (w : Workbench)

def condition? (id : String) : Option Condition :=
  w.draft.conditions.find? (·.id = id)

def setConnective (c : Connective) : Workbench :=
  { w with draft.connective := c }

def setDirection (d : Direction) : Workbench :=
  { w with draft.direction := d }

def setExit (e : Exit) : Except Violation Workbench := do
  e.check
  return { w with draft.exit := e }

def applyPreset (p : ExitPreset) : Workbench :=
  { w with draft.exit := p.exit }

def setExitKind (k : ExitKind) : Workbench :=
  { w with draft.exit := w.draft.exit.withKind k }

def push (c : Condition) : Workbench :=
  { w with draft.conditions := w.draft.conditions ++ [c] }

def add (r : Rule) : Session (String × Workbench) := do
  let id ← newId
  return (id, w.push ⟨id, r⟩)

def editFirst (id : String) (e : Edit) :
    List Condition → Except Violation (Option (List Condition))
  | [] => .ok none
  | c :: rest =>
    if c.id = id then do return some ((← c.edit e) :: rest)
    else do return (← editFirst id e rest).map (c :: ·)

def update (id : String) (e : Edit) : Except Violation (Option Workbench) := do
  return (← editFirst id e w.draft.conditions).map fun cs ↦ { w with draft.conditions := cs }

/-- Drops the conditions with an identity and says whether there were any. -/
def remove (id : String) : Bool × Workbench :=
  let kept := w.draft.conditions.filter (·.id ≠ id)
  (kept.length ≠ w.draft.conditions.length, { w with draft.conditions := kept })

def reset : Session Workbench := do
  return { w with draft := .initial (← newId), loaded := none }

/-- Checks what the editor itself would have refused. -/
def checkImport (s : Strategy) : Except Violation Unit := do
  s.conditions.forM fun c ↦ Strategy.checkSeries c.rule
  s.exit.check

def importDraft (s : Strategy) : Except Violation Workbench := do
  checkImport s
  return { w with draft := s, loaded := none }

/-- Asks the store for the list; on failure the old one is kept. -/
def fetch : Session (Except StoreError Unit × Workbench) := do
  match ← call .list with
  | .ok saved => return (.ok (), { w with saved := saved })
  | .error e => return (.error e, w)

def errorOf {ε α : Type} : Except ε α → Option ε
  | .error e => some e
  | .ok _ => none

def hasName (name : String) : Bool :=
  w.saved.any fun l ↦ Text.lowerCase l.name = Text.lowerCase name

def save (name : String) : Session (Except Refusal SaveReport × Workbench) := do
  let name := Text.trim name
  if name = "" ∨ w.draft.conditions = [] then
    return (.error (.violation .missingNameOrConditions), w)
  else if w.hasName name then return (.error (.duplicateName name), w)
  else match ← call (.create name w.draft) with
    | .error e => return (.error (.store e), w)
    | .ok saved =>
      let strategy ← saved.identify newId
      let (refreshed, w) ← { w with loaded := some strategy.id }.fetch
      return (.ok ⟨strategy, errorOf refreshed⟩, w)

/-- Makes a saved strategy the draft; on failure nothing changes. -/
def load (id : StrategyId) : Session (Option SavedStrategy × Workbench) := do
  match ← call (.get id) with
  | .error _ => return (none, w)
  | .ok saved =>
    let strategy ← saved.identify newId
    return (some strategy, { w with draft := strategy.strategy, loaded := some strategy.id })

/-- Deletes a saved strategy, asks for the list again and begins a new draft, whether or not the
store deleted it. A number that is not set does nothing. -/
def delete (id : StrategyId) : Session (Except Refusal (Option DeleteReport) × Workbench) := do
  if !id.isSet then return (.ok none, w)
  else
    let deleted ← call (.delete id)
    let (refreshed, w) ← w.fetch
    let w ← w.reset
    match deleted with
    | .ok _ => return (.ok (some ⟨id, errorOf refreshed⟩), w)
    | .error e => return (.error (.store e), w)

end Workbench

end TradingRules
