import TradingRules.Store.Local
import TradingRules.Workbench

namespace TradingRules

open Workbench (Session)

def Local.reply : (q : Workbench.Question) → StateT Local Program (Workbench.Answer q)
  | .call c => fun l ↦ l.answer c
  | .newId => fun l ↦ do return (← Program.newId, l)

def Local.hold {α : Type} (l : Local) (session : Session α) : Program (α × Local) :=
  (session.run reply).run l

def Remote.Client.reply (k : Client) :
    (q : Workbench.Question) → OptionT Program (Workbench.Answer q)
  | .call c => OptionT.mk (Program.exchange (k.answer c))
  | .newId => OptionT.lift Program.newId

def Remote.Client.hold {α : Type} (k : Client) (session : Session α) : OptionT Program α :=
  session.run k.reply

inductive Store
  | remote (client : Remote.Client)
  | localTable (l : Local)

namespace Store

def description : Store → String
  | .remote client => s!"http store at {client.base}"
  | .localTable l => s!"sqlite store for {l.owner}"

/-- Holds a session with the store in use, unless the program is broken off. -/
def hold {α : Type} (s : Store) (session : Session α) : OptionT Program (α × Store) :=
  match s with
  | .remote client => do return (← client.hold session, .remote client)
  | .localTable l => do
    let (a, l) ← OptionT.lift (l.hold session)
    return (a, .localTable l)

end Store

end TradingRules
