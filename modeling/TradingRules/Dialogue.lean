namespace TradingRules

inductive Dialogue (Q : Type) (A : Q → Type) (α : Type)
  | done (a : α)
  | ask (q : Q) (next : A q → Dialogue Q A α)

namespace Dialogue

variable {Q : Type} {A : Q → Type} {α β : Type} {m : Type → Type}

def bind : Dialogue Q A α → (α → Dialogue Q A β) → Dialogue Q A β
  | .done a, f => f a
  | .ask q next, f => .ask q fun r ↦ (next r).bind f

instance : Monad (Dialogue Q A) where
  pure := .done
  bind := bind

def question (q : Q) : Dialogue Q A (A q) :=
  .ask q .done

def run [Monad m] (answer : (q : Q) → m (A q)) : Dialogue Q A α → m α
  | .done a => pure a
  | .ask q next => do (next (← answer q)).run answer

end Dialogue

end TradingRules
