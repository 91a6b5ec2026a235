import TradingRules.Dialogue
import TradingRules.Store.Remote.Client

namespace TradingRules.Host

inductive Content
  | absent
  | unreadable
  | text (s : String)
  deriving DecidableEq

inductive Question
  | read (path : String)
  | write (path text : String)
  /-- Makes a folder and those above it. -/
  | makeFolder (path : String)
  | variable (name : String)
  | print (text : String)
  | network (q : Remote.Question)
  | now
  | newId

abbrev Answer : Question → Type
  | .read _ => Content
  | .write _ _ => Bool
  | .makeFolder _ => Bool
  | .variable _ => Option String
  | .print _ => Unit
  | .network q => Remote.Answer q
  | .now => Instant
  | .newId => String

end Host

abbrev Program (α : Type) :=
  Dialogue Host.Question Host.Answer α

namespace Program

def ask (q : Host.Question) : Program (Host.Answer q) :=
  Dialogue.question q

def printLine (s : String) : Program Unit :=
  ask (.print (s ++ "\n"))

def newId : Program String :=
  ask .newId

def exchange {α : Type} (e : Remote.Exchange α) : Program α :=
  e.run fun q ↦ ask (.network q)

end Program

end TradingRules
