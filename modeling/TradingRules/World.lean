import TradingRules.Host

namespace TradingRules

abbrev Path := List String

/-- Follows a path name by name; a dot stays, two dots go back. -/
def Path.follow (p : Path) : List String → Path
  | [] => p
  | s :: rest =>
    if s = "" ∨ s = "." then follow p rest
    else if s = ".." then follow p.dropLast rest
    else follow (p ++ [s]) rest

def Path.ofText (s : String) : Path :=
  Path.follow (if s.toList.head? = some '/' then ["/"] else []) (s.splitOn "/")

/-- How requests are carried: why one cannot be sent at all, if it cannot, and what is said of one
that is not replied to. -/
structure Carrier where
  refusal : Remote.Request → Option String
  loss : Remote.Request → String
  /-- Whether warnings are written. -/
  warns : Bool

/-- A host held in memory. Programs run in it without any effect outside. -/
structure World where
  folders : List Path
  files : List (Path × String)
  environment : List (String × String)
  clock : Instant
  idAt : Nat → String
  handed : Nat
  carrier : Carrier
  /-- The replies that are still to come, the last one again and again. -/
  replies : List (Option Remote.Reply)
  printed : String
  sent : List Remote.Request

namespace World

def empty (clock : Instant) (idAt : Nat → String) (carrier : Carrier) : World :=
  ⟨[], [], [], clock, idAt, 0, carrier, [], "", []⟩

variable (w : World)

def isFolder (p : Path) : Bool :=
  p = [] || p = ["/"] || p ∈ w.folders

def read (path : String) : Host.Content :=
  if path = "" then .absent
  else if w.isFolder (Path.ofText path) then .unreadable
  else match w.files.lookup (Path.ofText path) with
    | some s => .text s
    | none => .absent

def write (path text : String) : Option World :=
  let p := Path.ofText path
  if path = "" ∨ w.isFolder p ∨ !w.isFolder p.dropLast then none
  else some { w with files := (p, text) :: w.files.filter (·.1 ≠ p) }

def foldersTo (p : Path) : List Path :=
  (List.range p.length).map fun n ↦ p.take (n + 1)

def makeFolder (path : String) : Option World :=
  let ps := foldersTo (Path.ofText path)
  if ps.any fun p ↦ (w.files.lookup p).isSome then none
  else some { w with folders := w.folders ++ ps.filter (!w.isFolder ·) }

def receive : Option Remote.Reply × World :=
  match w.replies with
  | [] => (none, w)
  | [r] => (r, w)
  | r :: rest => (r, { w with replies := rest })

def answerNetwork : (q : Remote.Question) → Remote.Answer q × World
  | .send request =>
    match w.carrier.refusal request with
    | some reason => (.error reason, w)
    | none =>
      let (reply, w) := w.receive
      let delivery : Remote.Delivery := match reply with
        | some reply => .ok reply
        | none => .error (w.carrier.loss request)
      (delivery, { w with sent := w.sent ++ [request] })
  | .warn => (w.carrier.warns, w)
  | .wait _ => ((), w)

def attempt (next : Option World) : Bool × World :=
  match next with
  | some next => (true, next)
  | none => (false, w)

def answer : (q : Host.Question) → Host.Answer q × World
  | .read path => (w.read path, w)
  | .write path text => w.attempt (w.write path text)
  | .makeFolder path => w.attempt (w.makeFolder path)
  | .variable name => (w.environment.lookup name, w)
  | .print text => ((), { w with printed := w.printed ++ text })
  | .network q => w.answerNetwork q
  | .now => (w.clock, w)
  | .newId => (w.idAt w.handed, { w with handed := w.handed + 1 })

end World

def Program.runIn {α : Type} (p : Program α) (w : World) : α × World :=
  ((p.run fun q ↦ (fun w ↦ w.answer q : StateM World (Host.Answer q))) : StateM World α).run w

end TradingRules
