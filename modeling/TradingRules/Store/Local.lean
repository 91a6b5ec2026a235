import TradingRules.Host
import TradingRules.Store.File

namespace TradingRules

/-- Where a table is kept. A table may have been dropped. -/
inductive Shelf
  | file (path : String)
  | memory (t : Option Table)
  deriving DecidableEq

structure Local where
  shelf : Shelf
  owner : String
  backup : Option String
  deriving DecidableEq

namespace Local

open Program (ask)

def folderOf (path : String) : String :=
  .ofList (path.toList.reverse.dropWhile (· ≠ '/')).reverse

def write (path text : String) : Program Bool :=
  ask (.write path text)

/-- Opens the table in a file, which is made if there is none. The empty path and the path
`:memory:` stand for a new table in memory. -/
def openShelf (path : String) : Program (Except StoreError Shelf) := do
  if path = "" ∨ path = ":memory:" then return .ok (.memory (some .empty))
  else if !(← ask (.makeFolder (folderOf path))) then return .error .storage
  else
    let create : Program (Except StoreError Shelf) := do
      if ← write path (Table.fileText (some .empty)) then return .ok (.file path)
      else return .error .storage
    match (← ask (.read path) : Host.Content) with
    | .absent => create
    | .unreadable => return .error .storage
    | .text s =>
      match Table.ofFileText? s with
      | none => return .error .storage
      | some none => create
      | some (some _) => return .ok (.file path)

variable (l : Local)

def table? : Program (Option Table) := do
  match l.shelf with
  | .memory t => return t
  | .file path =>
    match (← ask (.read path) : Host.Content) with
    | .text s => return (Table.ofFileText? s).join
    | _ => return none

def put (t : Option Table) : Program (Bool × Local) := do
  match l.shelf with
  | .memory _ => return (true, { l with shelf := .memory t })
  | .file path => return (← write path (Table.fileText t), l)

def backupJson (owner : String) (now : Instant) (strategies : List SavedStrategy) : Json :=
  Json.sorted (.object [("exported_at", .string now.rowText), ("owner", .string owner),
    ("strategies", .array (strategies.map (·.toJson)))])

/-- Writes the backup, unless a strategy of the owner cannot be read. -/
def backUp (t : Table) : Program Unit := do
  match l.backup, t.exportable l.owner with
  | some path, .ok strategies =>
    let strategies ← strategies.mapM (·.identify Program.newId)
    let now : Instant ← ask .now
    if ← ask (.makeFolder (folderOf path)) then
      discard (write path (backupJson l.owner now strategies).indented)
  | _, _ => return

def answer (c : Call) : Program (c.Result × Local) := do
  match ← l.table? with
  | none => return (c.fail .storage, l)
  | some t =>
    let now : Instant ← ask .now
    let (result, t') := t.answer l.owner now c
    if t' = t then return (result, l)
    else
      let (written, l) ← l.put (some t')
      if !written then return (c.fail .storage, l)
      else
        l.backUp t'
        return (result, l)

end Local

end TradingRules
