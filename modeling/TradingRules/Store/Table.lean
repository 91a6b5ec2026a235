import TradingRules.Store.Basic

namespace TradingRules

structure Row where
  id : Nat
  owner : String
  name : String
  configuration : String
  createdAt : String
  updatedAt : String
  deriving DecidableEq

namespace Row

def strategyId (r : Row) : StrategyId :=
  ⟨r.id⟩

def listing (r : Row) : Listing :=
  ⟨r.strategyId, r.name⟩

/-- The strategy of a row, if its configuration can be read. A time that cannot be read is as good
as absent. -/
def saved (r : Row) : Except StoreError (SavedStrategy (Option String)) :=
  match Strategy.decoder.ofText r.configuration with
  | .ok strategy => .ok ⟨r.strategyId, r.name, strategy, (Time.readStored r.createdAt).toOption,
      (Time.readStored r.updatedAt).toOption⟩
  | .error e => .error (.unreadableRow r.strategyId e)

end Row

/-- Equality of names up to the case of ASCII letters. What follows a NUL only counts by its
size. -/
def sameName (a b : String) : Bool :=
  let start := fun s : String ↦ (s.toList.takeWhile (·.toNat ≠ 0)).map Char.toLower
  a.utf8ByteSize = b.utf8ByteSize && start a = start b

/-- The rows in ascending order of their numbers, and the last number that was given out. -/
structure Table where
  rows : List Row
  lastId : Nat
  deriving DecidableEq

namespace Table

def empty : Table :=
  ⟨[], 0⟩

def of (t : Table) (owner : String) : List Row :=
  t.rows.filter (·.owner = owner)

def hasName (t : Table) (owner name : String) : Bool :=
  (t.of owner).any fun r ↦ sameName r.name name

def find? (t : Table) (owner : String) (id : StrategyId) : Option Row :=
  (t.of owner).find? (·.strategyId = id)

def push (t : Table) (owner name configuration createdAt updatedAt : String) : Table :=
  ⟨t.rows ++ [⟨t.lastId + 1, owner, name, configuration, createdAt, updatedAt⟩], t.lastId + 1⟩

def insert? (t : Table) (owner name configuration createdAt updatedAt : String) : Option Table :=
  if t.hasName owner name then none
  else some (t.push owner name configuration createdAt updatedAt)

def erase (t : Table) (owner : String) (id : StrategyId) : Table :=
  { t with rows := t.rows.filter fun r ↦ !(r.owner = owner && r.strategyId = id) }

def answer (owner : String) (now : Instant) (t : Table) : (c : Call) → c.Result × Table
  | .create name strategy =>
    match t.insert? owner name strategy.toJson.compact now.rowText now.rowText with
    | some t' => (.ok ⟨⟨t'.lastId⟩, name, strategy.stored, some now, some now⟩, t')
    | none => (.error (.conflict (conflictMessage name)), t)
  | .list => (.ok ((t.of owner).map (·.listing)), t)
  | .get id =>
    match t.find? owner id with
    | some r => (r.saved, t)
    | none => (.error (.notFound id), t)
  | .delete id =>
    if (t.find? owner id).isSome then (.ok (), t.erase owner id) else (.error (.notFound id), t)
where
  conflictMessage (name : String) : String :=
    "A strategy named \"" ++ name ++ "\" already exists."

def exportable (t : Table) (owner : String) :
    Except StoreError (List (SavedStrategy (Option String))) :=
  (t.of owner).mapM (·.saved)

end Table

end TradingRules
