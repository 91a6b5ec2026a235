import TradingRules.CommandLine.Arguments
import TradingRules.Condition.Crosses
import TradingRules.Settings.Document

namespace TradingRules.CommandLine

open Program (ask printLine)

/-- What a command does: it may fail, and the program may be broken off. -/
abbrev Action (α : Type) :=
  ExceptT Failure (OptionT Program) α

def lift {α : Type} (p : Program α) : Action α :=
  ExceptT.lift (OptionT.lift p)

def line (s : String) : Action Unit :=
  lift (printLine s)

def fail {α : Type} (f : Failure) : Action α :=
  throw f

def padded (width : Nat) (s : String) : String :=
  s ++ .ofList (.replicate (width - s.length) ' ')

def readDraft (file : String) : Action Strategy := do
  match (← lift (ask (.read file)) : Host.Content) with
  | .text s =>
    match Strategy.decoder.ofText s with
    | .ok draft => lift (draft.identify Program.newId)
    | .error e => fail (.context s!"Failed to parse draft {file}" (.document e))
  | _ => fail (.context s!"Failed to read draft {file}" .fault)

def newDraft (output : Option String) : Action Unit := do
  let draft := Strategy.initial (← lift Program.newId)
  let text := draft.toJson.indented
  match output with
  | none => line text
  | some path =>
    if ← lift (Local.write path text) then return
    else fail (.context s!"Failed to write {path}" .fault)

def validate (file : String) : Action Unit := do
  let draft ← readDraft file
  line draft.text
  match draft.check with
  | .ok _ => line "OK: ready for backtest"
  | .error v => fail (.context s!"{file} is not ready for backtest" (.violation v))

def indicatorLine (i : Indicator) : String :=
  let parameters := i.schema.map fun p ↦ s!"{p.1.name}={p.2}"
  s!"  {padded 16 i.name} {padded 16 i.label} " ++ ", ".intercalate parameters

def operatorLine (o : Operator) : String :=
  s!"  {padded 16 o.name} {padded 14 o.symbol} {o.shape.name}"

def presetLine (p : ExitPreset) : String :=
  s!"  {padded 18 p.label} {padded 44 p.description} {p.exit.toJson.compact}"

def schemaLines : List String :=
  "Indicators:" :: Indicator.all.map indicatorLine ++
  "\nOperators:" :: Operator.all.map operatorLine ++
  "\nExit presets:" :: ExitPreset.all.map presetLine ++
  "\nCommon crosses:" :: Crossing.common.map fun c ↦ s!"  {c.label}"

abbrev Bench := Workbench × Store

def hold {α : Type} (s : Store) (session : Workbench.Session (α × Workbench)) :
    Action (α × Bench) := do
  let ((a, w), s) ← ExceptT.lift (s.hold session)
  return (a, w, s)

def list (b : Bench) : Action Unit := do
  let (fetched, b) ← hold b.2 b.1.fetch
  match fetched with
  | .error e => fail (.context "Failed to fetch saved strategies" (.store e))
  | .ok _ =>
    if b.1.saved = [] then line "No saved strategies"
    else do
      line "    ID  NAME"
      b.1.saved.forM fun l ↦ line s!"{l.id.number}  {l.name}"

def showStrategy (id : StrategyId) (b : Bench) : Action Unit := do
  match ← hold b.2 (b.1.load id) with
  | (none, _) => fail (.reason s!"Strategy {id.number} could not be loaded")
  | (some saved, b) => do
    line s!"{saved.name} (#{saved.id.number})"
    line b.1.draft.text
    match b.1.draft.check with
    | .ok _ => line "Ready for backtest"
    | .error v => line s!"Not ready for backtest: {v.message}"
    line b.1.draft.toJson.indented

def notRefreshed (e : StoreError) : Action Unit :=
  line s!"Strategy list could not be refreshed: {e.placedMessage}"

def delete (id : StrategyId) (b : Bench) : Action Unit := do
  match ← hold b.2 (b.1.delete id) with
  | (.error e, _) => fail (.reason e.message)
  | (.ok none, _) => fail (.reason s!"Strategy id must be a positive number, got {id.number}")
  | (.ok (some report), b) => do
    line s!"Deleted strategy {report.id.number}"
    match report.refreshError with
    | some e => notRefreshed e
    | none => line s!"{b.1.saved.length} saved strategies remain"

def save (file name : String) (b : Bench) : Action Unit := do
  let draft ← readDraft file
  let (_, w, s) ← hold b.2 b.1.fetch
  match w.importDraft draft with
  | .error v =>
    fail (.context s!"{file} holds values the builder does not accept" (.violation v))
  | .ok w =>
    match ← hold s (w.save name) with
    | (.error e, _) => fail (.reason e.message)
    | (.ok report, _) => do
      line s!"Saved '{report.strategy.name}' as #{report.strategy.id.number}"
      match report.refreshError with
      | some e => notRefreshed e
      | none => return

def openBench (config : Option String) : Action Bench := do
  let extra ← lift EnvFile.load
  let settings ← match config with
    | some path => do
      match ← lift (Settings.ofFile extra path) with
      | .ok settings => pure settings
      | .error f => fail (.context s!"Failed to load config from {path}" f)
    | none => lift (Settings.ofEnvironment extra)
  let store ← ExceptT.mk (OptionT.lift settings.openStore)
  ExceptT.lift (store.hold Workbench.new)

def action (config : Option String) : Command → Action Unit
  | .list => do list (← openBench config)
  | .show id => do showStrategy id (← openBench config)
  | .delete id => do delete id (← openBench config)
  | .save file name => do save file name (← openBench config)
  | .new output => newDraft output
  | .validate file => validate file
  | .schema => schemaLines.forM line

/-- The result of a command, unless the program is broken off. -/
def Command.run (config : Option String) (c : Command) : Program (Option (Except Failure Unit)) :=
  (action config c).run.run

structure Outcome where
  code : Nat
  reasons : Option (List String)
  deriving DecidableEq

def Outcome.ofResult : Option (Except Failure Unit) → Outcome
  | some (.ok _) => ⟨0, none⟩
  | some (.error f) => ⟨1, some f.chain⟩
  | none => ⟨101, none⟩

def run (arguments : List String) : Program Outcome := do
  match parse arguments with
  | .error .usage => return ⟨2, none⟩
  | .error .help => return ⟨0, none⟩
  | .error .version => do
    printLine "strategy-builder 0.1.0"
    return ⟨0, none⟩
  | .ok invocation => do
    if ← ask (.makeFolder "logs") then
      return .ofResult (← invocation.command.run invocation.config)
    else return .ofResult (some (.error .fault))

end TradingRules.CommandLine
