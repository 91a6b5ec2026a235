import TradingRules.Settings.EnvFile
import TradingRules.Store.Selected

namespace TradingRules

structure RemoteSettings where
  baseUrl : String
  token : Option String
  timeoutSeconds : UInt64
  maxRetries : UInt32
  deriving DecidableEq

def RemoteSettings.default : RemoteSettings :=
  ⟨"http://localhost:8000", none, 30, 3⟩

def RemoteSettings.client (s : RemoteSettings) : Remote.Client :=
  .connect s.baseUrl s.token s.maxRetries

structure LocalSettings where
  path : String
  owner : String
  backup : Option String
  deriving DecidableEq

def LocalSettings.default : LocalSettings :=
  ⟨"data/strategies.db", "local", none⟩

inductive Settings
  | remote (s : RemoteSettings)
  | localTable (s : LocalSettings)
  deriving DecidableEq

structure Overrides where
  path : Option String
  url : Option String
  token : Option String
  owner : Option String

namespace Settings

def default : Settings :=
  .remote .default

/-- The store that the environment selects; a path counts before an address. -/
def select (o : Overrides) (s : Settings) : Settings :=
  match o.path, o.url, s with
  | some path, _, .localTable l => .localTable { l with path := path }
  | some path, _, .remote _ => .localTable { LocalSettings.default with path := path }
  | none, some url, .remote r => .remote { r with baseUrl := url }
  | none, some url, .localTable _ => .remote { RemoteSettings.default with baseUrl := url }
  | none, none, s => s

def complete (o : Overrides) : Settings → Settings
  | .remote r => .remote { r with token := o.token.or r.token }
  | .localTable l => .localTable { l with owner := o.owner.getD l.owner }

def override (o : Overrides) (s : Settings) : Settings :=
  complete o (select o s)

end Settings

namespace Program

def overrides (extra : List (String × String)) : Program Overrides := do
  let path ← EnvFile.lookup extra "STRATEGY_DB_PATH"
  let url ← EnvFile.lookup extra "STRATEGY_API_URL"
  let token ← EnvFile.lookup extra "STRATEGY_API_TOKEN"
  let owner ← EnvFile.lookup extra "STRATEGY_OWNER"
  return ⟨path, url, token, owner⟩

end Program

inductive Failure
  | fault
  | reason (text : String)
  | context (text : String) (cause : Failure)
  deriving DecidableEq

namespace Failure

/-- The reasons in words. What the system says of its own is left out. -/
def chain : Failure → List String
  | .fault => ["<io>"]
  | .reason text => [text]
  | .context text cause => text :: cause.chain

def document (e : DocumentError) : Failure :=
  .reason e.message

def store (e : StoreError) : Failure :=
  .reason e.message

def violation (v : Violation) : Failure :=
  .reason v.message

end Failure

namespace Settings

open Program (ask)

def openStore : Settings → Program (Except Failure Store)
  | .remote r => return .ok (.remote r.client)
  | .localTable l => do
    match ← Local.openShelf l.path with
    | .ok shelf => return .ok (.localTable ⟨shelf, l.owner, l.backup⟩)
    | .error e => return .error (.context s!"Failed to open {l.path}" (.store e))

end Settings

end TradingRules
