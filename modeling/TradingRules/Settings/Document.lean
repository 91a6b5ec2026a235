import TradingRules.Settings.Basic

namespace TradingRules

open Decoder (Record)

def Decoder.uint64 : Decoder UInt64 := fun origin s ↦ do
  return .ofNat (← Decoder.integer 0 (UInt64.size - 1) "u64" origin s).toNat

def Decoder.uint32 : Decoder UInt32 := fun origin s ↦ do
  return .ofNat (← Decoder.integer 0 (UInt32.size - 1) "u32" origin s).toNat

def Decoder.path : Decoder String := fun _ s ↦
  match s with
  | .string (some s) => .ok s
  | s => s.refuse "path string"

namespace RemoteSettings

inductive Field
  | baseUrl
  | token
  | timeoutSeconds
  | maxRetries
  deriving DecidableEq

def Field.spellings : Field → List String
  | .baseUrl => ["base_url"]
  | .token => ["token"]
  | .timeoutSeconds => ["timeout_secs"]
  | .maxRetries => ["max_retries"]

def readField (origin : Origin) (i : Field) (v : Source) (s : RemoteSettings) :
    Except DocumentError RemoteSettings := do
  match i with
  | .baseUrl => return { s with baseUrl := ← Decoder.string origin v }
  | .token => return { s with token := ← Decoder.nullable Decoder.string origin v }
  | .timeoutSeconds => return { s with timeoutSeconds := ← Decoder.uint64 origin v }
  | .maxRetries => return { s with maxRetries := ← Decoder.uint32 origin v }

def record : Record Field RemoteSettings RemoteSettings where
  title := "struct HttpSettings"
  fields := [.baseUrl, .token, .timeoutSeconds, .maxRetries]
  spellings := Field.spellings
  start := .default
  read := readField
  finish := fun _ s ↦ .ok s

def members (s : RemoteSettings) : List (String × Json) :=
  ("base_url", .string s.baseUrl) :: (s.token.toList.map fun t ↦ ("token", .string t)) ++
    [("timeout_secs", .ofNat s.timeoutSeconds.toNat), ("max_retries", .ofNat s.maxRetries.toNat)]

end RemoteSettings

namespace LocalSettings

inductive Field
  | path
  | owner
  | backup
  deriving DecidableEq

def Field.spellings : Field → List String
  | .path => ["path"]
  | .owner => ["owner"]
  | .backup => ["json_backup"]

def readField (origin : Origin) (i : Field) (v : Source) (s : LocalSettings) :
    Except DocumentError LocalSettings := do
  match i with
  | .path => return { s with path := ← Decoder.path origin v }
  | .owner => return { s with owner := ← Decoder.string origin v }
  | .backup => return { s with backup := ← Decoder.nullable Decoder.path origin v }

def record : Record Field LocalSettings LocalSettings where
  title := "struct SqliteSettings"
  fields := [.path, .owner, .backup]
  spellings := Field.spellings
  start := .default
  read := readField
  finish := fun _ s ↦ .ok s

def members (s : LocalSettings) : List (String × Json) :=
  [("path", .string s.path), ("owner", .string s.owner)] ++
    (s.backup.toList.map fun p ↦ ("json_backup", .string p))

end LocalSettings

namespace Settings

inductive Kind
  | remote
  | localTable
  deriving DecidableEq

def Kind.names : List (String × Kind) :=
  [("http", .remote), ("sqlite", .localTable)]

def kindDecoder : Decoder Kind := fun _ s ↦
  match s with
  | .string (some name) => Decoder.variantOf Kind.names name
  | s => s.refuse "variant identifier"

/-- Reads the members of an object down to its end: the kind of the store, and the others, which
are kept for later but have to be readable. -/
def splitMembers (kind : Option Kind) (others : List (Option String × Source)) :
    List (Option String × Source) →
    Except DocumentError (Option Kind × List (Option String × Source))
  | [] => .ok (kind, others.reverse)
  | (none, _) :: _ => .error .malformed
  | (some "backend", v) :: rest =>
    match kind with
    | some _ => .error (.duplicateField "backend")
    | none => do splitMembers (some (← kindDecoder .text v)) others rest
  | (some name, v) :: rest => do
    let v ← Decoder.json .text v
    splitMembers kind ((some name, .ofJson v) :: others) rest

/-- Reads settings from what was kept. A list has to end with the last of them. -/
def readKept {ι α : Type} [DecidableEq ι] (r : Record ι α α) (kept : Source) :
    Except DocumentError α :=
  match kept with
  | .array items _ => do
    let (s, extra) ← r.readItems .value r.start r.fields items
    if extra.isEmpty then r.finish (fun i ↦ .missingField (r.name i)) s
    else .error (.wrongLength items.length s!"{r.fields.length} elements in sequence")
  | kept => r.decode .value kept

def ofKept (kind : Kind) (kept : Source) : Except DocumentError Settings :=
  match kind with
  | .remote => .remote <$> readKept RemoteSettings.record kept
  | .localTable => .localTable <$> readKept LocalSettings.record kept

/-- The settings of a store, which a member `backend` or the first item of a list tells apart. -/
def storeDecoder : Decoder Settings := fun _ s ↦
  match s with
  | .object members closed => do
    let (kind, others) ← splitMembers none [] members
    if !closed then .error .malformed
    else match kind with
      | none => .error (.missingField "backend")
      | some kind => ofKept kind (.object others true)
  | .array [] closed => .error (if closed then .missingField "backend" else .malformed)
  | .array (tag :: items) closed => do
    let kind ← kindDecoder .text tag
    let items ← Decoder.items Decoder.json .text items
    if closed then ofKept kind (.array (items.map .ofJson) true) else .error .malformed
  | .deep _ => .error .malformed
  | s => s.refuse "internally tagged enum StoreConfig"

inductive Field
  | store
  deriving DecidableEq

def record : Record Field Settings Settings where
  title := "struct Config"
  fields := [.store]
  spellings := fun _ ↦ ["store"]
  start := .default
  read := fun origin _ v _ ↦ storeDecoder origin v
  finish := fun _ s ↦ .ok s

def decoder : Decoder Settings :=
  record.decode

def toJson : Settings → Json
  | .remote s => .object [("store", .object (("backend", .string "http") :: s.members))]
  | .localTable s => .object [("store", .object (("backend", .string "sqlite") :: s.members))]

open Program (ask)

def ofFile (extra : List (String × String)) (path : String) :
    Program (Except Failure Settings) := do
  match (← ask (.read path) : Host.Content) with
  | .text s =>
    match decoder.ofText s with
    | .ok settings => return .ok (settings.override (← Program.overrides extra))
    | .error e => return .error (.context "Failed to parse config JSON" (.document e))
  | _ => return .error (.context s!"Failed to read config file {path}" .fault)

def ofEnvironment (extra : List (String × String)) : Program Settings := do
  return default.override (← Program.overrides extra)

end Settings

end TradingRules
