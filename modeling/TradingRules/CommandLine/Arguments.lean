import TradingRules.Store.Basic

namespace TradingRules.CommandLine

inductive Command
  | list
  | show (id : StrategyId)
  | delete (id : StrategyId)
  | save (file name : String)
  | new (output : Option String)
  | validate (file : String)
  | schema
  deriving DecidableEq

structure Invocation where
  config : Option String
  command : Command
  deriving DecidableEq

inductive Stop
  | usage
  | help
  | version
  deriving DecidableEq

inductive Flag
  | config
  | verbose
  | help
  | version
  | name
  | output
  deriving DecidableEq

namespace Flag

def long : Flag → String
  | .config => "config"
  | .verbose => "verbose"
  | .help => "help"
  | .version => "version"
  | .name => "name"
  | .output => "output"

def short : Flag → Char
  | .config => 'c'
  | .verbose => 'v'
  | .help => 'h'
  | .version => 'V'
  | .name => 'n'
  | .output => 'o'

def takesValue : Flag → Bool
  | .config | .name | .output => true
  | _ => false

def accepts (f : Flag) (value : String) : Bool :=
  f = .name || value ≠ ""

end Flag

/-- The commands before their operands are known. -/
inductive Verb
  | list
  | show
  | delete
  | save
  | new
  | validate
  | schema
  deriving DecidableEq

namespace Verb

def names : List (String × Verb) :=
  [("list", .list), ("show", .show), ("delete", .delete), ("save", .save), ("new", .new),
    ("validate", .validate), ("schema", .schema)]

def flags : Verb → List Flag
  | .save => [.config, .verbose, .help, .name]
  | .new => [.config, .verbose, .help, .output]
  | _ => [.config, .verbose, .help]

def takesNumber : Verb → Bool
  | .show | .delete => true
  | _ => false

def operands : Verb → Nat
  | .show | .delete | .save | .validate => 1
  | _ => 0

end Verb

def number? (s : String) : Option StrategyId := do
  let n ← Binary64.signedDigits? s.toList
  if StrategyId.least ≤ n ∧ n ≤ StrategyId.greatest then some ⟨n⟩ else none

structure Words where
  flags : List (Flag × String)
  operands : List String

namespace Words

def empty : Words :=
  ⟨[], []⟩

def value? (w : Words) (f : Flag) : Option String :=
  w.flags.lookup f

def addFlag (w : Words) (f : Flag) (value : String) : Except Stop Words :=
  if f = .help then .error .help
  else if f = .version then .error .version
  else if (w.value? f).isSome then .error .usage
  else if f.takesValue && !f.accepts value then .error .usage
  else .ok { w with flags := (f, value) :: w.flags }

def addOperand (w : Words) (v : Verb) (s : String) : Except Stop Words :=
  if v.operands ≤ w.operands.length then .error .usage
  else if v.takesNumber then
    if (number? s).isSome then .ok { w with operands := w.operands ++ [s] } else .error .usage
  else if s = "" then .error .usage
  else .ok { w with operands := w.operands ++ [s] }

end Words

def isPlain (s : String) : Bool :=
  s = "-" || s.toList.head? ≠ some '-'

def nextValue : List String → Except Stop (String × List String)
  | s :: rest => if isPlain s then .ok (s, rest) else .error .usage
  | [] => .error .usage

def findFlag (known : List Flag) (p : Flag → Bool) : Except Stop Flag :=
  match known.find? p with
  | some f => .ok f
  | none => .error .usage

def readLong (known : List Flag) (w : Words) (cs : List Char) (rest : List String) :
    Except Stop (Words × List String) := do
  let name := cs.takeWhile (· ≠ '=')
  let f ← findFlag known (·.long.toList = name)
  match cs.dropWhile (· ≠ '='), f.takesValue with
  | [], false => return (← w.addFlag f "", rest)
  | [], true =>
    let (value, rest) ← nextValue rest
    return (← w.addFlag f value, rest)
  | _ :: value, true => return (← w.addFlag f (.ofList value), rest)
  | _ :: _, false => .error .usage

def readShort (known : List Flag) (w : Words) (rest : List String) :
    List Char → Except Stop (Words × List String)
  | [] => .ok (w, rest)
  | c :: cs => do
    let f ← findFlag known (·.short = c)
    if !f.takesValue then readShort known (← w.addFlag f "") rest cs
    else match cs with
      | [] =>
        let (value, rest) ← nextValue rest
        return (← w.addFlag f value, rest)
      | '=' :: value => return (← w.addFlag f (.ofList value), rest)
      | value => return (← w.addFlag f (.ofList value), rest)

/-- The parts of a word that begins with a dash. -/
def readOption (known : List Flag) (w : Words) (s : String) (rest : List String) :
    Except Stop (Words × List String) :=
  match s.toList with
  | '-' :: '-' :: cs => readLong known w cs rest
  | cs => readShort known w rest cs.tail

def readCommand (v : Verb) (w : Words) : Nat → List String → Except Stop Words
  | 0, _ => .error .usage
  | _, [] => .ok w
  | fuel + 1, s :: rest =>
    if s = "--" then rest.foldlM (·.addOperand v ·) w
    else if isPlain s then do readCommand v (← w.addOperand v s) fuel rest
    else do
      let (w, rest) ← readOption v.flags w s rest
      readCommand v w fuel rest

def command? (v : Verb) (w : Words) : Option Command :=
  match v, w.operands with
  | .list, _ => some .list
  | .show, [s] => (number? s).map .show
  | .delete, [s] => (number? s).map .delete
  | .save, [file] => (w.value? .name).map (.save file)
  | .new, _ => some (.new (w.value? .output))
  | .validate, [file] => some (.validate file)
  | .schema, _ => some .schema
  | _, _ => none

def helpOn : List String → Stop
  | [] => .help
  | [s] => if (Verb.names.lookup s).isSome ∨ s = "help" then .help else .usage
  | _ => .usage

def readWords (w : Words) : Nat → List String → Except Stop Invocation
  | 0, _ => .error .usage
  | _, [] => .error .usage
  | fuel + 1, s :: rest =>
    if s = "help" then .error (helpOn rest)
    else match Verb.names.lookup s with
      | some v => do
        let inner ← readCommand v .empty (rest.length + 1) rest
        match command? v inner with
        | some c => return ⟨(inner.value? .config).or (w.value? .config), c⟩
        | none => .error .usage
      | none =>
        if isPlain s ∨ s = "--" then .error .usage
        else do
          let (w, rest) ← readOption [.config, .verbose, .help, .version] w s rest
          readWords w fuel rest

def parse (arguments : List String) : Except Stop Invocation :=
  readWords .empty (arguments.length + 1) arguments

end TradingRules.CommandLine
