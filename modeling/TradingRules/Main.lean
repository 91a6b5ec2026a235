import Std.Time
import TradingRules.CommandLine.Run

namespace TradingRules.Host

def readFile (path : String) : IO Content := do
  try
    return .text (← IO.FS.readFile path)
  catch
    | .noFileOrDirectory _ _ _ => return .absent
    | _ => return .unreadable

def succeeds (act : IO Unit) : IO Bool := do
  try
    act
    return true
  catch _ => return false

def clock : IO Instant := do
  let t := (← Std.Time.Timestamp.now).val
  return ⟨t.second.val, t.nano.val.toNat⟩

def hexDigits (b : UInt8) : List Char :=
  [Nat.digitChar (b.toNat / 16), Nat.digitChar (b.toNat % 16)]

def randomId : IO String := do
  let bytes := (← IO.getRandomBytes 16).toList
  let marked := (bytes.modify 6 fun b ↦ 0x40 + b % 16).modify 8 fun b ↦ 0x80 + b % 64
  return .ofList (marked.flatMap hexDigits)

/-- There is no connection to a network, so that a store on a server is out of reach. -/
def answerNetwork : (q : Remote.Question) → IO (Remote.Answer q)
  | .send request => return .error s!"error sending request for url ({request.url})"
  | .warn => return true
  | .wait factor => IO.sleep (factor.toNat * Remote.Client.delayMs).toUInt32

def answer : (q : Question) → IO (Answer q)
  | .read path => readFile path
  | .write path text => succeeds (IO.FS.writeFile path text)
  | .makeFolder path => if path = "" then return true else succeeds (IO.FS.createDirAll path)
  | .variable name => IO.getEnv name
  | .print text => IO.print text
  | .network q => answerNetwork q
  | .now => clock
  | .newId => randomId

def runCommandLine (arguments : List String) : IO UInt32 := do
  let outcome ← (CommandLine.run arguments).run answer
  match outcome.reasons with
  | some reasons => IO.eprintln ("Error: " ++ "\nCaused by: ".intercalate reasons)
  | none =>
    if outcome.code ≠ 0 then
      IO.eprintln ("Usage: strategy-builder [-c FILE] [-v] COMMAND, where COMMAND is one of " ++
        ", ".intercalate (CommandLine.Verb.names.map (·.1)))
  return outcome.code.toUInt32

end TradingRules.Host

def main (arguments : List String) : IO UInt32 :=
  TradingRules.Host.runCommandLine arguments
