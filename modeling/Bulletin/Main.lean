import Bulletin.Host.CommandLine
import Bulletin.Host.Log

/-!
# The command line

Gathers what is around the process, runs what the arguments ask for, and writes how the run ends.
Pages of help are left out: in the place of one stands the usage line.
-/

namespace Bulletin

namespace Host

/-- What a path leads to. Whatever is there and cannot be read counts as a folder. -/
def readEntry (path : String) : IO PathEntry := do
  try
    return .file (← IO.FS.readBinFile path).toList
  catch
    | .noFileOrDirectory _ _ _ => return .missing
    | _ => return .folder

/-- The name and the value of a variable as the system keeps it. -/
def splitVariable (entry : List UInt8) : Option (String × String) :=
  let name := entry.takeWhile (· != 61)
  match decodeUtf8 name, decodeUtf8 (entry.drop (name.length + 1)) with
  | .ok n, .ok v => if n.isEmpty then none else some (String.ofList n, String.ofList v)
  | _, _ => none

/-- The entries of a block in which each is followed by a zero. -/
def splitBlock : List UInt8 → List UInt8 × List (List UInt8)
  | [] => ([], [])
  | b :: rest =>
    let (first, others) := splitBlock rest
    if b = 0 then ([], first :: others) else (b :: first, others)

def readVariables : IO Variables := do
  match ← readEntry "/proc/self/environ" with
  | .file octets =>
    let (first, others) := splitBlock octets
    return (first :: others).filterMap splitVariable
  | _ => return []

/-- All that is around the process and that a command line can use. -/
def readSurroundings (request : Request) : IO Surroundings := do
  let environment ← readVariables
  let folder := (← IO.currentDir).toString
  let home := (environment.lookup "HOME").getD folder
  let projectSettings := folder ++ "/notifycard.yaml"
  let userSettings := home ++ "/.config/notifycard/config.yaml"
  let variablesFile := folder ++ "/.env"
  let paths := projectSettings :: userSettings :: variablesFile :: request.paths
  let entries ← paths.mapM fun path => do return (path, ← readEntry path)
  return ⟨environment, fun path => (entries.lookup path).getD .missing, projectSettings,
    userSettings, variablesFile⟩

def writeOutcome (outcome : Outcome) : IO Unit := do
  for line in (outcome.journal?.map logLines).getD [] do
    IO.eprintln line.text
  match outcome.output with
  | .text s => IO.print s
  | .page => IO.print usage
  IO.eprint outcome.diagnostics

end Host

end Bulletin

open Bulletin Bulletin.Host in
/-- Runs the command line and gives its exit code. -/
def main (arguments : List String) : IO UInt32 := do
  let request := Request.ofArguments arguments
  let surroundings ← readSurroundings request
  let input ←
    if request.readsInput then (do return (← (← IO.getStdin).readBinToEnd).toList) else pure []
  let outcome := surroundings.run libraries (request.invocation input surroundings.entry)
  writeOutcome outcome
  return outcome.exitCode.toUInt32
