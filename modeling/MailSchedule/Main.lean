import MailSchedule.Clock
import MailSchedule.CommandLine.Run
import MailSchedule.Store.Saved

/-!
# The program

Reads the environment, the file of variables and the account store, runs the command line, and
saves the store.
-/

namespace MailSchedule.Program

open MailSchedule.CommandLine (Command Outcome)

/-- The text of a file, if it can be read. -/
def readFile? (path : String) : IO (Option String) :=
  try some <$> IO.FS.readFile path catch _ => pure none

/-- What settings are loaded from. -/
def readInputs : IO Settings.Inputs := do
  let file ← readFile? Settings.variablesFile
  let bindings ← (Settings.variableNames file).mapM fun name => do
    return (← IO.getEnv name.shown).map fun value => (name, Text.ofString value)
  return { environment := bindings.reduceOption, file }

/-- The tables that lie in a file, if any do. -/
def readTables (path : String) : IO Store.Tables := do
  match ← readFile? path with
  | none => return {}
  | some text =>
    match Store.Tables.ofText? text with
    | some tables => return tables
    | none => throw (IO.userError "file is not a database")

/-- Carries out a command where the store lies in a file. -/
def runOnFile (settings : Settings) (clock : Int) (command : Command) (files : FileTree)
    (path : String) : IO Outcome := do
  IO.FS.createDirAll settings.path.parent.toText.shown
  let saved ← readTables path
  let (outcome, disk) := CommandLine.execute settings clock command { files, saved }
  IO.FS.writeFile path disk.saved.text
  return outcome

/-- Runs the program. -/
def runProgram (words : List String) : IO Outcome := do
  let inputs ← readInputs
  match CommandLine.plan inputs (words.map Text.ofString) with
  | .error outcome => return outcome
  | .ok (settings, command) =>
    let clock := Clock.reading (← IO.monoNanosNow)
    let files := inputs.files
    match (settings.openStore (settings.makeDirectories files).2).1 with
    | .file path =>
      runOnFile settings clock command files (Text.ofNameOctets path).shown
    | _ => return (CommandLine.execute settings clock command { files }).1

/-- The words for what breaks a run off. -/
def breakdownText : CommandLine.Breakdown → Text
  | .settings (.invalid problems) =>
    "invalid settings: " ++
      ", ".intercalate (problems.map fun p => p.1 ++ " (" ++ p.2.word ++ ")")
  | .settings e => (e.fault?.map Fault.message).getD []
  | .fault f => f.kind.name ++ ": " ++ f.message

end MailSchedule.Program

/-- Runs the program and shows its outcome. -/
def main (words : List String) : IO UInt32 := do
  let outcome ← MailSchedule.Program.runProgram words
  (← IO.getStdout).putStr outcome.stdout.shown
  (← IO.getStderr).putStr outcome.stderr.shown
  if let some b := outcome.breakdown then
    IO.eprintln (MailSchedule.Program.breakdownText b).shown
  return UInt32.ofNat outcome.exit
