import MailSchedule.CommandLine.Run
import MailSchedule.Rehearsal.StoreScript

/-!
# Scripts for the command line

A script that runs the program several times over one store, and looks into the store in between.

Results:

* `runStep`: one step.
* `rehearse`: a script, with the answer of each step.
-/

namespace MailSchedule.Rehearsal.Terminal

/-- A step of a script for the command line. -/
inductive Step
  /-- Runs the program. -/
  | run (words : List Text)
  /-- Uses the store directly. -/
  | store (step : StoreScript.Step)
  deriving Repr

/-- What a step answers. -/
inductive Answer
  | outcome (value : CommandLine.Outcome)
  | store (value : StoreScript.Answer)

/-- Carries out one step of a script for the store between connecting and closing. -/
def useStore (step : StoreScript.Step) (saved : Store.Tables) :
    Except Fault StoreScript.Answer × Store.Tables :=
  let (result, s) := (StoreScript.between (StoreScript.runStep step)).reply { saved }
  (result, s.saved)

/-- Runs one step at the given time.  A direct use of the store that fails breaks the script off. -/
def runStep (inputs : Settings.Inputs) (clock : Int) (d : Disk) :
    Step → Except CommandLine.Breakdown (Answer × Disk)
  | .run words =>
    let (outcome, d) := CommandLine.run inputs clock words d
    .ok (.outcome outcome, d)
  | .store step => do
    let settings ← (Settings.load inputs).mapError .settings
    let (result, d) := d.withStore settings (useStore step)
    let answer ← (result.bind id).mapError .fault
    return (.store answer, d)

/-- Runs a script. -/
def rehearse (inputs : Settings.Inputs) (clock : Int) (d : Disk) :
    List Step → Except CommandLine.Breakdown (List Answer)
  | [] => .ok []
  | step :: rest => do
    let (answer, d) ← runStep inputs clock d step
    return answer :: (← rehearse inputs clock d rest)

end MailSchedule.Rehearsal.Terminal
