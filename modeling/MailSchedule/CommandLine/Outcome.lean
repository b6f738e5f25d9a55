import MailSchedule.CommandLine.Parse
import MailSchedule.Fault
import MailSchedule.Settings.Basic

/-!
# Outcomes

What a run of the program leaves behind for whoever started it.

Results:

* `Outcome`: the exit code and what is printed.
* `Grammar.outcome`: the outcome of a command line that names nothing to do.
-/

namespace MailSchedule.CommandLine

/-- What breaks a run off without a message of the program's own. -/
inductive Breakdown
  | settings (e : Settings.Error)
  | fault (f : Fault)
  deriving DecidableEq, Repr

/-- The outcome of a run. -/
structure Outcome where
  exit : Nat := 0
  stdout : Text := []
  stderr : Text := []
  breakdown : Option Breakdown := none
  deriving DecidableEq, Repr

/-- The outcome of a run that breaks off. -/
def Outcome.broken (b : Breakdown) : Outcome := { exit := 1, breakdown := some b }

/-- The exit code for a command line that cannot be understood. -/
def usageExit : Nat := 2

/-- The outcome of a command line that ends with a page of help, or with a message below the
summary. -/
def Grammar.outcome (g : Grammar) (page : Text) : Stop → Outcome
  | .help => { stdout := page }
  | .wrong message =>
    { exit := usageExit, stderr := g.usageText ++ g.program ++ ": error: " ++ message ++ "\n" }

end MailSchedule.CommandLine
