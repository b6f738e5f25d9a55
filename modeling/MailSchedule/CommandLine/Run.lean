import MailSchedule.Announcing
import MailSchedule.CommandLine.Commands
import MailSchedule.Disk
import MailSchedule.Store.Source
import MailSchedule.Waking

/-!
# Running commands

A command is carried out on the account store that the settings name.  What it prints before a
fault stays printed.

Results:

* `plan`: the settings and the command of a run, or its outcome if it ends before it begins.
* `execute`: carries out a command.
* `run`: both.
-/

namespace MailSchedule.CommandLine

/-! ## What commands print -/

/-- What a command prints, and the fault that ended it if there was one. -/
structure Printed where
  text : Text := []
  fault : Option Fault := none
  deriving DecidableEq, Repr

/-- A text on a line of its own. -/
def line (t : Text) : Text := t ++ "\n"

/-- A word for whether a row is a live account. -/
def accountState (a : Account) : String := if a.isWellFormed then "ok" else "malformed"

/-- The address of an account, or a word that it has none. -/
def shownEmail (a : Account) : Text := if a.email.isEmpty then "(none)" else a.email

/-- The line about an account. -/
def accountLine (a : Account) : Text :=
  line ("  " ++ padLeft 6 (toString a.id) ++ " " ++ padRight 40 (shownEmail a) ++ " " ++
    padRight 6 a.protocol ++ " every " ++ padLeft 4 (toString a.interval) ++ " min  [" ++
    accountState a ++ "]")

/-- The list of all accounts. -/
def accountsText (as : List Account) : Text :=
  line ("\nFound " ++ toString as.length ++ " accounts:\n") ++ as.flatMap accountLine

/-- The line about the report of an account. -/
def reportLine (r : Report) : Text :=
  line ("  " ++ padLeft 6 (toString r.account) ++ " interval=" ++ padLeft 4 (toString r.interval) ++
    " sync=" ++ padRight 3 (if r.enabled then "on" else "off") ++ " notify=" ++
    padRight 5 (if r.notify then "True" else "False") ++ " next=" ++ toString r.nextSync)

/-- The accounts tracked, and the next check with the number of accounts in its snapshot. -/
structure Status where
  reports : List Report
  next : Option (Int × Int × Nat)
  deriving DecidableEq, Repr

/-- The line about the next check. -/
def nextLine : Option (Int × Int × Nat) → Text
  | none => line "\nNo account to check; wake timer would be cancelled"
  | some (id, wake, carried) =>
    line ("\nNext check: account " ++ toString id ++ " at " ++ toString wake ++
      " (snapshot carries " ++ toString carried ++ " accounts)")

/-- The text of a status. -/
def Status.text (s : Status) : Text :=
  let sorted := s.reports.mergeSort fun a b => a.account ≤ b.account
  line ("\nTracking " ++ toString s.reports.length ++ " accounts:\n") ++
    sorted.flatMap reportLine ++ nextLine s.next

/-- What is printed when the notifications of an account are withdrawn. -/
def withdrawnText (account : Text) : Text :=
  line ("Cleared notifications for account " ++ account)

/-- What is printed for a call: only the withdrawal of notifications is. -/
def callText : Call → Text
  | .cancelNotification none => line "Cleared notifications for all accounts"
  | .cancelNotification (some id) => withdrawnText (toString id)
  | _ => []

/-! ## Carrying out commands -/

/-- A poller's surroundings for a look at a store: nothing is ever started. -/
def onlooker (settings : Settings) : Surroundings Store where
  policy := settings.policy
  source := Store.source
  checker := { inbox := fun _ _ => none, delete := fun _ w => (.ok (), w) }
  reconciles := false
  backgroundData := none
  during _ := pure ()

/-- Tracks the accounts of the store, and finds what is to be checked next. -/
def takeStatus (env : Surroundings Store) : Act Store Status := do
  load env .forceReset
  let selection ← rearm env
  let reports := (← registry).reports
  match selection.account with
  | none => return { reports, next := none }
  | some id =>
    match Snapshot.decode ((← get).timer.map (·.payload)) with
    | .ok s => return { reports, next := some (id, selection.wake, s.prevSyncTimes.length) }
    | .error e => throw e.fault

/-- What an operation of the store prints. -/
def printing {α : Type} (act : Store.Act α) (text : α → Text) (s : Store) : Printed × Store :=
  match act.run s with
  | (.ok a, s) => ({ text := text a }, s)
  | (.error e, s) => ({ fault := some e.fault }, s)

/-- A value for the store.  The store does not take what stands for an empty place. -/
def parameterOf {α : Type} (p : α → Store.Parameter) : Option α → Store.Parameter
  | some a => p a
  | none => .unsupported

/-- The draft of a new account. -/
def NewAccount.draft (a : NewAccount) : Account.Draft :=
  { id := a.id, email := a.email, receiveRef := a.receiveRef, sendRef := a.sendRef
    interval := a.interval, flags := some a.flags, protocol := a.protocol }

/-- The values of a new account in the order in which they are handed to the store. -/
def NewAccount.parameters (a : NewAccount) : List Store.Parameter := [
  .integer a.id, parameterOf .text a.email, parameterOf .integer a.receiveRef,
  parameterOf .integer a.sendRef, parameterOf .integer a.interval, .integer a.flags,
  parameterOf .text a.protocol, .plain, .plain]

/-- Clears the counts of one account, or of all. -/
def clearCounts (settings : Settings) (clock : Int) (target : Option Int) (s : Store) :
    Printed × Store :=
  let (result, sys) := (resetCounts (onlooker settings) target).run { clock, world := s }
  let text := (calls sys.journal.reverse).flatMap callText
  match result with
  | .ok _ => ({ text }, sys.world)
  | .error e => ({ text, fault := some e }, sys.world)

/-- Carries out a command on a store, at the given time. -/
def Command.perform (settings : Settings) (clock : Int) (s : Store) : Command → Printed × Store
  | .accounts => printing Store.list accountsText s
  | .addAccount a =>
    printing (Store.upsertWith a.parameters a.draft)
      (fun _ => line ("\nSaved account " ++ toString a.id)) s
  | .removeAccount id =>
    printing (Store.delete id) (fun existed =>
      line ((if existed then "\nRemoved account " else "\nNo account with id ") ++ toString id)) s
  | .setSync email word =>
    printing (Store.setSync email (word = Text.ofString onWord))
      (fun _ => line ("\nAutomatic sync " ++ word ++ " for " ++ email)) s
  | .status =>
    match (takeStatus (onlooker settings)).run { clock, world := s } with
    | (.ok found, sys) => ({ text := found.text }, sys.world)
    | (.error e, sys) => ({ fault := some e }, sys.world)
  | .resetCount .all => clearCounts settings clock none s
  | .resetCount (.one id) => clearCounts settings clock (some id) s
  | .resetCount .nothing =>
    let (printed, s) := printing (Store.resetCountOf .unsupported) (fun _ => []) s
    ({ printed with text := withdrawnText emptyPlace }, s)

/-! ## Runs -/

/-- The outcome of a run that fails with a message. -/
def failed (printed message : Text) : Outcome :=
  { exit := 1, stdout := printed, stderr := line message }

/-- The outcome of a command that was carried out. -/
def Printed.outcome (p : Printed) : Outcome :=
  match p.fault with
  | none => { stdout := p.text }
  | some e => failed p.text ("\nError: " ++ e.message)

/-- The fault of an interval in whose place nothing stands. -/
def intervalEmpty : Fault :=
  ⟨.other "TypeError", "'<' not supported between instances of 'list' and 'int'"⟩

/-- The outcome of a command that makes no sense. -/
def Command.rejection? : Command → Option Outcome
  | .addAccount a =>
    if a.id ≤ 0 then some (failed [] "Error: account id must be positive")
    else
      match a.interval with
      | none => some (.broken (.fault intervalEmpty))
      | some interval =>
        if interval < Account.neverInterval then
          some (failed [] "Error: --interval must be -1 (never) or non-negative")
        else none
  | _ => none

/-- The settings and the command of a run.  The settings are not looked at unless there is a command
that makes sense. -/
def plan (inputs : Settings.Inputs) (words : List Text) :
    Except Outcome (Settings × Command) := do
  let command ← readCommand words
  match command.rejection? with
  | some outcome => throw outcome
  | none =>
    match Settings.load inputs with
    | .ok settings => return (settings, command)
    | .error e => throw (.broken (.settings e))

/-- Opens a store, carries out a command and closes the store. -/
def Command.performOn (settings : Settings) (clock : Int) (saved : Store.Tables) (c : Command) :
    Outcome × Store.Tables :=
  let opened := (Store.connect.run { saved }).2
  let (printed, s) := c.perform settings clock opened
  (printed.outcome, (Store.close.run s).2.saved)

/-- Carries out a command on the store that settings name, in directories that are made first. -/
def execute (settings : Settings) (clock : Int) (c : Command) (d : Disk) : Outcome × Disk :=
  match d.withStore settings (c.performOn settings clock) with
  | (.ok outcome, d) => (outcome, d)
  | (.error f, d) => (.broken (.fault f), d)

/-- Runs the program. -/
def run (inputs : Settings.Inputs) (clock : Int) (words : List Text) (d : Disk) : Outcome × Disk :=
  match plan inputs words with
  | .error outcome => (outcome, d)
  | .ok (settings, command) => execute settings clock command d

end MailSchedule.CommandLine
