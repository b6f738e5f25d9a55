import MailSchedule.CommandLine.Outcome
import MailSchedule.Account

/-!
# Commands

The commands of the program, with their grammars and pages of help.

Results:

* `Command`: what can be asked of the program.
* `entries`: the commands by name.
* `readCommand`: the command that a command line asks for.
-/

namespace MailSchedule.CommandLine

/-- An account as a command line describes it.  Where a value is missing, nothing stands in its
place. -/
structure NewAccount where
  id : Int
  email : Option Text
  receiveRef : Option Int
  sendRef : Option Int
  interval : Option Int
  flags : Int
  protocol : Option Text
  deriving DecidableEq, Repr

/-- Whose counts are to be cleared. -/
inductive Target
  | all
  | one (id : Int)
  /-- Nothing stands in the place of the account. -/
  | nothing
  deriving DecidableEq, Repr

/-- What is asked of the program. -/
inductive Command
  /-- Lists all accounts. -/
  | accounts
  /-- Puts an account into the store. -/
  | addAccount (account : NewAccount)
  | removeAccount (id : Int)
  /-- Switches automatic checks for an address on or off, by a word. -/
  | setSync (email word : Text)
  /-- Tells what would be checked next. -/
  | status
  /-- Clears the counts of one account, or of all. -/
  | resetCount (target : Target)
  deriving DecidableEq, Repr

/-! ## Values found -/

/-- An integer, if that is what was found. -/
def Value.integer? : Value → Option Int
  | .integer i => some i
  | _ => none

/-- A text, if that is what was found. -/
def Value.text? : Value → Option Text
  | .text t => some t
  | _ => none

/-- The integer found for a value by place, which is always given. -/
def Findings.integerAt (f : Findings) (p : Positional) : Int :=
  ((f.values.lookup p.name).bind Value.integer?).getD 0

/-- The text found for a value by place, unless nothing stands there. -/
def Findings.textAt? (f : Findings) (p : Positional) : Option Text :=
  (f.values.lookup p.name).bind Value.text?

/-- The text of a place where nothing stands: that of an empty list. -/
def emptyPlace : Text := "[]"

/-- The text found for a value by place. -/
def Findings.textAt (f : Findings) (p : Positional) : Text := (f.textAt? p).getD emptyPlace

/-- The integer found for a switch, which has a default. -/
def Findings.integerFor (f : Findings) (s : Switch) (default : Int) : Option Int :=
  match f.values.lookup s.title with
  | some v => v.integer?
  | none => some default

/-- The text found for a switch, which has a default. -/
def Findings.textFor (f : Findings) (s : Switch) (default : Text) : Option Text :=
  match f.values.lookup s.title with
  | some v => v.text?
  | none => some default

/-- Whether a flag is there. -/
def Findings.hasFlag (f : Findings) (s : Switch) : Bool := (f.values.lookup s.title).isSome

/-! ## Entries -/

/-- The name of the program. -/
def programName : String := "cli.py"

/-- A command: its name, what it does, its grammar, and what its values and switches ask for. -/
structure Entry where
  name : String
  help : String
  /-- The lines of its summary after its name. -/
  usage : List String
  positionals : List Positional := []
  /-- The switches beside the one for help. -/
  switches : List Switch := []
  command : Findings → Command

/-- The grammar of a command. -/
def Entry.grammar (e : Entry) : Grammar where
  program := programName ++ " " ++ e.name
  usage := e.usage
  positionals := e.positionals
  switches := helpSwitch :: e.switches

/-- The number of the account to be added. -/
def newId : Positional := { name := "account_id", kind := .integer, help := "Account ID" }

/-- The address of the account to be added. -/
def newEmail : Positional := { name := "email", help := "Email address" }

/-- The protocol of an account. -/
def protocolSwitch : Switch where
  names := ["--protocol", "-p"]
  action := .value .text
  placeholder := "PROTOCOL"
  help := "imap, pop3, eas, ..."

/-- The interval of an account. -/
def intervalSwitch : Switch where
  names := ["--interval", "-i"]
  action := .value .integer
  placeholder := "INTERVAL"
  help := "Check interval in minutes (-1 = never)"

/-- The credential for receiving. -/
def receiveRefSwitch : Switch where
  names := ["--recv-ref"]
  action := .value .integer
  placeholder := "RECV_REF"

/-- The credential for sending. -/
def sendRefSwitch : Switch where
  names := ["--send-ref"]
  action := .value .integer
  placeholder := "SEND_REF"

/-- Switches announcements off. -/
def noNotifySwitch : Switch where
  names := ["--no-notify"]
  action := .flag
  help := "Disable new-mail notifications"

/-- The account that a command line describes. -/
def newAccount (f : Findings) : NewAccount where
  id := f.integerAt newId
  email := f.textAt? newEmail
  receiveRef := f.integerFor receiveRefSwitch 1
  sendRef := f.integerFor sendRefSwitch 1
  interval := f.integerFor intervalSwitch 15
  flags := if f.hasFlag noNotifySwitch then 0 else Account.notifyFlag
  protocol := f.textFor protocolSwitch "imap"

/-- The command that lists the accounts. -/
def accountsEntry : Entry where
  name := "accounts"
  help := "List all accounts in the store"
  usage := ["[-h]"]
  command _ := .accounts

/-- The command that puts an account into the store. -/
def addEntry : Entry where
  name := "add-account"
  help := "Add or update an account"
  usage := [
    "[-h] [--protocol PROTOCOL] [--interval INTERVAL]",
    "[--recv-ref RECV_REF] [--send-ref SEND_REF]",
    "[--no-notify]",
    "account_id email"]
  positionals := [newId, newEmail]
  switches := [protocolSwitch, intervalSwitch, receiveRefSwitch, sendRefSwitch, noNotifySwitch]
  command f := .addAccount (newAccount f)

/-- The number of the account to be removed. -/
def oldId : Positional := { name := "account_id", kind := .integer }

/-- The command that removes an account. -/
def removeEntry : Entry where
  name := "remove-account"
  help := "Delete an account"
  usage := ["[-h] account_id"]
  positionals := [oldId]
  command f := .removeAccount (f.integerAt oldId)

/-- The address whose automatic checks are switched. -/
def syncEmail : Positional := { name := "email" }

/-- The word for on. -/
def onWord : String := "on"

/-- The word for on, or the word for off. -/
def syncState : Positional := { name := "state", choices := [onWord, "off"] }

/-- The command that switches automatic checks for an address. -/
def setSyncEntry : Entry where
  name := "set-sync"
  help := "Toggle automatic sync for an address"
  usage := ["[-h] email \x7bon,off\x7d"]
  positionals := [syncEmail, syncState]
  command f := .setSync (f.textAt syncEmail) (f.textAt syncState)

/-- The command that tells what would be checked next. -/
def statusEntry : Entry where
  name := "status"
  help := "Show sync reports and the next scheduled check"
  usage := ["[-h]"]
  command _ := .status

/-- The account whose counts are cleared. -/
def accountSwitch : Switch where
  names := ["--account", "-a"]
  action := .value .integer
  placeholder := "ACCOUNT"
  help := "Account ID (default: all accounts)"

/-- Whose counts a command line asks to clear. -/
def resetTarget (f : Findings) : Target :=
  match f.values.lookup accountSwitch.title with
  | none => .all
  | some (.integer id) => .one id
  | some _ => .nothing

/-- The command that clears counts. -/
def resetEntry : Entry where
  name := "reset-count"
  help := "Clear unseen-message counts"
  usage := ["[-h] [--account ACCOUNT]"]
  switches := [accountSwitch]
  command f := .resetCount (resetTarget f)

/-- The commands, in the order in which help lists them. -/
def entries : List Entry :=
  [accountsEntry, addEntry, removeEntry, setSyncEntry, statusEntry, resetEntry]

/-! ## The program -/

/-- The place of the command on the command line. -/
def commandPlace : Positional :=
  { name := "command", choices := entries.map (·.name), help := "Available commands" }

/-- The grammar of the program before the command. -/
def programGrammar : Grammar where
  program := programName
  usage := ["[-h]", commandPlace.heading, "..."]

/-- The page that explains the program. -/
def programHelp : Text :=
  let commands := entries.map fun e => { indent := 4, heading := e.name, help := e.help : Row }
  helpPage programGrammar "Mail Poller - inspect accounts and preview the check schedule" [
    ("positional arguments",
      { heading := commandPlace.heading, help := commandPlace.help } :: commands),
    ("options", programGrammar.switchRows)]

/-- The outcome of a command line that the program itself does not understand. -/
def refused (message : Text) : Outcome := programGrammar.outcome programHelp (.wrong message)

/-- Fails if words are left over. -/
def checkExtras (words : List Text) : Except Outcome Unit :=
  if words.isEmpty then .ok ()
  else .error (refused ("unrecognized arguments: " ++ Text.separated " " words))

/-- The command that a command line asks for.  Without one, the page of help is the answer, but not
a success. -/
def readCommand (words : List Text) : Except Outcome Command := do
  let program ← (parseCommand programGrammar commandPlace.name commandPlace.choices words).mapError
    (programGrammar.outcome programHelp)
  match program with
  | .bare extras => do
    checkExtras extras
    throw { exit := 1, stdout := programHelp }
  | .command name words extras =>
    match entries.find? fun e => name = e.name with
    | none => throw { exit := 1, stdout := programHelp }
    | some entry => do
      let found ← (parseWords entry.grammar words).mapError
        (entry.grammar.outcome entry.grammar.help)
      checkExtras (extras ++ found.extras)
      return entry.command found

end MailSchedule.CommandLine
