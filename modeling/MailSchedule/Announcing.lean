import MailSchedule.Tracking

/-!
# Announcing new mail

New messages are announced once: an announcement tells how many have arrived since the last one.

Results:

* `announce`: announces the unseen messages of an account, if there is anything new to say.
* `resetCounts`: forgets counts, withdraws notifications and clears the persisted counts.
-/

namespace MailSchedule

variable {ω : Type}

/-- An announcement of new mail. -/
structure NewMail where
  account : Int
  unseen : Int
  justFetched : Int
  deriving DecidableEq, Repr

/-- What there is to announce about an account. -/
def Registry.newMail? (r : Registry) (id : Int) : Option NewMail :=
  match r.find? id with
  | none => none
  | some report =>
    if report.unseen = 0 || !report.notify then none
    else some ⟨id, report.unseen, report.justFetched⟩

/-- Announces the unseen messages of an account.  The answer is the announcement made. -/
def announce (env : Surroundings ω) (id : Int) : Act ω (Option NewMail) := do
  match (← registry).newMail? id with
  | none => return none
  | some mail => do
    modifyRegistry (·.modify id fun r => { r with lastUnseen := r.unseen })
    env.call (.showNotification mail.account mail.unseen mail.justFetched)
    return some mail

/-- Whether a target covers an account: it names it, or names none. -/
def covers (target : Option Int) (id : Int) : Bool :=
  match target with
  | none => true
  | some t => id = t

/-- Sets the counts of the accounts covered to zero. -/
def Registry.clearCounts (r : Registry) (target : Option Int) : Registry :=
  r.map fun report => if covers target report.account then report.clearCounts else report

/-- Forgets the counts of one account, or of all: those tracked, the notification, and the
persisted ones. -/
def resetCounts (env : Surroundings ω) (target : Option Int) : Act ω Unit := do
  modifyRegistry (·.clearCounts target)
  env.call (.cancelNotification target)
  env.call (.resetNewMessageCount target)
  answer (env.source.resetCount target)

end MailSchedule
