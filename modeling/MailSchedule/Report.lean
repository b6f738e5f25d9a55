import MailSchedule.Account
import MailSchedule.Fault

/-!
# Sync reports

The scheduling state of one account: when it was last checked, when it is next due, and how many
unseen messages it has.

Results:

* `Report.scheduleFrom`: records a check and moves the next one out by the interval.
* `Report.fresh`: the report of an account that has not been checked.
-/

namespace MailSchedule

/-- The time of a check that never happened. -/
def neverChecked : Int := 0

/-- The time of a check that is due at once. -/
def dueNow : Int := 0

/-- The time of a check that will not happen. -/
def notScheduled : Int := -1

/-- Milliseconds in a minute. -/
def minute : Int := 60000

/-- Scheduling state of an account. -/
structure Report where
  account : Int
  /-- Minutes between checks; the account is scheduled when positive. -/
  interval : Int
  prevSync : Int := neverChecked
  nextSync : Int := notScheduled
  enabled : Bool := false
  notify : Bool := false
  unseen : Int := 0
  /-- The unseen count of the last announcement. -/
  lastUnseen : Int := 0
  deriving DecidableEq, Repr, Inhabited

/-- Which accounts are polled, and how. -/
structure PollingRules where
  protocols : List Text := ["imap", "pop3"]
  /-- Every account that is polled at all is polled each minute. -/
  oneMinute : Bool := false
  deriving DecidableEq, Repr

/-- The interval at which an account is polled: never if its protocol is not polled. -/
def PollingRules.intervalOf (rules : PollingRules) (a : Account) : Int :=
  if !rules.protocols.contains a.protocol then Account.neverInterval
  else if rules.oneMinute && 0 ≤ a.interval then 1
  else a.interval

/-! ## Drafts -/

/-- The fault of an interval that is missing when it is compared. -/
def intervalMissing (comparison : String) : Fault :=
  ⟨.other "TypeError",
    "'" ++ comparison ++ "' not supported between instances of 'NoneType' and 'int'"⟩

/-- The fault of flags that are missing when they are looked at. -/
def flagsMissing : Fault :=
  ⟨.other "TypeError", "unsupported operand type(s) for &: 'NoneType' and 'int'"⟩

/-- The interval at which the account of a draft is polled.  An account that is not polled needs no
interval. -/
def PollingRules.intervalOfDraft (rules : PollingRules) (d : Account.Draft) : Except Fault Int :=
  match d.protocol, d.interval with
  | none, _ => .ok Account.neverInterval
  | some protocol, none =>
    if !rules.protocols.contains protocol then .ok Account.neverInterval
    else .error (intervalMissing (if rules.oneMinute then ">=" else ">"))
  | some protocol, some interval =>
    .ok (rules.intervalOf { id := d.id, email := d.email.getD [], interval, protocol })

/-- Whether new mail of the account of a draft is announced. -/
def Account.Draft.notify (d : Account.Draft) : Except Fault Bool :=
  match d.flags with
  | some flags => .ok (Account.notifies flags)
  | none => .error flagsMissing

namespace Report

/-- Whether the account is scheduled. -/
def isScheduled (r : Report) : Bool := 0 < r.interval

/-- How many messages have arrived since the last announcement. -/
def justFetched (r : Report) : Int := r.unseen - r.lastUnseen

/-- Records a check at the given time.  The next check moves out by the interval, if the account is
scheduled and the time is that of a check. -/
def scheduleFrom (r : Report) (time : Int) : Report :=
  if 0 < r.interval ∧ time ≠ neverChecked then
    { r with prevSync := time, nextSync := time + r.interval * minute }
  else { r with prevSync := time }

/-- The report of an account that has not been checked: due at once if it is scheduled. -/
def fresh (id interval : Int) (enabled notify : Bool) : Report :=
  { account := id
    interval
    nextSync := if 0 < interval then dueNow else notScheduled
    enabled
    notify }

/-- Sets both counts to zero. -/
def clearCounts (r : Report) : Report := { r with unseen := 0, lastUnseen := 0 }

/-- One line about a report. -/
def summary (r : Report) : String :=
  "id=" ++ toString r.account ++ " prevSync=" ++ toString r.prevSync ++
    " nextSync=" ++ toString r.nextSync ++ " numUnseen=" ++ toString r.unseen

end Report

end MailSchedule
