import MailSchedule.Fault
import MailSchedule.Snapshot.Basic

/-!
# Messages

What the poller is asked to do.  Every outside event becomes a message in the poller's queue.

Results:

* `Message.text`: the form in which a message stands in the log.
-/

namespace MailSchedule

/-- A request to the poller or an event reported to it. -/
inductive Message
  /-- Check an account, or whichever is due. -/
  | checkRequested (account : Option Int) (snapshot : Option Snapshot)
  /-- The watchdog of a check went off. -/
  | watchdogFired (account : Int)
  /-- The accounts may have changed. -/
  | rescheduleRequested
  /-- Stop the wake timer. -/
  | cancelRequested
  /-- Announce the stored count of an account. -/
  | notifyRequested (account : Int)
  /-- Send what waits to be sent. -/
  | sendPendingRequested (account : Int)
  /-- Delete the accounts of a protocol. -/
  | deleteProtocolRequested (protocol : Text)
  /-- A check reports progress in one mailbox. -/
  | checkProgress (account mailbox progress : Int) (error : Option Fault) (count : Option Int)
  /-- A check reports its end. -/
  | checkComplete (account : Int) (count : Option Int) (error : Option Fault)
  deriving DecidableEq, Repr

namespace Text

/-- The form of a truth value inside a message. -/
def ofBool (b : Bool) : String := if b then "True" else "False"

/-- The form of a value that may be missing. -/
def ofOption {α : Type} (f : α → String) : Option α → String
  | some a => f a
  | none => "None"

/-- The form of a pair. -/
def ofPair (p : Int × Int) : String := "(" ++ toString p.1 ++ ", " ++ toString p.2 ++ ")"

/-- The form of a list of pairs: a single one has a comma after it. -/
def ofPairs : List (Int × Int) → String
  | [p] => "(" ++ ofPair p ++ ",)"
  | ps => "(" ++ ", ".intercalate (ps.map ofPair) ++ ")"

/-- The form of a record: its name and its fields with their values. -/
def ofRecord (name : String) (fields : List (String × String)) : String :=
  name ++ "(" ++ ", ".intercalate (fields.map fun f => f.1 ++ "=" ++ f.2) ++ ")"

end Text

/-- The form in which a snapshot stands inside a message. -/
def Snapshot.text (s : Snapshot) : String :=
  Text.ofRecord "WakeSnapshot" [
    ("account_id", Text.ofOption toString s.account),
    ("prev_sync_times", Text.ofPairs s.prevSyncTimes),
    ("watchdog", Text.ofBool s.watchdog)]

/-- The form in which a message stands in the log. -/
def Message.text : Message → String
  | .checkRequested account snapshot => Text.ofRecord "CheckRequested" [
      ("account_id", Text.ofOption toString account),
      ("snapshot", Text.ofOption Snapshot.text snapshot)]
  | .watchdogFired account => Text.ofRecord "WatchdogFired" [("account_id", toString account)]
  | .rescheduleRequested => Text.ofRecord "RescheduleRequested" []
  | .cancelRequested => Text.ofRecord "CancelRequested" []
  | .notifyRequested account => Text.ofRecord "NotifyRequested" [("account_id", toString account)]
  | .sendPendingRequested account =>
    Text.ofRecord "SendPendingRequested" [("account_id", toString account)]
  | .deleteProtocolRequested protocol =>
    Text.ofRecord "DeleteProtocolRequested" [("protocol", Text.quoted protocol)]
  | .checkProgress account mailbox progress error count => Text.ofRecord "CheckProgress" [
      ("account_id", toString account),
      ("mailbox_id", toString mailbox),
      ("progress", toString progress),
      ("error", Text.ofOption Fault.text error),
      ("new_message_count", Text.ofOption toString count)]
  | .checkComplete account count error => Text.ofRecord "CheckComplete" [
      ("account_id", toString account),
      ("new_message_count", Text.ofOption toString count),
      ("error", Text.ofOption Fault.text error)]

end MailSchedule
