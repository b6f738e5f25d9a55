import MailSchedule.Message

/-!
# The journal

What the poller does that others can see: the calls it makes to its collaborators, the lines it
writes to its log, and which message it is handling.
-/

namespace MailSchedule

/-! ## Calls -/

/-- A call to a collaborator. -/
inductive Call
  | listAccounts
  | getAccount (id : Int)
  | isSyncEnabled (email : Text)
  | newMessageCount (id : Int)
  | resetNewMessageCount (target : Option Int)
  | idsWithProtocol (protocol : Text)
  | findInbox (id : Int)
  | checkMail (id mailbox : Int)
  | sendPending (id : Int)
  | deleteAccount (id : Int)
  /-- Points the wake timer at a time. -/
  | arm (time : Int) (payload : Payload)
  /-- Makes the wake timer idle. -/
  | cancelTimer
  /-- Shows a notification. -/
  | showNotification (id unseen justFetched : Int)
  /-- Withdraws the notification of one account, or all. -/
  | cancelNotification (target : Option Int)
  | reconcile
  /-- Asks whether background data is enabled. -/
  | backgroundData
  /-- Starts a check by way of a given action. -/
  | start (id : Int)
  deriving DecidableEq, Repr

/-- The kinds of call. -/
inductive Call.Kind
  | listAccounts
  | getAccount
  | isSyncEnabled
  | newMessageCount
  | resetNewMessageCount
  | idsWithProtocol
  | findInbox
  | checkMail
  | sendPending
  | deleteAccount
  | arm
  | cancelTimer
  | showNotification
  | cancelNotification
  | reconcile
  | backgroundData
  | start
  deriving DecidableEq, Repr

/-- The kind of a call. -/
def Call.kind : Call → Call.Kind
  | .listAccounts => .listAccounts
  | .getAccount _ => .getAccount
  | .isSyncEnabled _ => .isSyncEnabled
  | .newMessageCount _ => .newMessageCount
  | .resetNewMessageCount _ => .resetNewMessageCount
  | .idsWithProtocol _ => .idsWithProtocol
  | .findInbox _ => .findInbox
  | .checkMail _ _ => .checkMail
  | .sendPending _ => .sendPending
  | .deleteAccount _ => .deleteAccount
  | .arm _ _ => .arm
  | .cancelTimer => .cancelTimer
  | .showNotification _ _ _ => .showNotification
  | .cancelNotification _ => .cancelNotification
  | .reconcile => .reconcile
  | .backgroundData => .backgroundData
  | .start _ => .start

/-! ## Log lines -/

/-- How grave a log line is. -/
inductive Level
  | warning
  | error
  deriving DecidableEq, Repr

/-- A line of the log. -/
inductive Notice
  /-- Accounts were read while every account is polled each minute. -/
  | oneMinuteRefresh
  /-- A message came after the poller was closed. -/
  | closedDropping (message : Message)
  | undecodablePayload (fault : Fault)
  | reconciliationFailed (fault : Fault)
  /-- Handling ended with a fault of the poller's own kinds. -/
  | handlingFailed (message : Message) (fault : Fault)
  /-- Handling ended with a fault of another kind. -/
  | handlingUnexpected (message : Message)
  | startFailed (account : Int) (fault : Fault)
  | watchdogFired (account : Int)
  | checkFailed (account : Int) (fault : Fault)
  /-- The account store refused to read or to write. -/
  | storeFailed (fault : Fault)
  deriving DecidableEq, Repr

/-- How grave a line is. -/
def Notice.level : Notice → Level
  | .oneMinuteRefresh => .warning
  | .closedDropping _ => .warning
  | .watchdogFired _ => .warning
  | .checkFailed _ _ => .warning
  | _ => .error

/-- The text of a line. -/
def Notice.text : Notice → Text
  | .oneMinuteRefresh => "One-minute refresh enabled."
  | .closedDropping m => "Driver closed; dropping " ++ m.text
  | .undecodablePayload f => "Ignoring undecodable wake payload: " ++ f.message
  | .reconciliationFailed f => "Account reconciliation failed: " ++ f.message
  | .handlingFailed m f => "Failed to handle " ++ m.text ++ ": " ++ f.message
  | .handlingUnexpected m => "Unexpected error handling " ++ m.text
  | .startFailed id f =>
    "Failed to start check for account " ++ toString id ++ ": " ++ f.message
  | .watchdogFired id =>
    "Watchdog fired for account " ++ toString id ++ "; check never completed"
  | .checkFailed id f => "Mail check failed for account " ++ toString id ++ ": " ++ f.message
  | .storeFailed f => f.message

/-! ## Events -/

/-- One entry of the journal. -/
inductive Event
  | called (call : Call)
  | noted (notice : Notice)
  /-- Handling of a message begins. -/
  | began (message : Message)
  /-- Handling of a message has ended. -/
  | ended (message : Message)
  deriving DecidableEq, Repr

/-- The calls among the entries, in order. -/
def calls (events : List Event) : List Call :=
  events.filterMap fun
    | .called c => some c
    | _ => none

/-- The log lines among the entries, in order. -/
def notices (events : List Event) : List Notice :=
  events.filterMap fun
    | .noted n => some n
    | _ => none

end MailSchedule
