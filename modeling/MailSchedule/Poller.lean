import MailSchedule.Announcing
import MailSchedule.Waking

/-!
# The poller

All outside events pass through one queue and are handled one at a time.  Handling a message ends
either with the wake timer pointing at the account that is due next, or with the watchdog of a
check that was started.

Results:

* `submit`, `wake`: how events enter the queue.
* `handle`: what is done about a message.
* `process`: handling with its faults caught.
* `drain`, `serve`: working off the queue.
* `close`: the end of a poller.
-/

namespace MailSchedule

variable {ω : Type}

/-! ## Entering the queue -/

/-- Puts a message into the queue, unless the poller is closed. -/
def submit (m : Message) : Act ω Unit := do
  if (← core).closed then note (.closedDropping m)
  else modifyCore fun c => { c with queue := c.queue ++ [m] }

/-- The message that a wake with a snapshot amounts to. -/
def Snapshot.message (s : Snapshot) : Message :=
  match s.watchdog, s.account with
  | true, some id => .watchdogFired id
  | _, account => .checkRequested account (some s)

/-- The wake timer has gone off.  A payload that cannot be read counts as the bare snapshot; a fault
that the poller does not expect goes to the caller. -/
def wake (payload : Option Payload) : Act ω Unit := do
  match Snapshot.decode payload with
  | .ok s => submit s.message
  | .error e =>
    if e.fault.isOwn then
      note (.undecodablePayload e.fault)
      submit (Snapshot.message {})
    else throw e.fault

/-! ## Handling messages -/

/-- Whether background data is enabled. -/
def backgroundDataEnabled (env : Surroundings ω) : Act ω Bool := do
  match env.backgroundData with
  | none => return env.policy.backgroundData
  | some enabled => do
    env.call .backgroundData
    return enabled (← get).world

/-- The mailbox in which new mail of an account arrives. -/
def findInbox (env : Surroundings ω) (id : Int) : Act ω (Option Int) := do
  env.call (.findInbox id)
  return env.checker.inbox id (← get).world

/-- Starts a check of an account.  A failure to start is only noted. -/
def startCheck (env : Surroundings ω) (id : Int) : Act ω Bool := do
  match ← findInbox env id with
  | none => return false
  | some inbox =>
    tryCatch (do env.call (.checkMail id inbox); return true) fun e => do
      note (.startFailed id e)
      return false

/-- Starts a check of an account, if background data is enabled and the account may be checked.  The
answer is whether a check was started. -/
def tryStart (env : Surroundings ω) (id : Int) : Act ω Bool := do
  if ← backgroundDataEnabled env then runIfDue id (startCheck env) else return false

/-- Prepares for a check of an account that is to be started: forgets earlier ends and
announcements, and arms the watchdog. -/
def openCheck (env : Surroundings ω) (id : Int) : Act ω Unit := do
  modifyCore fun c => { c with
    completed := c.completed.filter (· ≠ id)
    announced := c.announced.filter (·.1 ≠ id) }
  let _ ← armWatchdog env id

/-- A check of one account: it is started if it may be.  Otherwise the account counts as checked,
so that it does not come up again at once. -/
def checkAccount (env : Surroundings ω) (id : Int) : Act ω Unit := do
  openCheck env id
  let started ← tryStart env id
  if !started then
    let _ ← update env id none
    let _ ← rearm env

/-- A check is wanted, of one account or of whichever is due. -/
def handleCheck (env : Surroundings ω) (account : Option Int) (snapshot : Option Snapshot) :
    Act ω Unit := do
  match snapshot with
  | some s => restore env s
  | none => load env .fillIfEmpty
  match account with
  | some id => checkAccount env id
  | none => do let _ ← rearm env

/-- The watchdog of an account went off.  If its check has not reported its end, the account counts
as checked. -/
def handleWatchdog (env : Surroundings ω) (id : Int) : Act ω Unit := do
  if !(← core).completed.contains id then
    note (.watchdogFired id)
    load env .fillIfEmpty
    let _ ← update env id none
  let _ ← rearm env

/-- The accounts may have changed: all notifications are withdrawn and the registry is rebuilt. -/
def handleReschedule (env : Surroundings ω) : Act ω Unit := do
  env.call (.cancelNotification none)
  refresh env
  let _ ← rearm env

/-- The stored count of an account is to be announced. -/
def handleNotify (env : Surroundings ω) (id : Int) : Act ω Unit := do
  env.call (.newMessageCount id)
  match ← answer (env.source.count id) with
  | none => pure ()
  | some count =>
    if (← update env id (some count)).isSome then
      let _ ← announce env id
  let _ ← rearm env

/-- What waits to be sent is to be sent. -/
def handleSendPending (env : Surroundings ω) (id : Int) : Act ω Unit := do
  env.call (.sendPending id)
  let _ ← rearm env

/-- Deletes accounts one after the other. -/
def deleteAccounts (env : Surroundings ω) : List Int → Act ω Unit
  | [] => pure ()
  | id :: rest => do
    env.call (.deleteAccount id)
    answer (env.checker.delete id)
    deleteAccounts env rest

/-- The accounts of a protocol are to be deleted. -/
def handleDeleteProtocol (env : Surroundings ω) (protocol : Text) : Act ω Unit := do
  env.call (.idsWithProtocol protocol)
  deleteAccounts env (← answer (env.source.idsWithProtocol protocol))
  refresh env
  let _ ← rearm env

/-- The progress value of a mailbox that is done. -/
def progressDone : Int := 100

/-- A check reports progress in a mailbox.  Only the end of the inbox, or an error in it, counts.
New messages are announced at once, which is remembered until the check ends. -/
def handleProgress (env : Surroundings ω) (id mailbox progress : Int) (error : Option Fault)
    (count : Option Int) : Act ω Unit := do
  if error.isNone && progress != progressDone then return
  if (← findInbox env id) != some mailbox then return
  if progress = progressDone then
    let _ ← update env id count
    let arrived := count.getD 0
    if arrived != 0 then
      let _ ← announce env id
      modifyCore fun c => { c with
        announced := (id, arrived) :: c.announced.filter (·.1 ≠ id) }
  else
    let _ ← update env id none

/-- A check reports its end. -/
def handleComplete (env : Surroundings ω) (id : Int) (count : Option Int)
    (error : Option Fault) : Act ω Unit := do
  let announced := (← core).announced.lookup id
  modifyCore fun c => { c with
    completed := c.completed.insert id
    announced := c.announced.filter (·.1 ≠ id) }
  load env .fillIfEmpty
  match error, count with
  | some e, _ => do
    note (.checkFailed id e)
    let _ ← update env id none
  | none, none => do let _ ← update env id none
  | none, some n => do
    let _ ← update env id (some n)
    if 0 < n && announced != some n then
      let _ ← announce env id
  let _ ← rearm env

/-- What is done about a message. -/
def handle (env : Surroundings ω) : Message → Act ω Unit
  | .checkRequested account snapshot => handleCheck env account snapshot
  | .watchdogFired id => handleWatchdog env id
  | .rescheduleRequested => handleReschedule env
  | .cancelRequested => disarm env
  | .notifyRequested id => handleNotify env id
  | .sendPendingRequested id => handleSendPending env id
  | .deleteProtocolRequested protocol => handleDeleteProtocol env protocol
  | .checkProgress id mailbox progress error count =>
    handleProgress env id mailbox progress error count
  | .checkComplete id count error => handleComplete env id count error

/-- Reconciles the accounts, if anyone does.  A failure is only noted. -/
def reconcile (env : Surroundings ω) : Act ω Unit := do
  if env.reconciles then
    tryCatch (env.call .reconcile) fun e => note (.reconciliationFailed e)

/-- The log line for a fault that ended the handling of a message. -/
def failureNotice (m : Message) (e : Fault) : Notice :=
  if e.isOwn then .handlingFailed m e else .handlingUnexpected m

/-- Handles a message.  A fault ends the handling and is noted. -/
def process (env : Surroundings ω) (m : Message) : Act ω Unit := do
  reconcile env
  record (.began m)
  tryCatch (handle env m) fun e => note (failureNotice m e)
  record (.ended m)

/-! ## Working off the queue -/

/-- Takes the next message from the queue. -/
def nextMessage : Act ω (Option Message) := do
  match (← core).queue with
  | [] => return none
  | m :: rest => do
    modifyCore fun c => { c with queue := rest }
    return some m

/-- Handles messages until the queue is empty, at most `limit` of them.  The answer is their
number. -/
def drain (env : Surroundings ω) : Nat → Act ω Nat
  | 0 => return 0
  | limit + 1 => do
    match ← nextMessage with
    | none => return 0
    | some m => do
      process env m
      return (← drain env limit) + 1

/-- Handles messages for a number of turns, unless the poller is closed.  A turn that finds the
queue empty passes without effect. -/
def serve (env : Surroundings ω) : Nat → Act ω Unit
  | 0 => pure ()
  | turns + 1 => do
    if !(← core).closed then
      match ← nextMessage with
      | none => serve env turns
      | some m => do
        process env m
        serve env turns

/-- Closes the poller: no message is accepted any more, and what it tracks is forgotten. -/
def close : Act ω Unit := do
  modifyCore fun c => { c with closed := true }
  clear
  modifyCore fun c => { c with completed := [] }

end MailSchedule
