import MailSchedule.Snapshot.Payload
import MailSchedule.Tracking

/-!
# The wake timer

One wake timer serves all accounts.  It points at the account that is due next, or at the moment
when a check that was started and reports nothing is to be given up.

Results:

* `rearm`: points the timer at the account that is due next.
* `armWatchdog`: points it at the end of the patience with a check.
* `runIfDue`: starts a check of an account that may be checked.
-/

namespace MailSchedule

variable {ω : Type}

/-- Points the wake timer at a time. -/
def arm (env : Surroundings ω) (time : Int) (payload : Payload) : Act ω Unit := do
  env.call (.arm time payload)
  setTimer (some ⟨time, payload⟩)

/-- Makes the wake timer idle. -/
def disarm (env : Surroundings ω) : Act ω Unit := do
  env.call .cancelTimer
  setTimer none

/-- The account to check next. -/
def pickNext : Act ω Selection := return (← registry).pickNext (← now)

/-- The snapshot of the registry for a wake. -/
def Registry.snapshot (r : Registry) (account : Option Int) : Snapshot :=
  { account, prevSyncTimes := r.prevSyncTimes }

/-- The snapshot of the accounts tracked. -/
def takeSnapshot (account : Option Int) : Act ω Snapshot :=
  return (← registry).snapshot account

/-- Points the wake timer at the account that is due next, or makes it idle if there is none.  An
empty registry is filled first.  The timer is left alone if the payload cannot be written. -/
def rearm (env : Surroundings ω) : Act ω Selection := do
  load env .fillIfEmpty
  let selection ← pickNext
  match selection.account with
  | none => disarm env
  | some id => do
    let payload ← resultOf (← takeSnapshot (some id)).payload
    arm env selection.wake payload
  return selection

/-- Points the wake timer at the moment when a check of the account is to be given up. -/
def armWatchdog (env : Surroundings ω) (id : Int) : Act ω Int := do
  let deadline := (← now) + env.policy.watchdogDelay
  let payload ← resultOf (Snapshot.payload { account := some id, watchdog := true })
  arm env deadline payload
  return deadline

/-- Whether an account may be checked automatically. -/
def Report.isRunnable (r : Report) : Bool := 0 < r.interval && r.enabled

/-- Starts a check of an account if it is scheduled and its checks are switched on.  The answer is
whether a check was started. -/
def runIfDue (id : Int) (start : Int → Act ω Bool) : Act ω Bool := do
  match (← registry).find? id with
  | none => return false
  | some report => if report.isRunnable then start id else return false

end MailSchedule
