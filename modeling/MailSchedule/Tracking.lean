import MailSchedule.System

/-!
# Tracking accounts

How the registry is filled from the account store and kept up to date.  The store is asked first
and the answers are published in one step at the end, so a failure of the store changes nothing.

Results:

* `load`: fills the registry, wholly or for one account.
* `refresh`: rebuilds it and keeps the times of the last checks.
* `restore`: fills it and fills in times of checks from a snapshot.
* `update`: records a check that happens now.
-/

namespace MailSchedule

variable {ω : Type}

/-- How much to load. -/
inductive LoadMode
  /-- All accounts, if none is tracked. -/
  | fillIfEmpty
  /-- All accounts, whatever is tracked. -/
  | forceReset
  /-- One account, if it is not tracked. -/
  | one (id : Int)
  deriving DecidableEq, Repr

/-- Whether loading has anything to do. -/
def LoadMode.isNeeded (r : Registry) : LoadMode → Bool
  | .fillIfEmpty => r.isEmpty
  | .forceReset => true
  | .one id => !r.contains id

/-- The rows of the store that loading asks for. -/
def rowsFor (env : Surroundings ω) : LoadMode → Act ω (List Account.Draft)
  | .one id => do
    env.call (.getAccount id)
    return (← answer (env.source.get id)).toList
  | _ => do
    env.call .listAccounts
    answer env.source.list

/-- The report of a row. -/
def buildReport (env : Surroundings ω) (d : Account.Draft) : Act ω Report := do
  let email := d.email.getD []
  let interval ← resultOf (env.policy.polling.intervalOfDraft d)
  env.call (.isSyncEnabled email)
  let enabled ← answer (env.source.isSyncEnabled email)
  return Report.fresh d.id interval enabled (← resultOf d.notify)

/-- The reports of the live accounts among the rows, after those that are built already. -/
def buildReports (env : Surroundings ω) (built : Registry) : List Account.Draft → Act ω Registry
  | [] => return built
  | d :: rest => do
    if d.isWellFormed then
      let report ← buildReport env d
      buildReports env (built.put d.id report) rest
    else buildReports env built rest

/-- Publishes reports that were built. -/
def publish (mode : LoadMode) (built : Registry) : Act ω Unit :=
  match mode with
  | .forceReset => replaceRegistry built
  | .fillIfEmpty => do if (← registry).isEmpty then replaceRegistry built
  | .one _ => modifyRegistry (·.addMissing built)

/-- Fills the registry from the store. -/
def load (env : Surroundings ω) (mode : LoadMode) : Act ω Unit := do
  if mode.isNeeded (← registry) then
    let rows ← rowsFor env mode
    if env.policy.polling.oneMinute then note .oneMinuteRefresh
    let built ← buildReports env .empty rows
    publish mode built

/-- Begins to remember the current registry. -/
def keep : Act ω Unit := modifyCore fun c => { c with keepsakes := none :: c.keepsakes }

/-- Ends to remember a registry.  It is the one that was current when remembering began, with all
that has been recorded in it since. -/
def release : Act ω Registry := do
  let c ← core
  modifyCore fun c => { c with keepsakes := c.keepsakes.drop 1 }
  return (c.keepsakes.head?.join).getD c.registry

/-- Rebuilds the registry from the store.  Accounts that were tracked before keep the time of their
last check, as it is when the old reports are given up. -/
def refresh (env : Surroundings ω) : Act ω Unit := do
  let tracked := (← registry).ids
  keep
  tryCatch (load env .forceReset) fun e => do
    let _ ← release
    throw e
  let earlier ← release
  modifyRegistry (·.carryForward (earlier.restrict tracked))

/-- Fills the registry if it is empty, and fills in the times of checks that a snapshot carries. -/
def restore (env : Surroundings ω) (s : Snapshot) : Act ω Unit := do
  load env .fillIfEmpty
  modifyRegistry (·.restore s.prevSyncTimes)

/-- The report of an account after a check at the given time. -/
def Report.checked (r : Report) (time : Int) (unseen : Option Int) : Report :=
  let r := r.scheduleFrom time
  { r with unseen := unseen.getD r.unseen }

/-- Records that an account is being checked now, with its count of unseen messages if that is
known.  The answer is its report; an account that does not exist has none. -/
def update (env : Surroundings ω) (id : Int) (unseen : Option Int) : Act ω (Option Report) := do
  load env (.one id)
  let time ← now
  modifyRegistry (·.modify id fun r => r.checked time unseen)
  return (← registry).find? id

/-- Gives up all that is tracked. -/
def clear : Act ω Unit := replaceRegistry .empty

end MailSchedule
