import MailSchedule.Poller
import MailSchedule.Rehearsal.World

/-!
# Running a script

Steps run one after the other.  A call to a collaborator first has the steps run that wait for it,
and then fails if calls of its kind are to fail.

Results:

* `surroundings`: the collaborators of a rehearsal.
* `runStep`: one step.
* `rehearse`: a script, with what can be seen after each of its steps.
-/

namespace MailSchedule.Rehearsal

/-! ## The world's part -/

/-- Changes the world outside the source. -/
def modifyWorld (f : World → World) : Act World Unit :=
  modify fun sys => { sys with world := f sys.world }

/-- The system with the poller of a serial number in use, and the one in use before put aside. -/
def inUse (serial : Nat) (sys : System World) : System World :=
  let w := sys.world
  let parked := (w.running, sys.core) :: w.parked.filter (·.1 ≠ w.running)
  { sys with
    core := (parked.lookup serial).getD {}
    world := { w with running := serial, parked } }

/-- Uses the poller of a serial number. -/
def switchTo (serial : Nat) : Act World Unit := modify (inUse serial)

/-- Runs an action on the current poller, whichever is in use. -/
def onCurrent (act : Act World Unit) : Act World Unit := do
  let outer := (← get).world.running
  switchTo (← get).world.current
  tryCatch act fun e => do
    switchTo outer
    throw e
  switchTo outer

/-- Replaces the current poller by a new one. -/
def restart : Act World Unit := do
  let serial := (← get).world.current + 1
  modifyWorld fun w => { w with current := serial }
  switchTo serial

/-! ## Steps -/

/-- Runs one step.  At most `limit` messages are handled by one that empties the queue. -/
def runStep (env : Surroundings World) (limit : Nat) : Step → Act World Answer
  | .advance span => do
    modify fun sys => { sys with clock := sys.clock + span }
    return .number (← now)
  | .setClock time => do
    modify fun sys => { sys with clock := time }
    return .number time
  | .addAccount d => do
    answer (changeSource (·.put d) (Store.upsert d))
    return .done
  | .removeAccount id => return .truth (← answer (removeAccount id))
  | .setSync email on => do
    answer (changeSource (·.setSync email on) (Store.setSync email on))
    return .done
  | .setCount id count => do
    answer (changeSource (·.setCount id count) (Store.setCount id count))
    return .done
  | .storedCount id =>
    return .count (← answer (askSource (·.count? id) (Store.count id)))
  | .setInbox id inbox => do
    modifyWorld fun w => { w with inboxes := (id, inbox) :: w.inboxes.filter (·.1 ≠ id) }
    return .done
  | .setBackground on => do
    modifyWorld fun w => { w with background := on }
    return .done
  | .setFailure target fault => do
    modifyWorld (·.setFailure target fault)
    return .done
  | .onCall target steps => do
    modifyWorld fun w => { w with hooks := w.hooks ++ [(target, steps)] }
    return .done
  | .raise fault => throw fault
  | .load mode => do
    MailSchedule.load env mode
    return .done
  | .refresh => do
    MailSchedule.refresh env
    return .done
  | .update id count => return .report (← MailSchedule.update env id count)
  | .restore snapshot => do
    MailSchedule.restore env snapshot
    return .done
  | .get id => return .report ((← registry).find? id)
  | .describe id => return .description ((← registry).find? id)
  | .contains id => return .truth ((← registry).contains id)
  | .size => return .number (← registry).size
  | .clear => do
    MailSchedule.clear
    return .done
  | .poke id edits => do
    match (← registry).find? id with
    | none => return .report none
    | some report => do
      let (result, report) := applyEdits edits report
      modifyRegistry (·.modify id fun _ => report)
      resultOf result
      return .report (some report)
  | .pickNext => return .selection (← MailSchedule.pickNext)
  | .rearm => return .selection (← MailSchedule.rearm env)
  | .snapshot account => return .snapshot (← takeSnapshot account)
  | .cancelTimer => do
    disarm env
    return .done
  | .runOne id started =>
    return .truth (← runIfDue id fun id => do env.call (.start id); return started)
  | .armWatchdog id =>
    return .deadline (← MailSchedule.armWatchdog env id) env.policy.watchdogDelay
  | .announce id => return .newMail (← MailSchedule.announce env id)
  | .resetCounts target => do
    MailSchedule.resetCounts env target
    return .done
  | .submit message => do
    MailSchedule.submit message
    return .done
  | .wake payload => do
    MailSchedule.wake payload
    return .done
  | .fire => do
    MailSchedule.wake ((← get).timer.map (·.payload))
    return .done
  | .drain => return .number (← MailSchedule.drain env limit)
  | .serve turns => do
    MailSchedule.serve env turns
    return .done
  | .close => do
    MailSchedule.close
    return .done
  | .restart => do
    Rehearsal.restart
    return .done

/-- Runs steps for their effects. -/
def runSteps (env : Surroundings World) (limit : Nat) : List Step → Act World Unit
  | [] => pure ()
  | s :: rest => do
    let _ ← runStep env limit s
    runSteps env limit rest

/-- Fails if calls of a kind are to fail. -/
def failIfSet (kind : Call.Kind) : Act World Unit := do
  match (← get).world.failures.lookup kind with
  | some f => throw f
  | none => pure ()

/-- Takes the steps that wait for a call of a kind. -/
def takeHook (kind : Call.Kind) : Act World (Option (List Step)) :=
  modifyGet fun sys =>
    let (steps, w) := sys.world.takeHook kind
    (steps, { sys with world := w })

/-! ## Scripts -/

/-- How a rehearsal is set up. -/
structure Setup where
  policy : Policy := {}
  reconciles : Bool := false
  /-- Whether someone is asked about background data. -/
  asksBackground : Bool := false
  clock : Int := 1000000
  world : World := {}

/-- The collaborators of a rehearsal.  Steps that wait for a call run among collaborators of one
depth less; each has its turn once, so the size of the script is depth enough. -/
def surroundings (setup : Setup) (limit : Nat) : Nat → Surroundings World
  | 0 => {
    policy := setup.policy
    source := worldSource
    checker := worldChecker
    reconciles := setup.reconciles
    backgroundData := if setup.asksBackground then some World.background else none
    during := fun c => failIfSet c.kind }
  | depth + 1 => { surroundings setup limit depth with
    during := fun c => do
      match ← takeHook c.kind with
      | some steps => onCurrent (runSteps (surroundings setup limit depth) limit steps)
      | none => pure ()
      failIfSet c.kind }

/-- What can be seen after a step. -/
structure Observation where
  result : Except Fault Answer
  calls : List Call
  reports : List Report
  timer : Option Wake
  notices : List Notice

/-- What can be seen of a system after a step with the given result. -/
def observe (result : Except Fault Answer) (s : System World) : Observation :=
  let events := s.journal.reverse
  { result
    calls := calls events
    reports := s.core.registry.reports
    timer := s.timer
    notices := notices events }

/-- Runs steps, each with an empty journal.  A poller that has been replaced during a step is out of
use when the step has ended. -/
def observeSteps (env : Surroundings World) (limit : Nat) (s : System World) :
    List Step → List Observation
  | [] => []
  | step :: rest =>
    let (result, s) := (runStep env limit step).run { s with journal := [] }
    let s := inUse s.world.current s
    observe result s :: observeSteps env limit s rest

/-- How many steps wait for calls. -/
def waitingWeight (hooks : List (Call.Kind × List Step)) : Nat :=
  hooks.foldl (fun n h => n + totalWeight h.2 + 1) 0

/-- Runs a script. -/
def rehearse (setup : Setup) (script : List Step) : List Observation :=
  let bound := totalWeight script + waitingWeight setup.world.hooks + 1
  observeSteps (surroundings setup bound bound) bound
    { clock := setup.clock, world := setup.world } script

end MailSchedule.Rehearsal
