import MailSchedule.Announcing
import MailSchedule.Store.Basic
import MailSchedule.Waking

/-!
# Scripts

A rehearsal runs a poller, or parts of it, among scripted collaborators.  A script is a list of
steps: some change the world, some use the parts of the poller directly, some go through the
poller's queue.
-/

namespace MailSchedule.Rehearsal

/-! ## Reports under trial -/

/-- A value for one field of a report. -/
inductive Edit
  | account (value : Int)
  | interval (value : Int)
  | prevSync (value : Int)
  | nextSync (value : Int)
  | enabled (value : Bool)
  | notify (value : Bool)
  | unseen (value : Int)
  | lastUnseen (value : Int)
  /-- The name of what is worked out from the fields. -/
  | derived (name : String)
  /-- A name that no field has. -/
  | unknown (name : Text)
  deriving DecidableEq, Repr

/-- The names of what is worked out from the fields of a report. -/
def derivedNames : List String := ["is_scheduled", "just_fetched_count"]

/-- The fault of setting what is worked out from the fields. -/
def derivedFault (name : String) : Fault :=
  ⟨.other "AttributeError", "property '" ++ name ++ "' of 'SyncReport' object has no setter"⟩

/-- Sets one field.  Nothing comes of a name that no field has. -/
def Edit.apply (r : Report) : Edit → Except Fault Report
  | .account v => .ok { r with account := v }
  | .interval v => .ok { r with interval := v }
  | .prevSync v => .ok { r with prevSync := v }
  | .nextSync v => .ok { r with nextSync := v }
  | .enabled v => .ok { r with enabled := v }
  | .notify v => .ok { r with notify := v }
  | .unseen v => .ok { r with unseen := v }
  | .lastUnseen v => .ok { r with lastUnseen := v }
  | .derived name => .error (derivedFault name)
  | .unknown _ => .ok r

/-- Sets fields one after the other.  What is set before a fault stays set. -/
def applyEdits : List Edit → Report → Except Fault Unit × Report
  | [], r => (.ok (), r)
  | e :: rest, r =>
    match e.apply r with
    | .ok r => applyEdits rest r
    | .error f => (.error f, r)

/-- The name of a field without a default that an edit sets. -/
def Edit.requirement? : Edit → Option String
  | .account _ => some "account_id"
  | .interval _ => some "sync_interval"
  | _ => none

/-- The name of an edit that sets no field. -/
def Edit.unknownName? : Edit → Option Text
  | .derived name => some name
  | .unknown name => some name
  | _ => none

/-- The fields without a default that edits leave out. -/
def requirementsLeftOut (edits : List Edit) : List String :=
  ["account_id", "sync_interval"].filter fun name =>
    !(edits.filterMap Edit.requirement?).contains name

/-- The fault of building a report from edits that cannot make one. -/
def buildFault (problem : Text) : Fault :=
  ⟨.other "TypeError", "SyncReport.__init__() " ++ problem⟩

/-- The report whose fields are those of the edits and otherwise the defaults.  A name that no field
has is refused before a field is found to be left out. -/
def reportOfEdits (edits : List Edit) : Except Fault Report :=
  match edits.findSome? Edit.unknownName?, requirementsLeftOut edits with
  | some name, _ => .error (buildFault ("got an unexpected keyword argument '" ++ name ++ "'"))
  | none, [] => .ok (applyEdits edits { account := 0, interval := 0 }).2
  | none, [name] =>
    .error (buildFault ("missing 1 required positional argument: '" ++ name ++ "'"))
  | none, names =>
    .error (buildFault ("missing 2 required positional arguments: " ++
      " and ".intercalate (names.map fun name => "'" ++ name ++ "'")))

/-- A step of a trial of one report. -/
inductive Trial
  | schedule (time : Int)
  | assign (edits : List Edit)
  deriving Repr

/-- The report after a step. -/
def Trial.apply (r : Report) : Trial → Except Fault Report
  | .schedule time => .ok (r.scheduleFrom time)
  | .assign edits =>
    let (result, r) := applyEdits edits r
    result.map fun _ => r

/-- The report before any step and after each. -/
def trialStates (r : Report) : List Trial → Except Fault (List Report)
  | [] => .ok [r]
  | t :: rest => do return r :: (← trialStates (← t.apply r) rest)

/-! ## Steps -/

/-- A step of a script. -/
inductive Step
  /-- Moves the clock. -/
  | advance (span : Int)
  | setClock (time : Int)
  | addAccount (account : Account.Draft)
  | removeAccount (id : Int)
  | setSync (email : Text) (on : Bool)
  | setCount (id count : Int)
  | storedCount (id : Int)
  | setInbox (id : Int) (inbox : Option Int)
  | setBackground (on : Bool)
  /-- Makes calls of a kind fail, or no longer. -/
  | setFailure (target : Call.Kind) (fault : Option Fault)
  /-- Has steps run during the next call of a kind. -/
  | onCall (target : Call.Kind) (steps : List Step)
  | raise (fault : Fault)
  | load (mode : LoadMode)
  | refresh
  | update (id : Int) (count : Option Int)
  | restore (snapshot : Snapshot)
  | get (id : Int)
  | describe (id : Int)
  | contains (id : Int)
  | size
  | clear
  /-- Sets fields of a report directly. -/
  | poke (id : Int) (edits : List Edit)
  | pickNext
  | rearm
  | snapshot (account : Option Int)
  | cancelTimer
  /-- Starts a check if it is due; starting answers as given. -/
  | runOne (id : Int) (started : Bool)
  | armWatchdog (id : Int)
  | announce (id : Int)
  | resetCounts (target : Option Int)
  | submit (message : Message)
  | wake (payload : Option Payload)
  /-- The wake timer goes off with what it holds, and keeps it. -/
  | fire
  | drain
  | serve (turns : Nat)
  | close
  /-- A new poller takes the place of the old one; only the world stays. -/
  | restart
  deriving Repr

mutual

/-- How many steps a step consists of, those that it has run during calls included. -/
def Step.weight : Step → Nat
  | .onCall _ steps => totalWeight steps + 1
  | _ => 1

/-- How many steps a script consists of. -/
def totalWeight : List Step → Nat
  | [] => 0
  | s :: rest => s.weight + totalWeight rest

end

/-- What a step answers. -/
inductive Answer
  | done
  | number (value : Int)
  | count (value : Option Int)
  | truth (value : Bool)
  | report (value : Option Report)
  | description (value : Option Report)
  | selection (value : Selection)
  | snapshot (value : Snapshot)
  | deadline (time delay : Int)
  | newMail (value : Option NewMail)
  deriving Repr

end MailSchedule.Rehearsal
