import MailSchedule.Store.Source

/-!
# Scripts for the account store

A script that uses one account store directly.

Results:

* `runStep`: one step.
* `rehearse`: a script, with the answer of each step.
-/

namespace MailSchedule.Rehearsal.StoreScript

/-- A step of a script for the store. -/
inductive Step
  | connect
  | close
  /-- Runs steps between connecting and closing. -/
  | connected (steps : List Step)
  | dropTable (name : String)
  | tableNames
  | list
  | get (id : Int)
  | isSyncEnabled (email : Text)
  | count (id : Int)
  | idsWithProtocol (protocol : Text)
  | resetCount (target : Option Int)
  | setCount (id count : Int)
  | upsert (account : Account.Draft)
  | delete (id : Int)
  | setSync (email : Text) (on : Bool)
  deriving Repr

/-- What a step answers. -/
inductive Answer
  | done
  | truth (value : Bool)
  | count (value : Option Int)
  | ids (values : List Int)
  | names (values : List String)
  | account (value : Option Account)
  | accounts (values : List Account)
  | answers (values : List Answer)
  deriving Repr

/-- Runs an action between connecting and closing; a failure inside goes out after closing. -/
def between {α : Type} (act : Store.Act α) : Store.Act α := do
  Store.connect
  let a ← tryCatch act fun e => do
    Store.close
    throw e
  Store.close
  return a

mutual

/-- Runs one step. -/
def runStep : Step → Store.Act Answer
  | .connect => do
    Store.connect
    return .done
  | .close => do
    Store.close
    return .done
  | .connected steps => return .answers (← between (runSteps steps))
  | .dropTable name => do
    Store.dropTable name
    return .done
  | .tableNames => return .names (← Store.tableNames)
  | .list => return .accounts (← Store.list)
  | .get id => return .account (← Store.get id)
  | .isSyncEnabled email => return .truth (← Store.isSyncEnabled email)
  | .count id => return .count (← Store.count id)
  | .idsWithProtocol protocol => return .ids (← Store.idsWithProtocol protocol)
  | .resetCount target => do
    Store.resetCount target
    return .done
  | .setCount id count => do
    Store.setCount id count
    return .done
  | .upsert account => do
    Store.upsert account
    return .done
  | .delete id => return .truth (← Store.delete id)
  | .setSync email on => do
    Store.setSync email on
    return .done

/-- Runs steps one after the other. -/
def runSteps : List Step → Store.Act (List Answer)
  | [] => return []
  | s :: rest => do
    let a ← runStep s
    return a :: (← runSteps rest)

end

/-- Runs a script on a store; a step that fails does not end it. -/
def rehearse (s : Store) : List Step → List (Except Store.Error Answer)
  | [] => []
  | step :: rest =>
    let (result, s) := (runStep step).run s
    result :: rehearse s rest

end MailSchedule.Rehearsal.StoreScript
