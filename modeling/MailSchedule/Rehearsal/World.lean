import MailSchedule.Rehearsal.Step
import MailSchedule.Store.Source

/-!
# The world of a rehearsal

The collaborators of a rehearsed poller: a source of accounts, which is either a roster in memory
or an account store, mailboxes, and what is to happen during calls.
-/

namespace MailSchedule.Rehearsal

/-! ## Rosters -/

/-- Accounts in memory, in the order in which they came. -/
structure Roster where
  accounts : List Account.Draft := []
  /-- Addresses whose automatic checks are switched off. -/
  disabled : List Text := []
  counts : List (Int × Int) := []
  deriving DecidableEq, Repr

namespace Roster

/-- Puts an account: one with its number is replaced in its place. -/
def put (r : Roster) (a : Account.Draft) : Roster :=
  if r.accounts.any (·.id = a.id) then
    { r with accounts := r.accounts.map fun b => if b.id = a.id then a else b }
  else { r with accounts := r.accounts ++ [a] }

/-- Removes an account; its count stays. -/
def remove (r : Roster) (id : Int) : Roster :=
  { r with accounts := r.accounts.filter (·.id ≠ id) }

/-- The account with a number. -/
def find? (r : Roster) (id : Int) : Option Account.Draft := r.accounts.find? (·.id = id)

/-- Switches automatic checks for an address on or off. -/
def setSync (r : Roster) (email : Text) (on : Bool) : Roster :=
  if on then { r with disabled := r.disabled.filter (· ≠ email) }
  else { r with disabled := r.disabled.insert email }

/-- Sets a count. -/
def setCount (r : Roster) (id count : Int) : Roster :=
  { r with counts := (id, count) :: r.counts.filter (·.1 ≠ id) }

/-- The count of an account, if there is such an account. -/
def count? (r : Roster) (id : Int) : Option Int :=
  (r.find? id).map fun _ => (r.counts.lookup id).getD 0

/-- Sets one count, or all, to zero. -/
def resetCount (r : Roster) : Option Int → Roster
  | none => { r with counts := [] }
  | some id => r.setCount id 0

/-- The numbers of the accounts with a protocol. -/
def idsWithProtocol (r : Roster) (protocol : Text) : List Int :=
  (r.accounts.filter (·.protocol = some protocol)).map (·.id)

end Roster

/-- Where the accounts come from. -/
inductive Source
  | roster (r : Roster)
  | store (s : Store)
  deriving Repr

/-! ## Worlds -/

/-- The world of a rehearsal.  A poller that is replaced while it is being used stays parked under
its serial number until its use has ended. -/
structure World where
  source : Source := .roster {}
  inboxes : List (Int × Option Int) := []
  failures : List (Call.Kind × Fault) := []
  /-- Steps that wait for a call of a kind, the first ones first. -/
  hooks : List (Call.Kind × List Step) := []
  background : Bool := true
  deleteRemoves : Bool := true
  /-- Serial number of the poller that steps use. -/
  current : Nat := 0
  /-- Serial number of the poller in use. -/
  running : Nat := 0
  parked : List (Nat × Core) := []

/-- The mailbox of accounts of which nothing else is said. -/
def usualInbox : Int := 100

namespace World

/-- The inbox of an account. -/
def inbox (id : Int) (w : World) : Option Int :=
  (w.inboxes.lookup id).getD (some usualInbox)

/-- Takes the first steps that wait for a call of a kind. -/
def takeHook (w : World) (kind : Call.Kind) : Option (List Step) × World :=
  match w.hooks.find? fun h => h.1 = kind with
  | none => (none, w)
  | some h => (some h.2, { w with hooks := w.hooks.eraseP fun h => h.1 = kind })

/-- Makes calls of a kind fail, or no longer. -/
def setFailure (w : World) (kind : Call.Kind) (fault : Option Fault) : World :=
  let others := w.failures.filter (·.1 ≠ kind)
  { w with failures := match fault with
      | none => others
      | some f => (kind, f) :: others }

end World

/-- What the source of the world answers. -/
def ofSource {α : Type} (ofRoster : Roster → α × Roster) (ofStore : Store.Act α) :
    Reply World α := fun w =>
  match w.source with
  | .roster r =>
    let (a, r) := ofRoster r
    (.ok a, { w with source := .roster r })
  | .store s =>
    let (a, s) := ofStore.reply s
    (a, { w with source := .store s })

/-- What a source answers that stays as it is if it is a roster. -/
def askSource {α : Type} (ofRoster : Roster → α) (ofStore : Store.Act α) : Reply World α :=
  ofSource (fun r => (ofRoster r, r)) ofStore

/-- What a source answers that is only changed. -/
def changeSource (ofRoster : Roster → Roster) (ofStore : Store.Act Unit) : Reply World Unit :=
  ofSource (fun r => ((), ofRoster r)) ofStore

/-- The source after an account is removed.  The answer is whether there was one. -/
def removeAccount (id : Int) : Reply World Bool :=
  ofSource (fun r => ((r.find? id).isSome, r.remove id)) (Store.delete id)

/-- The source of accounts of the world. -/
def worldSource : AccountSource World where
  list := askSource (·.accounts) ((·.map Account.draft) <$> Store.list)
  get id := askSource (·.find? id) ((·.map Account.draft) <$> Store.get id)
  isSyncEnabled email := askSource (!·.disabled.contains email) (Store.isSyncEnabled email)
  count id := askSource (·.count? id) (Store.count id)
  resetCount target := changeSource (·.resetCount target) (Store.resetCount target)
  idsWithProtocol protocol :=
    askSource (·.idsWithProtocol protocol) (Store.idsWithProtocol protocol)

/-- The mail checker of the world. -/
def worldChecker : Checker World where
  inbox := World.inbox
  delete id w :=
    if w.deleteRemoves then
      let (result, w) := removeAccount id w
      (result.map fun _ => (), w)
    else (.ok (), w)

end MailSchedule.Rehearsal
