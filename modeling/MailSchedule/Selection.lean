import MailSchedule.Registry

/-!
# Selection

Which account to check next.  An account that was never checked wins outright, then one that is
overdue, then the one that is due soonest; accounts that are not scheduled do not take part.

Results:

* `Registry.pickNext`: the account to check next and the time at which to wake for it.
-/

namespace MailSchedule

/-- The account to check next, if there is one, and the time at which to wake for it. -/
structure Selection where
  account : Option Int
  wake : Int := dueNow
  deriving DecidableEq, Repr, Inhabited

/-- The best candidates of each class among the reports seen. -/
structure Candidates where
  neverChecked : Option Report := none
  overdue : Option Report := none
  soonest : Option Report := none

namespace Candidates

/-- Whether a report is due earlier than the soonest one seen. -/
def isSooner (c : Candidates) (r : Report) : Bool :=
  match c.soonest with
  | none => true
  | some s => r.nextSync < s.nextSync

/-- Takes one more report into account.  Of several in the first two classes the last one stays, of
several that are due at the same time the first one. -/
def consider (now : Int) (c : Candidates) (r : Report) : Candidates :=
  if r.interval ≤ 0 then c
  else if r.prevSync = MailSchedule.neverChecked then { c with neverChecked := some r }
  else if r.nextSync < now then { c with overdue := some r }
  else if c.isSooner r then { c with soonest := some r }
  else c

/-- The selection among the candidates. -/
def selection (c : Candidates) : Selection :=
  match c.neverChecked, c.overdue, c.soonest with
  | some r, _, _ => ⟨some r.account, dueNow⟩
  | none, some r, _ => ⟨some r.account, dueNow⟩
  | none, none, some r => ⟨some r.account, r.nextSync⟩
  | none, none, none => ⟨none, dueNow⟩

end Candidates

/-- The account to check next, at the given time. -/
def Registry.pickNext (r : Registry) (now : Int) : Selection :=
  (r.reports.foldl (Candidates.consider now) {}).selection

end MailSchedule
