import MailSchedule.Proofs.Course
import MailSchedule.Proofs.Rehearsing

/-!
# Schedules that always hold

Whatever is done with a poller, and whatever its collaborators do while they are being called, every
account is tracked once and under its own number, and the time of its next check follows from the
time of its last one.  Collaborators may themselves use the poller, put another one in its place,
move the clock, change the accounts and fail, at any depth.

Results:

* `Act.Ordinary`: what is done with a poller by way of its operations.
* `Act.Ordinary.runIfDue`: starting a check that is due, whatever starts it.
* `Act.Ordinary.keeps_coherent`: it keeps pollers coherent.
* `Act.Ordinary.sound_from_start`: what holds of the registry after it.
-/

namespace MailSchedule

variable {ω α : Type}

/-! ## Ordinary actions -/

/-- What is done with a poller by way of its operations, in any order and depending on anything,
while around it time passes and other things happen.  What collaborators do while they are being
called is of the same kind. -/
inductive Act.Ordinary {ω : Type} : {α : Type} → Act ω α → Prop
  | pure {α : Type} (a : α) : Ordinary (Pure.pure a)
  | throw {α : Type} (e : Fault) : Ordinary (MonadExcept.throw e : Act ω α)
  | get : Ordinary MonadState.get
  | bind {α β : Type} {act : Act ω α} {next : α → Act ω β} :
    Ordinary act → (∀ a, Ordinary (next a)) → Ordinary (act >>= next)
  | tryCatch {α : Type} {act : Act ω α} {handle : Fault → Act ω α} :
    Ordinary act → (∀ e, Ordinary (handle e)) → Ordinary (MonadExcept.tryCatch act handle)
  /-- Something happens outside the poller.  Readings of the clock stay positive. -/
  | outside (f : System ω → System ω) : (∀ s, (f s).core = s.core) →
    (∀ s, 1 ≤ s.clock → 1 ≤ (f s).clock) → Ordinary (modify f)
  /-- A new poller takes the place of the old one. -/
  | restart : Ordinary (modify fun s => { s with core := {} })
  | use (env : Surroundings ω) (u : Use) : (∀ c, Ordinary (env.during c)) → Ordinary (u.act env)

namespace Act.Ordinary

theorem registry : Act.Ordinary (registry : Act ω Registry) :=
  .bind (.bind .get fun _ => .pure _) fun _ => .pure _

theorem ite {c : Prop} [Decidable c] {act act' : Act ω α} (h : act.Ordinary)
    (h' : act'.Ordinary) : Act.Ordinary (if c then act else act') := by
  split
  · exact h
  · exact h'

/-- Starting a check that is due is ordinary if the start is. -/
theorem runIfDue {start : Int → Act ω Bool} (h : ∀ id, (start id).Ordinary) (id : Int) :
    (runIfDue id start).Ordinary := by
  refine .bind registry fun r => ?_
  cases r.find? id with
  | none => exact .pure _
  | some report => exact .ite (h id) (.pure _)

/-- The induction is on how an action is put together: for a use of the poller it supplies that what
happens during calls keeps coherence, which is all that uses ask for. -/
theorem keeps_coherent {act : Act ω α} (h : act.Ordinary) : act.Keeps System.Coherent := by
  induction h with
  | pure a => exact .pure a
  | throw e => exact .throw e
  | get => exact .get
  | bind _ _ ih ihnext => exact ih.bind ihnext
  | tryCatch _ _ ih ihhandle => exact ih.tryCatch ihhandle
  | outside f hcore hclock =>
    intro s hs
    refine ⟨hclock s hs.1, ?_⟩
    show (f s).core.registry.Sound
    rw [hcore]
    exact hs.2
  | restart => exact fun s hs => ⟨hs.1, Registry.sound_empty⟩
  | use env u _ ih => exact (upholds_coherent (.of_during (fun _ _ _ hs => hs) ih)).use u

/-- From a poller that starts with nothing remembered ordinary actions lead to registries in which
every account has one report under its own number, and in which the next check of a scheduled
account is due at once or an interval after the last one. -/
theorem sound_from_start {act : Act ω α} (h : act.Ordinary) {s : System ω} (hcore : s.core = {})
    (hclock : 1 ≤ s.clock) :
    (act.run s).2.core.registry.ids.Nodup ∧
      ∀ e ∈ (act.run s).2.core.registry.entries, e.2.account = e.1 ∧
        e.2.nextSync =
          if 0 < e.2.interval then
            if e.2.prevSync = 0 then 0 else e.2.prevSync + e.2.interval * 60000
          else -1 := by
  have hstart : s.Coherent := ⟨hclock, by rw [hcore]; exact Registry.sound_empty⟩
  obtain ⟨-, hsound⟩ := h.keeps_coherent s hstart
  exact ⟨hsound.nodup, fun e he => ⟨hsound.account e he, hsound.onSchedule e he⟩⟩

end Act.Ordinary

/-! ## Collaborators that use the poller -/

namespace Rehearsal

theorem ordinary_inMemory (c : Call) : (inMemory.during c).Ordinary := by
  show (failIfSet c.kind).Ordinary
  refine .bind .get fun s => ?_
  cases s.world.failures.lookup c.kind with
  | none => exact .pure _
  | some f => exact .throw f

/-- Collaborators that have a check of the first account recorded while the accounts are listed. -/
def meddling : Surroundings World :=
  { inMemory with
    during := fun c =>
      if c.kind = .listAccounts then (Use.update 1 none).act inMemory else pure () }

theorem ordinary_meddling (c : Call) : (meddling.during c).Ordinary :=
  .ite (.use inMemory _ ordinary_inMemory) (.pure ())

/-- A snapshot with a number twice and with a negative time is restored, and then the registry is
rebuilt. -/
def restoreAndRefresh : Act World Unit := do
  (Use.restore { prevSyncTimes := [(2, -3), (2, 7)] }).act meddling
  Use.refresh.act meddling

theorem sound_after_restoreAndRefresh :
    (restoreAndRefresh.run freshPoller).2.core.registry.ids = [1, 2] ∧
      (restoreAndRefresh.run freshPoller).2.core.registry.ids.Nodup ∧
      ∀ e ∈ (restoreAndRefresh.run freshPoller).2.core.registry.entries, e.2.account = e.1 ∧
        e.2.nextSync =
          if 0 < e.2.interval then
            if e.2.prevSync = 0 then 0 else e.2.prevSync + e.2.interval * 60000
          else -1 := by
  have hordinary : restoreAndRefresh.Ordinary :=
    .bind (.use meddling _ ordinary_meddling) fun _ => .use meddling _ ordinary_meddling
  exact ⟨by decide +kernel, hordinary.sound_from_start rfl (by decide)⟩

end Rehearsal

end MailSchedule
