import MailSchedule.Proofs.AlwaysOnSchedule
import MailSchedule.Proofs.LaterClocks
import Mathlib.Data.List.Infix

/-!
# The origin of the clock

A clock counts from an arbitrary moment, and nothing that is done with a registry depends on which
one it is.  Two pollers that do the same in the same world, by clocks that read times a constant
apart, stay in step: what one remembers is what the other remembers, seen by its own clock.

This rests on readings being positive.  A reading of zero would be taken for no check at all.

Results:

* `Core.delayed`: what a poller remembers, by a clock that reads more.
* `Shifted`: two pollers whose clocks differ by a constant.
* `Act.InStep`: an action that keeps two pollers in step.
* `Surroundings.Timeless`: collaborators that do not depend on the origin of the clock.
* `Upkeep`: what is done with a registry, and what happens around it.
* `same_by_every_clock`: the same accounts are tracked and selected by both clocks, with the same
  times but for the constant.
-/

namespace MailSchedule

variable {ω α β : Type}

/-! ## What a poller remembers -/

namespace Core

/-- What is remembered, by a clock that reads so much more. -/
def delayed (d : Int) (c : Core) : Core :=
  { c with
    registry := c.registry.delayed d
    keepsakes := c.keepsakes.map (Option.map (Registry.delayed d)) }

/-- All times of checks that are remembered are movable. -/
structure Movable (d : Int) (c : Core) : Prop where
  registry : c.registry.Movable d
  keepsakes : ∀ r, some r ∈ c.keepsakes → r.Movable d

variable {d : Int} {c : Core} {built : Registry}

theorem delayed_replaceRegistry (hbuilt : built.delayed d = built) :
    (c.replaceRegistry built).delayed d = (c.delayed d).replaceRegistry built := by
  unfold replaceRegistry delayed
  dsimp only
  rw [hbuilt, List.map_map, List.map_map]
  congr 1
  refine List.map_congr_left fun k _ => ?_
  cases k <;> rfl

theorem Movable.replaceRegistry (h : c.Movable d) (hbuilt : built.Movable d) :
    (c.replaceRegistry built).Movable d where
  registry := hbuilt
  keepsakes := by
    intro r hr
    obtain ⟨k, hk, heq⟩ := List.mem_map.1 hr
    cases k with
    | none =>
      cases heq
      exact h.registry
    | some old =>
      cases heq
      exact h.keepsakes r hk

/-- What was built is published alike by both clocks. -/
theorem delayed_published (mode : LoadMode) (hbuilt : built.Unchecked) :
    (c.published mode built).delayed d = (c.delayed d).published mode built := by
  have hreplaced := delayed_replaceRegistry (c := c) (hbuilt.delayed (d := d))
  unfold published
  cases mode with
  | forceReset => exact hreplaced
  | fillIfEmpty =>
    show (if c.registry.isEmpty = true then _ else _ : Core).delayed d =
      if (c.registry.delayed d).isEmpty = true then _ else _
    rw [Registry.isEmpty_delayed]
    split
    · exact hreplaced
    · rfl
  | one id =>
    unfold delayed
    dsimp only
    rw [Registry.delayed_addMissing, hbuilt.delayed]

theorem Movable.published (h : c.Movable d) (mode : LoadMode) (hbuilt : built.Unchecked) :
    (c.published mode built).Movable d := by
  unfold Core.published
  cases mode with
  | forceReset => exact h.replaceRegistry hbuilt.movable
  | fillIfEmpty =>
    dsimp only
    split
    · exact h.replaceRegistry hbuilt.movable
    · exact h
  | one id => exact ⟨h.registry.addMissing hbuilt.movable, h.keepsakes⟩

/-- The registry whose times are taken over. -/
theorem Movable.kept (h : c.Movable d) : (c.keepsakes.head?.join.getD c.registry).Movable d := by
  cases hhead : c.keepsakes.head?.join with
  | none => exact h.registry
  | some r =>
    rw [Option.join_eq_some_iff] at hhead
    exact h.keepsakes r (List.mem_of_mem_head? hhead)

theorem delayed_kept : (c.delayed d).keepsakes.head?.join.getD (c.delayed d).registry =
    (c.keepsakes.head?.join.getD c.registry).delayed d := by
  unfold delayed
  dsimp only
  rw [List.head?_map]
  rcases c.keepsakes.head? with _ | _ | r <;> rfl

/-- Times are taken over alike by both clocks, by accounts that were never checked. -/
theorem delayed_carriedForward (h : c.Movable d) (hunchecked : c.registry.Unchecked)
    (tracked : List Int) :
    (c.carriedForward tracked).delayed d = (c.delayed d).carriedForward tracked := by
  have hcarried : (c.registry.carryForward
      ((c.keepsakes.head?.join.getD c.registry).restrict tracked)).delayed d =
      (c.delayed d).registry.carryForward
        (((c.delayed d).keepsakes.head?.join.getD (c.delayed d).registry).restrict tracked) := by
    rw [delayed_kept, ← Registry.delayed_restrict]
    exact hunchecked.delayed_carryForward (h.kept.restrict tracked)
  unfold carriedForward
  rw [← hcarried]
  unfold delayed
  dsimp only
  rw [List.map_drop]

theorem Movable.carriedForward (h : c.Movable d) (hunchecked : c.registry.Unchecked)
    (tracked : List Int) : (c.carriedForward tracked).Movable d where
  registry := hunchecked.movable_carryForward (h.kept.restrict tracked)
  keepsakes := fun r hr => h.keepsakes r (List.mem_of_mem_drop hr)

end Core

/-! ## Two pollers -/

/-- Two pollers in the same world.  The clock of the second one reads a constant more, and what it
remembers is what the first one remembers, by that clock. -/
structure Shifted (d : Int) (s s' : System ω) : Prop where
  core : s'.core = s.core.delayed d
  clock : s'.clock = s.clock + d
  world : s'.world = s.world
  movable : s.core.Movable d
  started : 1 ≤ s.clock
  started' : 1 ≤ s'.clock

/-- An action has the same result for both of two pollers, and leaves them related as they were. -/
def Act.InStep (act : Act ω α) (R : System ω → System ω → Prop) : Prop :=
  ∀ s s', R s s' → (act.run s').1 = (act.run s).1 ∧ R (act.run s).2 (act.run s').2

namespace Act.InStep

variable {R : System ω → System ω → Prop}

theorem pure (a : α) : Act.InStep (Pure.pure a) R := fun _ _ h => ⟨rfl, h⟩

theorem throw (e : Fault) : Act.InStep (MonadExcept.throw e : Act ω α) R := fun _ _ h => ⟨rfl, h⟩

theorem resultOf (r : Except Fault α) : Act.InStep (resultOf r) R := by
  cases r with
  | ok a => exact .pure a
  | error e => exact .throw e

/-- It succeeds for both or fails for both. -/
theorem outcomes {act : Act ω α} (h : act.InStep R) {s s' : System ω} (hs : R s s') :
    (∃ a t t', act.run s = (.ok a, t) ∧ act.run s' = (.ok a, t') ∧ R t t') ∨
      ∃ e t t', act.run s = (.error e, t) ∧ act.run s' = (.error e, t') ∧ R t t' := by
  obtain ⟨hresult, hafter⟩ := h s s' hs
  rcases hr : act.run s with ⟨_ | a, t⟩
  · rw [hr] at hresult hafter
    exact .inr ⟨_, t, (act.run s').2, rfl, Prod.ext hresult rfl, hafter⟩
  · rw [hr] at hresult hafter
    exact .inl ⟨a, t, (act.run s').2, rfl, Prod.ext hresult rfl, hafter⟩

/-- The second part may rely on what results of the first part are like. -/
theorem bind {act : Act ω α} {next : α → Act ω β} (h : act.InStep R)
    (hnext : ∀ a, (∃ s, (act.run s).1 = .ok a) → (next a).InStep R) : (act >>= next).InStep R := by
  intro s s' hs
  rw [Act.run_bind, Act.run_bind]
  rcases h.outcomes hs with ⟨a, t, t', hr, hr', hafter⟩ | ⟨e, t, t', hr, hr', hafter⟩
  · rw [hr, hr']
    exact hnext a ⟨s, congrArg Prod.fst hr⟩ t t' hafter
  · rw [hr, hr']
    exact ⟨rfl, hafter⟩

theorem ite {c : Prop} [Decidable c] {act act' : Act ω α} (h : act.InStep R) (h' : act'.InStep R) :
    Act.InStep (if c then act else act') R := by
  split
  · exact h
  · exact h'

end Act.InStep

namespace Shifted

variable {d : Int} {s s' : System ω}

theorem inStep_record (e : Event) : (record e : Act ω Unit).InStep (Shifted d) := fun _ _ h =>
  ⟨rfl, h.core, h.clock, h.world, h.movable, h.started, h.started'⟩

theorem inStep_note (n : Notice) : (note n : Act ω Unit).InStep (Shifted d) := inStep_record _

/-- Answers depend on nothing but the world. -/
theorem inStep_answer (reply : Reply ω α) : (answer reply).InStep (Shifted d) := by
  intro s s' h
  rcases hr : reply s.world with ⟨_ | a, w⟩
  · rw [run_answer_error s hr, run_answer_error s' (h.world ▸ hr)]
    exact ⟨rfl, h.core, h.clock, rfl, h.movable, h.started, h.started'⟩
  · rw [run_answer_ok s hr, run_answer_ok s' (h.world ▸ hr)]
    exact ⟨rfl, h.core, h.clock, rfl, h.movable, h.started, h.started'⟩

/-- What the poller remembers may be changed by each clock. -/
theorem of_core (h : Shifted d s s') {c c' : Core} (hcore : c' = c.delayed d)
    (hmovable : c.Movable d) : Shifted d { s with core := c } { s' with core := c' } :=
  ⟨hcore, h.clock, h.world, hmovable, h.started, h.started'⟩

theorem inStep_publish (mode : LoadMode) {built : Registry} (h : built.Unchecked) :
    (publish mode built : Act ω Unit).InStep (Shifted d) := by
  intro s s' hs
  rw [run_publish, run_publish]
  refine ⟨rfl, hs.of_core ?_ (hs.movable.published mode h)⟩
  rw [hs.core, Core.delayed_published mode h]

theorem inStep_clear : (clear : Act ω Unit).InStep (Shifted d) :=
  inStep_publish .forceReset Registry.unchecked_empty

/-- Both begin to remember the registry that they are to give up. -/
theorem keeping (h : Shifted d s s') :
    Shifted d { s with core := { s.core with keepsakes := none :: s.core.keepsakes } }
      { s' with core := { s'.core with keepsakes := none :: s'.core.keepsakes } } := by
  refine h.of_core ?_ ⟨h.movable.registry, fun r hr => ?_⟩
  · rw [h.core]
    rfl
  · exact h.movable.keepsakes r ((List.mem_cons.1 hr).resolve_left nofun)

/-- Both cease to remember the latest one. -/
theorem releasing (h : Shifted d s s') :
    Shifted d { s with core := { s.core with keepsakes := s.core.keepsakes.drop 1 } }
      { s' with core := { s'.core with keepsakes := s'.core.keepsakes.drop 1 } } := by
  refine h.of_core ?_ ⟨h.movable.registry, fun r hr =>
    h.movable.keepsakes r (List.mem_of_mem_drop hr)⟩
  rw [h.core]
  unfold Core.delayed
  dsimp only
  rw [List.map_drop]

/-- A check is recorded by each clock at its own time. -/
theorem checkedNow (h : Shifted d s s') (id : Int) (unseen : Option Int) :
    Shifted d (s.checkedNow id unseen) (s'.checkedNow id unseen) := by
  have hreading := h.started
  have hreading' := h.started'
  rw [h.clock] at hreading'
  have ht : s.clock ≠ neverChecked := by
    unfold neverChecked
    omega
  have ht' : s.clock + d ≠ neverChecked := by
    unfold neverChecked
    omega
  refine h.of_core ?_ ⟨h.movable.registry.modify_checked ht' id unseen, h.movable.keepsakes⟩
  rw [h.core, h.clock]
  unfold Core.delayed
  dsimp only
  rw [Registry.delayed_modify_checked ht ht']

end Shifted

/-! ## Operations on a registry -/

/-- Right after all accounts were loaded none of them counts as checked. -/
theorem unchecked_of_load_forceReset {env : Surroundings ω} {s s' : System ω}
    (h : (load env .forceReset).run s = (.ok (), s')) : s'.core.registry.Unchecked := by
  have hinforms : env.Informs fun _ => True := by
    constructor <;> intros <;> exact fun _ _ => trivial
  rcases load_cases hinforms .forceReset (s := s) trivial with ⟨hneeded, -⟩ |
    ⟨-, ⟨e, t, hr, -⟩ | ⟨rows, built, t, -, hr, hbuilt, -, -⟩⟩
  · cases hneeded
  · rw [hr] at h
    cases h
  · rw [hr] at h
    cases h
    exact hbuilt

/-- What happens during calls does not depend on the origin of the clock. -/
def Surroundings.Timeless (env : Surroundings ω) (d : Int) : Prop :=
  ∀ c, (env.during c).InStep (Shifted d)

namespace Surroundings.Timeless

variable {env : Surroundings ω} {d : Int} (h : env.Timeless d)
include h

theorem call (c : Call) : (env.call c).InStep (Shifted d) :=
  (Shifted.inStep_record (.called c)).bind fun _ _ => h c

theorem rowsFor (mode : LoadMode) : (rowsFor env mode).InStep (Shifted d) := by
  cases mode with
  | one id =>
    exact (h.call (.getAccount id)).bind fun _ _ =>
      (Shifted.inStep_answer _).bind fun _ _ => .pure _
  | fillIfEmpty => exact (h.call .listAccounts).bind fun _ _ => Shifted.inStep_answer _
  | forceReset => exact (h.call .listAccounts).bind fun _ _ => Shifted.inStep_answer _

theorem buildReport (row : Account.Draft) : (buildReport env row).InStep (Shifted d) :=
  (Act.InStep.resultOf _).bind fun _ _ => (h.call (.isSyncEnabled _)).bind fun _ _ =>
    (Shifted.inStep_answer _).bind fun _ _ => (Act.InStep.resultOf _).bind fun _ _ => .pure _

theorem buildReports (built : Registry) (rows : List Account.Draft) :
    (buildReports env built rows).InStep (Shifted d) := by
  induction rows generalizing built with
  | nil => exact .pure built
  | cons row rest ih =>
    exact .ite ((h.buildReport row).bind fun report _ => ih (built.put row.id report)) (ih built)

/-- Loading is needed for both pollers or for neither, and what is published was never checked. -/
theorem load (mode : LoadMode) : (load env mode).InStep (Shifted d) := by
  have hbuild : ∀ rows, Act.InStep (do
      let built ← MailSchedule.buildReports env .empty rows
      publish mode built) (Shifted d) := fun rows =>
    (h.buildReports .empty rows).bind fun built hbuilt =>
      Shifted.inStep_publish mode
        (hbuilt.elim fun _ hr => buildReports_ok Registry.unchecked_empty hr)
  intro s s' hs
  have hneeded : mode.isNeeded s'.core.registry = mode.isNeeded s.core.registry := by
    rw [hs.core]
    exact Registry.isNeeded_delayed d _ mode
  unfold MailSchedule.load
  rw [Act.run_bind, Act.run_bind, run_registry, run_registry]
  dsimp only
  rw [hneeded]
  exact Act.InStep.ite ((h.rowsFor mode).bind fun rows _ =>
    .ite ((Shifted.inStep_note _).bind fun _ _ => hbuild rows) (hbuild rows)) (.pure ()) s s' hs

theorem refresh : (refresh env).InStep (Shifted d) := by
  intro s s' hs
  have hids : s'.core.registry.ids = s.core.registry.ids := by
    rw [hs.core]
    exact Registry.ids_delayed d _
  rw [run_refresh, run_refresh, hids]
  rcases (h.load .forceReset).outcomes hs.keeping with ⟨_, t, t', hr, hr', hafter⟩ |
    ⟨e, t, t', hr, hr', hafter⟩
  · have hunchecked := unchecked_of_load_forceReset hr
    rw [hr, hr']
    refine ⟨rfl, hafter.of_core ?_ (hafter.movable.carriedForward hunchecked _)⟩
    rw [hafter.core, Core.delayed_carriedForward hafter.movable hunchecked]
  · rw [hr, hr']
    exact ⟨rfl, hafter.releasing⟩

theorem update (id : Int) (unseen : Option Int) :
    Act.InStep (do let _ ← update env id unseen) (Shifted d) := by
  intro s s' hs
  rw [Act.run_bind, Act.run_bind, run_update, run_update]
  rcases (h.load (.one id)).outcomes hs with ⟨_, t, t', hr, hr', hafter⟩ |
    ⟨e, t, t', hr, hr', hafter⟩
  · rw [hr, hr']
    exact ⟨rfl, hafter.checkedNow id unseen⟩
  · rw [hr, hr']
    exact ⟨rfl, hafter⟩

end Surroundings.Timeless

/-! ## What is done with a registry -/

/-- What is done with a registry, and what happens around it: it is loaded, rebuilt, told of a
check, or cleared; the world changes, or time passes. -/
inductive Upkeep (ω : Type)
  | load (mode : LoadMode)
  | refresh
  | update (id : Int) (unseen : Option Int)
  | clear
  | change (f : ω → ω)
  | advance (ms : Int)

namespace Upkeep

/-- What each of them amounts to. -/
def act (env : Surroundings ω) : Upkeep ω → Act ω Unit
  | load mode => MailSchedule.load env mode
  | refresh => MailSchedule.refresh env
  | update id unseen => do let _ ← MailSchedule.update env id unseen
  | clear => MailSchedule.clear
  | change f => modify fun s => { s with world := f s.world }
  | advance ms => modify fun s => { s with clock := s.clock + ms }

/-- The system after one step. -/
def after (env : Surroundings ω) (s : System ω) (u : Upkeep ω) : System ω := ((u.act env).run s).2

/-- The system after several steps. -/
def course (env : Surroundings ω) (s : System ω) (us : List (Upkeep ω)) : System ω :=
  us.foldl (after env) s

end Upkeep

/-- Two pollers that track nothing yet. -/
theorem Shifted.of_empty {d : Int} {s : System ω} (hempty : s.core.registry = .empty)
    (hkeepsakes : s.core.keepsakes = []) (hstarted : 1 ≤ s.clock) (hstarted' : 1 ≤ s.clock + d) :
    Shifted d s { s with clock := s.clock + d } := by
  obtain ⟨⟨registry, keepsakes, queue, closed, completed, announced⟩, timer, clock, journal,
    world⟩ := s
  cases hempty
  cases hkeepsakes
  exact ⟨rfl, rfl, rfl, ⟨Registry.movable_empty, nofun⟩, hstarted, hstarted'⟩

/-- A step keeps two pollers in step, if both clocks still have positive readings after it. -/
theorem Shifted.after {env : Surroundings ω} {d : Int} (henv : env.Timeless d) {s s' : System ω}
    (h : Shifted d s s') (u : Upkeep ω) (hclock : 1 ≤ (u.after env s).clock)
    (hclock' : 1 ≤ (u.after env s').clock) : Shifted d (u.after env s) (u.after env s') := by
  cases u with
  | load mode => exact (henv.load mode s s' h).2
  | refresh => exact (henv.refresh s s' h).2
  | update id unseen => exact (henv.update id unseen s s' h).2
  | clear => exact (inStep_clear s s' h).2
  | change f =>
    exact ⟨h.core, h.clock, congrArg f h.world, h.movable, h.started, h.started'⟩
  | advance ms =>
    refine ⟨h.core, ?_, h.world, h.movable, hclock, hclock'⟩
    show s'.clock + ms = s.clock + ms + d
    rw [h.clock]
    omega

/-- So do several steps.  The induction is from the last of them: the condition is on what comes
before each. -/
theorem Shifted.course {env : Surroundings ω} {d : Int} (henv : env.Timeless d) {s s' : System ω}
    (h : Shifted d s s') (us : List (Upkeep ω))
    (hclock : ∀ past, past <+: us →
      1 ≤ (Upkeep.course env s past).clock ∧ 1 ≤ (Upkeep.course env s' past).clock) :
    Shifted d (Upkeep.course env s us) (Upkeep.course env s' us) := by
  induction us using List.reverseRecOn with
  | nil => exact h
  | append_singleton us u ih =>
    have hbefore := ih fun past hpast => hclock past (hpast.trans (List.prefix_append us [u]))
    obtain ⟨hnow, hnow'⟩ := hclock (us ++ [u]) (List.prefix_refl _)
    unfold Upkeep.course at hnow hnow' hbefore ⊢
    rw [List.foldl_append] at hnow hnow' ⊢
    rw [List.foldl_append]
    exact hbefore.after henv u hnow hnow'

/-- Whatever is done with a registry that tracks nothing at first, by two clocks that start a
constant apart and never have a reading below one: at every point the same accounts are tracked by
both clocks, in the same order, and the reports are the same but for the times of checks that took
place and of checks that follow from them, which are that constant apart.  The same account is
selected, and the wakes are both at once or that constant apart.

Collaborators may use the poller while they are being called, as long as they do it in step. -/
theorem same_by_every_clock {env : Surroundings ω} {d : Int} (henv : env.Timeless d)
    {s : System ω} (hempty : s.core.registry = .empty) (hkeepsakes : s.core.keepsakes = [])
    (us : List (Upkeep ω))
    (hclock : ∀ past, past <+: us → 1 ≤ (Upkeep.course env s past).clock ∧
      1 ≤ (Upkeep.course env { s with clock := s.clock + d } past).clock)
    {past : List (Upkeep ω)} (hpast : past <+: us) :
    let one := Upkeep.course env s past
    let other := Upkeep.course env { s with clock := s.clock + d } past
    other.clock = one.clock + d ∧
      other.core.registry.ids = one.core.registry.ids ∧
      other.core.registry.entries =
        one.core.registry.entries.map (fun e => (e.1, e.2.delayed d)) ∧
      (one.core.registry.pickNext one.clock).Later d
        (other.core.registry.pickNext other.clock) := by
  obtain ⟨hstarted, hstarted'⟩ := hclock [] (List.nil_prefix)
  have hstart := Shifted.of_empty hempty hkeepsakes hstarted hstarted'
  have hshifted := hstart.course henv past fun earlier hearlier =>
    hclock earlier (hearlier.trans hpast)
  refine ⟨hshifted.clock, ?_, ?_, ?_⟩
  · rw [hshifted.core]
    exact Registry.ids_delayed d _
  · rw [hshifted.core]
    rfl
  · rw [hshifted.core, hshifted.clock]
    exact Registry.pickNext_delayed hshifted.movable.registry _

/-! ## A poller that is started late -/

namespace Rehearsal

theorem timeless_inMemory (d : Int) : inMemory.Timeless d := by
  intro c s s' h
  show (((surroundings {} 1 0).during c).run s').1 = (((surroundings {} 1 0).during c).run s).1 ∧
    Shifted d (((surroundings {} 1 0).during c).run s).2 (((surroundings {} 1 0).during c).run s').2
  rw [run_during, run_during, h.world]
  exact ⟨rfl, h⟩

/-- Collaborators that have a check recorded meanwhile do so by either clock. -/
theorem timeless_meddling (d : Int) : meddling.Timeless d := fun _ =>
  .ite ((timeless_inMemory d).update 1 none) (.pure ())

/-- An account is checked, another one goes, and the registry is rebuilt. -/
def shortUpkeep : List (Upkeep World) := [
  .refresh,
  .advance 5000,
  .update 2 (some 3),
  .change fun w => { w with source := .roster { accounts := twoAccounts.accounts.drop 1 } },
  .refresh]

/-- The clock of the second poller has just started. -/
theorem same_by_every_clock_shortUpkeep : ∃ one other : System World,
    Upkeep.course meddling freshPoller shortUpkeep = one ∧
      Upkeep.course meddling { freshPoller with clock := freshPoller.clock + -999000 }
        shortUpkeep = other ∧
      one.core.registry.entries = [(2, (Report.fresh 2 60 true false).scheduleFrom 1005000)] ∧
      other.core.registry.entries = [(2, (Report.fresh 2 60 true false).scheduleFrom 6000)] ∧
      one.core.registry.pickNext one.clock = ⟨some 2, 4605000⟩ ∧
      other.core.registry.pickNext other.clock = ⟨some 2, 3606000⟩ := by
  have hclock : ∀ past ∈ shortUpkeep.inits,
      1 ≤ (Upkeep.course meddling freshPoller past).clock ∧
        1 ≤ (Upkeep.course meddling { freshPoller with clock := freshPoller.clock + -999000 }
          past).clock := by decide +kernel
  obtain ⟨-, -, hentries, haccount, hwake⟩ := same_by_every_clock (timeless_meddling (-999000))
    (s := freshPoller) rfl rfl shortUpkeep
    (fun past hpast => hclock past ((List.mem_inits ..).2 hpast)) (List.prefix_refl shortUpkeep)
  have hone : (Upkeep.course meddling freshPoller shortUpkeep).core.registry.entries =
      [(2, (Report.fresh 2 60 true false).scheduleFrom 1005000)] := by decide +kernel
  have hpick : (Upkeep.course meddling freshPoller shortUpkeep).core.registry.pickNext
      (Upkeep.course meddling freshPoller shortUpkeep).clock = ⟨some 2, 4605000⟩ := by
    decide +kernel
  rw [hone] at hentries
  rw [hpick] at haccount hwake
  refine ⟨_, _, rfl, rfl, hone, ?_, hpick, ?_⟩
  · rw [hentries]
    decide +kernel
  · have hlater := hwake.resolve_left fun hnow => absurd hnow.1 (by decide)
    generalize Registry.pickNext _ _ = selection at haccount hlater ⊢
    obtain ⟨account, wake⟩ := selection
    cases haccount
    cases hlater
    rfl

end Rehearsal

end MailSchedule
