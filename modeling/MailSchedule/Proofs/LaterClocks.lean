import MailSchedule.Proofs.Selecting

/-!
# Registries by another clock

Some of what a registry remembers are moments in time: when an account was checked, and when its
next check is due if that follows from the last one.  Seen by a clock that reads a constant more,
these moments are that constant later.  The values that stand for no moment, of an account that was
never checked and of one that is due at once or not at all, are the same by every clock.

Results:

* `Report.delayed`, `Registry.delayed`: reports and registries by a clock that reads more.
* `Registry.delayed_modify_checked`, `Registry.Unchecked.delayed_carryForward`: checks are recorded,
  and times taken over, alike by both clocks.
* `Registry.pickNext_delayed`: the same account is selected by both.
-/

namespace MailSchedule

/-! ## Reports by another clock -/

namespace Report

/-- The report by a clock that reads so much more.  It is the same if the account was never checked.
Otherwise the time of its last check differs, and the time of its next one if it has one. -/
def delayed (d : Int) (r : Report) : Report :=
  if r.prevSync = neverChecked then r
  else { r with
    prevSync := r.prevSync + d
    nextSync := if 0 < r.interval then r.nextSync + d else r.nextSync }

/-- By the other clock, too, the time of a check is not the one that stands for none. -/
def Movable (d : Int) (r : Report) : Prop :=
  r.prevSync ≠ neverChecked → r.prevSync + d ≠ neverChecked

variable {d : Int} {r : Report}

theorem delayed_of_neverChecked (h : r.prevSync = neverChecked) : r.delayed d = r := if_pos h

theorem movable_of_neverChecked (h : r.prevSync = neverChecked) : r.Movable d :=
  fun hchecked => absurd h hchecked

@[simp]
theorem delayed_account (d : Int) (r : Report) : (r.delayed d).account = r.account := by
  unfold delayed
  split <;> rfl

@[simp]
theorem delayed_interval (d : Int) (r : Report) : (r.delayed d).interval = r.interval := by
  unfold delayed
  split <;> rfl

theorem delayed_prevSync (h : r.prevSync ≠ neverChecked) :
    (r.delayed d).prevSync = r.prevSync + d := by
  unfold delayed
  rw [if_neg h]

/-- What decides about the selection is the same by both clocks, but for the constant. -/
theorem Movable.moved_delayed (h : r.Movable d) : r.Moved d (r.delayed d) where
  interval := delayed_interval d r
  never := by
    by_cases hchecked : r.prevSync = neverChecked
    · rw [delayed_of_neverChecked hchecked]
    · rw [delayed_prevSync hchecked]
      exact iff_of_false (h hchecked) hchecked
  next hi hchecked := by
    unfold delayed
    rw [if_neg hchecked]
    exact if_pos hi

/-- A check is recorded alike by both clocks. -/
theorem delayed_scheduleFrom {t : Int} (ht : t ≠ neverChecked) (ht' : t + d ≠ neverChecked)
    (r : Report) : (r.scheduleFrom t).delayed d = (r.delayed d).scheduleFrom (t + d) := by
  obtain ⟨account, interval, prevSync, nextSync, enabled, notify, unseen, lastUnseen⟩ := r
  by_cases hi : 0 < interval
  · -- The next check follows from this one, by each clock.
    have hnext : t + interval * minute + d = t + d + interval * minute := by omega
    by_cases hp : prevSync = neverChecked <;>
      simp [scheduleFrom, delayed, ht, ht', hi, hp, hnext]
  · by_cases hp : prevSync = neverChecked <;> simp [scheduleFrom, delayed, ht, hi, hp]

theorem delayed_checked {t : Int} (ht : t ≠ neverChecked) (ht' : t + d ≠ neverChecked)
    (r : Report) (unseen : Option Int) :
    (r.checked t unseen).delayed d = (r.delayed d).checked (t + d) unseen := by
  unfold checked
  rw [← delayed_scheduleFrom ht ht']
  unfold delayed
  simp only [scheduleFrom_prevSync]
  rw [if_neg ht, if_neg ht]

/-- An account that was never checked takes the time of a report over alike by both clocks. -/
theorem delayed_scheduleFrom_prevSync {old : Report} (h : r.prevSync = neverChecked)
    (hold : old.Movable d) : (r.scheduleFrom old.prevSync).delayed d =
      (r.delayed d).scheduleFrom (old.delayed d).prevSync := by
  by_cases hchecked : old.prevSync = neverChecked
  · rw [delayed_of_neverChecked hchecked, delayed_of_neverChecked h, hchecked,
      scheduleFrom_neverChecked h, delayed_of_neverChecked h]
  · rw [delayed_prevSync hchecked]
    exact delayed_scheduleFrom hchecked (hold hchecked) r

end Report

/-! ## Registries by another clock -/

namespace Registry

/-- The registry by a clock that reads so much more. -/
def delayed (d : Int) (r : Registry) : Registry := r.map (Report.delayed d)

/-- All its reports are movable. -/
def Movable (d : Int) (r : Registry) : Prop := ∀ e ∈ r.entries, e.2.Movable d

variable {d : Int}

theorem movable_empty : empty.Movable d := fun _ he => absurd he List.not_mem_nil

@[simp]
theorem ids_delayed (d : Int) (r : Registry) : (r.delayed d).ids = r.ids := ids_map ..

theorem contains_delayed (d : Int) (r : Registry) (id : Int) :
    (r.delayed d).contains id = r.contains id := by
  unfold contains delayed
  rw [find?_map, Option.isSome_map]

theorem isEmpty_delayed (d : Int) (r : Registry) : (r.delayed d).isEmpty = r.isEmpty := by
  unfold isEmpty delayed map
  exact List.isEmpty_map

/-- Loading is needed by both clocks or by neither. -/
theorem isNeeded_delayed (d : Int) (r : Registry) (mode : LoadMode) :
    mode.isNeeded (r.delayed d) = mode.isNeeded r := by
  cases mode with
  | fillIfEmpty => exact isEmpty_delayed d r
  | forceReset => rfl
  | one id => exact congrArg (!·) (contains_delayed d r id)

theorem Unchecked.movable {r : Registry} (h : r.Unchecked) : r.Movable d :=
  fun e he => Report.movable_of_neverChecked (h.never e he)

/-- Registries that are built are the same by every clock. -/
theorem Unchecked.delayed {r : Registry} (h : r.Unchecked) : r.delayed d = r := by
  apply ext_entries
  show r.entries.map (fun e => (e.1, e.2.delayed d)) = r.entries
  conv_rhs => rw [← r.entries.map_id]
  refine List.map_congr_left fun e he => ?_
  rw [Report.delayed_of_neverChecked (h.never e he)]
  rfl

theorem delayed_addMissing (d : Int) (r fresh : Registry) :
    (r.addMissing fresh).delayed d = (r.delayed d).addMissing (fresh.delayed d) := by
  obtain ⟨es⟩ := fresh
  show (es.foldl (fun acc e => acc.putNew e.1 e.2) r).delayed d =
    (es.map fun e => (e.1, e.2.delayed d)).foldl (fun acc e => acc.putNew e.1 e.2) (r.delayed d)
  induction es generalizing r with
  | nil => rfl
  | cons e es ih =>
    have hput : (r.putNew e.1 e.2).delayed d = (r.delayed d).putNew e.1 (e.2.delayed d) := by
      unfold putNew
      rw [contains_delayed]
      split
      · rfl
      · simp [delayed, map]
    rw [List.map_cons, List.foldl_cons, List.foldl_cons, ih, hput]

theorem delayed_restrict (d : Int) (r : Registry) (ids : List Int) :
    (r.restrict ids).delayed d = (r.delayed d).restrict ids := by
  apply ext_entries
  show (r.entries.filter _).map _ = (r.entries.map _).filter _
  rw [List.filter_map]
  rfl

/-- A check is recorded alike by both clocks. -/
theorem delayed_modify_checked {t : Int} (ht : t ≠ neverChecked) (ht' : t + d ≠ neverChecked)
    (r : Registry) (id : Int) (unseen : Option Int) :
    (r.modify id fun report => report.checked t unseen).delayed d =
      (r.delayed d).modify id fun report => report.checked (t + d) unseen := by
  apply ext_entries
  rw [entries_modify]
  show ((r.modify id _).entries.map _) = (r.entries.map _).map _
  rw [entries_modify, List.map_map, List.map_map]
  refine List.map_congr_left fun e _ => ?_
  dsimp only [Function.comp_apply]
  split
  · rw [Report.delayed_checked ht ht']
  · rfl

/-- Times of checks are taken over alike by both clocks. -/
theorem Unchecked.delayed_carryForward {r earlier : Registry} (h : r.Unchecked)
    (hearlier : earlier.Movable d) :
    (r.carryForward earlier).delayed d = (r.delayed d).carryForward (earlier.delayed d) := by
  apply ext_entries
  show (r.entries.map _).map _ = (r.entries.map _).map _
  rw [List.map_map, List.map_map]
  refine List.map_congr_left fun e he => ?_
  dsimp only [Function.comp_apply]
  rw [Report.delayed_account, Registry.delayed, find?_map]
  cases hfind : earlier.find? e.2.account with
  | none => rfl
  | some old =>
    exact congrArg (e.1, ·) (Report.delayed_scheduleFrom_prevSync (h.never e he)
      (hearlier _ (mem_of_find? hfind)))

theorem Movable.addMissing {r fresh : Registry} (h : r.Movable d) (hfresh : fresh.Movable d) :
    (r.addMissing fresh).Movable d := fun e he =>
  (mem_entries_addMissing he).elim (h e) (hfresh e)

theorem Movable.modify_checked {t : Int} (ht' : t + d ≠ neverChecked) {r : Registry}
    (h : r.Movable d) (id : Int) (unseen : Option Int) :
    (r.modify id fun report => report.checked t unseen).Movable d := by
  intro e he
  rw [entries_modify] at he
  obtain ⟨e', he', rfl⟩ := List.mem_map.1 he
  dsimp only
  split
  · intro _
    rw [Report.checked_prevSync]
    exact ht'
  · exact h e' he'

theorem Unchecked.movable_carryForward {r earlier : Registry} (h : r.Unchecked)
    (hearlier : earlier.Movable d) : (r.carryForward earlier).Movable d := by
  intro e he
  obtain ⟨e', he', rfl⟩ := List.mem_map.1 he
  dsimp only
  cases hfind : earlier.find? e'.2.account with
  | none => exact Report.movable_of_neverChecked (h.never e' he')
  | some old =>
    dsimp only
    unfold Report.Movable
    rw [Report.scheduleFrom_prevSync]
    exact hearlier _ (mem_of_find? hfind)

theorem Movable.restrict {r : Registry} (h : r.Movable d) (ids : List Int) :
    (r.restrict ids).Movable d := fun e he => h e (List.mem_filter.1 he).1

end Registry

/-- By both clocks the same account is selected. -/
theorem Registry.pickNext_delayed {d : Int} {r : Registry} (h : r.Movable d) (now : Int) :
    (r.pickNext now).Later d ((r.delayed d).pickNext (now + d)) := by
  refine pickNext_map (Report.delayed_account d) (fun report hmem => ?_) now
  obtain ⟨e, he, rfl⟩ := List.mem_map.1 hmem
  exact (h e he).moved_delayed

end MailSchedule
