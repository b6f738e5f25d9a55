import MailSchedule.Proofs.Rebuilding

/-!
# A snapshot fills gaps only

A snapshot may be outdated, and it may list accounts that are not tracked, accounts more than once,
and times that stand for none.  None of this does any harm, because a snapshot is only believed
about accounts of which no check is known.  Of the times that it lists for such an account the first
that is one counts; whatever else is known stays.  So nothing is left to do when the same snapshot
is restored again, and there is nothing to do for a snapshot of the registry itself.

The loop over the pairs of a snapshot tests the very time that it sets.  It is described here by
what it comes to for each report.

Results:

* `firstTime`: the time that counts for an account.
* `Registry.GapsFilled`: a registry whose gaps were filled from some pairs.
* `Registry.restore_restore`, `Registry.restore_perm`: filling gaps again, and in another order.
* `restored_fills_gaps_only`: all of this for a poller and its account store.
-/

namespace MailSchedule

variable {ω : Type}

/-! ## The time that counts -/

/-- The first time of a check that is listed for a number, or else the time that stands for none. -/
def firstTime (pairs : List (Int × Int)) (id : Int) : Int :=
  ((pairs.find? fun p => p.1 = id ∧ p.2 ≠ neverChecked).map (·.2)).getD neverChecked

@[simp]
theorem firstTime_nil (id : Int) : firstTime [] id = neverChecked := rfl

theorem firstTime_cons (p : Int × Int) (pairs : List (Int × Int)) (id : Int) :
    firstTime (p :: pairs) id =
      if p.1 = id ∧ p.2 ≠ neverChecked then p.2 else firstTime pairs id := by
  unfold firstTime
  rw [List.find?_cons]
  by_cases hp : p.1 = id ∧ p.2 ≠ neverChecked
  · simp [hp]
  · rw [decide_eq_false hp, if_neg hp]

/-- Where no number is listed twice, the order of the pairs does not matter. -/
theorem firstTime_perm {pairs pairs' : List (Int × Int)} (h : pairs.Perm pairs')
    (hnodup : (pairs.map (·.1)).Nodup) (id : Int) : firstTime pairs id = firstTime pairs' id := by
  induction h with
  | nil => rfl
  | cons p _ ih =>
    rw [firstTime_cons, firstTime_cons, ih (List.nodup_cons.1 hnodup).2]
  | swap p q pairs =>
    have hne : q.1 ≠ p.1 := by
      intro heq
      simp [heq] at hnodup
    simp only [firstTime_cons]
    by_cases hp : p.1 = id
    · have hq : ¬q.1 = id := fun hq => hne (hq.trans hp.symm)
      simp [hq]
    · simp [hp]
  | trans hfirst _ ih ih' =>
    rw [ih hnodup, ih' ((hfirst.map _).nodup_iff.1 hnodup)]

/-! ## One report -/

namespace Report

/-- Where a check is known, times that are filled in change nothing. -/
theorem fill_of_known {r : Report} (h : r.prevSync ≠ neverChecked) (times : List Int) :
    r.fill times = r := by
  induction times with
  | nil => rfl
  | cons t ts ih =>
    show (if r.prevSync = neverChecked then r.scheduleFrom t else r).fill ts = r
    rw [if_neg h]
    exact ih

/-- Where none is known, the first time that is one is recorded. -/
theorem fill_of_neverChecked {r : Report} (h : r.prevSync = neverChecked)
    (pairs : List (Int × Int)) (id : Int) :
    r.fill ((pairs.filter fun p => p.1 = id).map (·.2)) = r.scheduleFrom (firstTime pairs id) := by
  induction pairs with
  | nil => exact (scheduleFrom_neverChecked h).symm
  | cons p ps ih =>
    rw [firstTime_cons]
    by_cases hid : p.1 = id
    · rw [List.filter_cons_of_pos (by simpa using hid), List.map_cons]
      show (if r.prevSync = neverChecked then r.scheduleFrom p.2 else r).fill _ = _
      rw [if_pos h]
      by_cases htime : p.2 = neverChecked
      · -- The entry stands for no check: the report is still as it was, and the next one counts.
        rw [htime, scheduleFrom_neverChecked h, if_neg (fun hp => hp.2 rfl)]
        exact ih
      · rw [if_pos ⟨hid, htime⟩]
        exact fill_of_known (by rw [scheduleFrom_prevSync]; exact htime) _
    · rw [List.filter_cons_of_neg (by simpa using hid), if_neg (fun hp => hid hp.1)]
      exact ih

/-- A report on schedule stays so when a first time is recorded, and nothing else changes. -/
theorem OnSchedule.scheduleFrom_eq {r : Report} (h : r.OnSchedule)
    (hnever : r.prevSync = neverChecked) (t : Int) :
    r.scheduleFrom t = { r with
      prevSync := t
      nextSync :=
        if 0 < r.interval then if t = neverChecked then dueNow else t + r.interval * minute
        else notScheduled } := by
  unfold OnSchedule at h
  rw [hnever, if_pos rfl] at h
  unfold Report.scheduleFrom
  by_cases hi : 0 < r.interval
  · rw [if_pos hi] at h
    by_cases ht : t = neverChecked
    · simp [hi, ht, h]
    · simp [hi, ht]
  · rw [if_neg hi] at h
    simp [hi, h]

end Report

/-! ## A registry -/

namespace Registry

/-- The gaps of one registry were filled from some pairs, which led to another one.  The same
accounts are tracked in the same order.  Reports of accounts that were checked are as they were.
The others were given the time that counts, their next check follows from it, and nothing else of
them has changed. -/
structure GapsFilled (pairs : List (Int × Int)) (r r' : Registry) : Prop where
  ids : r'.ids = r.ids
  known : ∀ id report, r.find? id = some report → report.prevSync ≠ neverChecked →
    r'.find? id = some report
  unknown : ∀ id report, r.find? id = some report → report.prevSync = neverChecked →
    r'.find? id = some { report with
      prevSync := firstTime pairs id
      nextSync :=
        if 0 < report.interval then
          if firstTime pairs id = neverChecked then dueNow
          else firstTime pairs id + report.interval * minute
        else notScheduled }

/-- What filling in times comes to for each report. -/
theorem entries_restore_eq (r : Registry) (pairs : List (Int × Int)) :
    (r.restore pairs).entries = r.entries.map fun e =>
      (e.1, if e.2.prevSync = neverChecked then e.2.scheduleFrom (firstTime pairs e.1)
        else e.2) := by
  rw [entries_restore]
  apply List.map_congr_left
  intro e _
  by_cases hnever : e.2.prevSync = neverChecked
  · rw [if_pos hnever, Report.fill_of_neverChecked hnever]
  · rw [if_neg hnever, Report.fill_of_known hnever]

theorem find?_restore (r : Registry) (pairs : List (Int × Int)) (id : Int) :
    (r.restore pairs).find? id = (r.find? id).map fun report =>
      if report.prevSync = neverChecked then report.scheduleFrom (firstTime pairs id)
      else report :=
  find?_of_entries (entries_restore_eq r pairs) id

theorem Sound.gapsFilled_restore {r : Registry} (h : r.Sound) (pairs : List (Int × Int)) :
    r.GapsFilled pairs (r.restore pairs) where
  ids := ids_restore r pairs
  known id report hfind hknown := by
    rw [find?_restore, hfind, Option.map_some, if_neg hknown]
  unknown id report hfind hnever := by
    have hschedule := h.onSchedule _ (mem_of_find? hfind)
    rw [find?_restore, hfind, Option.map_some, if_pos hnever, hschedule.scheduleFrom_eq hnever]

/-- Once its gaps are filled from some pairs, a registry has none that these could fill. -/
theorem restore_restore (r : Registry) (pairs : List (Int × Int)) :
    (r.restore pairs).restore pairs = r.restore pairs := by
  apply ext_entries
  rw [entries_restore_eq (r.restore pairs), entries_restore_eq, List.map_map]
  apply List.map_congr_left
  intro e _
  dsimp only [Function.comp_apply]
  by_cases hnever : e.2.prevSync = neverChecked
  · rw [if_pos hnever]
    split
    · -- Nothing was listed but times that stand for none.
      rename_i hstill
      rw [Report.scheduleFrom_prevSync] at hstill
      rw [hstill, Report.scheduleFrom_neverChecked (Report.scheduleFrom_prevSync ..)]
    · rfl
  · rw [if_neg hnever, if_neg hnever]

/-- Pairs with different numbers fill the gaps of a registry alike in any order. -/
theorem restore_perm (r : Registry) {pairs pairs' : List (Int × Int)} (h : pairs.Perm pairs')
    (hnodup : (pairs.map (·.1)).Nodup) : r.restore pairs' = r.restore pairs := by
  apply ext_entries
  rw [entries_restore_eq, entries_restore_eq]
  apply List.map_congr_left
  intro e _
  rw [firstTime_perm h hnodup]

theorem sound_filledWith {r built : Registry} (h : r.Sound) (hbuilt : built.Sound) :
    (r.filledWith built).Sound := by
  unfold filledWith
  split
  · exact hbuilt
  · exact h

/-- The times of a registry change nothing in it, and nothing in the one that it is filled with. -/
theorem Proper.restore_own {r : Registry} (h : r.Proper) (built : Registry) :
    (r.filledWith built).restore r.prevSyncTimes = r.filledWith built := by
  unfold filledWith
  split
  · rename_i hempty
    have hentries : r.entries = [] := List.isEmpty_iff.1 hempty
    unfold prevSyncTimes reports
    rw [hentries]
    rfl
  · exact h.restore_prevSyncTimes

theorem restore_of_isEmpty {r : Registry} (h : r.isEmpty = true) (pairs : List (Int × Int)) :
    r.restore pairs = r := by
  have hentries : r.entries = [] := List.isEmpty_iff.1 h
  apply ext_entries
  rw [entries_restore_eq, hentries]
  rfl

/-- A registry whose gaps were filled after it was filled itself is not filled again. -/
theorem filledWith_restore (r built : Registry) (pairs : List (Int × Int)) :
    ((r.filledWith built).restore pairs).filledWith built = (r.filledWith built).restore pairs := by
  have hidempotent := r.filledWith_filledWith built
  generalize r.filledWith built = filled at hidempotent ⊢
  have hempty : (filled.restore pairs).isEmpty = filled.isEmpty := by
    rw [Bool.eq_iff_iff, isEmpty_iff, isEmpty_iff, ids_restore]
  unfold filledWith at hidempotent ⊢
  rw [hempty]
  cases hfilled : filled.isEmpty with
  | false => rfl
  | true =>
    rw [hfilled, if_pos rfl] at hidempotent
    rw [if_pos rfl, hidempotent, restore_of_isEmpty hfilled]

end Registry

/-! ## Restoring a snapshot -/

/-- Where something is tracked no collaborator is asked. -/
theorem run_restore_of_not_isEmpty (env : Surroundings ω) {s : System ω}
    (h : s.core.registry.isEmpty = false) (saved : Snapshot) :
    (restore env saved).run s = (.ok (), { s with core := { s.core with
      registry := s.core.registry.restore saved.prevSyncTimes } }) := by
  have hneeded : LoadMode.fillIfEmpty.isNeeded s.core.registry = false := h
  unfold restore
  rw [Act.run_bind, load_not_needed env hneeded]
  rfl

/-- Restoring a snapshot fills the registry from the store if it is empty, and then fills its gaps
with the times that the snapshot lists, whatever these are.  Restoring the same snapshot again
leaves the registry as it is, and so does, once it is filled, a snapshot of itself.  If no number is
listed twice, the order in which the snapshot lists them makes no difference.  Where something is
tracked the collaborators have no part in any of this. -/
theorem restored_fills_gaps_only {env : Surroundings ω} {I : ω → Prop}
    {rows : List Account.Draft} {enabled : Text → Bool} (h : env.Supplies I rows enabled)
    {s : System ω} (hs : I s.world) (hsound : s.core.registry.Sound) (saved : Snapshot) :
    ∃ built s', env.policy.polling.build enabled .empty rows = .ok built ∧
      (restore env saved).run s = (.ok (), s') ∧
      (s.core.registry.filledWith built).GapsFilled saved.prevSyncTimes s'.core.registry ∧
      (∀ again, I again.world → again.core.registry = s'.core.registry →
        ∃ s'', (restore env saved).run again = (.ok (), s'') ∧
          s''.core.registry = s'.core.registry) ∧
      (saved.prevSyncTimes = s.core.registry.prevSyncTimes →
        s'.core.registry = s.core.registry.filledWith built) ∧
      (∀ other : Snapshot, saved.prevSyncTimes.Perm other.prevSyncTimes →
        (saved.prevSyncTimes.map (·.1)).Nodup →
        ∃ s'', (restore env other).run s = (.ok (), s'') ∧
          s''.core.registry = s'.core.registry) ∧
      (s.core.registry.isEmpty = false → ∀ env' : Surroundings ω,
        (restore env' saved).run s = (.ok (), { s with core := { s.core with
          registry := s'.core.registry } })) := by
  obtain ⟨built, hbuilt⟩ := h.build_rows
  have hfilled : (s.core.registry.filledWith built).Sound := Registry.sound_filledWith hsound
    (PollingRules.unchecked_build Registry.unchecked_empty hbuilt).toSound
  obtain ⟨s', hr, -, hregistry⟩ := h.run_restore_filled hbuilt saved hs
  refine ⟨built, s', hbuilt, hr, ?_, fun again hagain hsame => ?_, fun hown => ?_,
    fun other hperm hnodup => ?_, fun hnot env' => ?_⟩
  · rw [hregistry]
    exact hfilled.gapsFilled_restore saved.prevSyncTimes
  · obtain ⟨s'', hr', -, hregistry'⟩ := h.run_restore_filled hbuilt saved hagain
    refine ⟨s'', hr', ?_⟩
    rw [hregistry', hsame, hregistry, Registry.filledWith_restore, Registry.restore_restore]
  · rw [hregistry, hown, hsound.toProper.restore_own]
  · obtain ⟨s'', hr', -, hregistry'⟩ := h.run_restore_filled hbuilt other hs
    exact ⟨s'', hr', by rw [hregistry', hregistry, Registry.restore_perm _ hperm hnodup]⟩
  · have hkept : s.core.registry.filledWith built = s.core.registry := by
      unfold Registry.filledWith
      rw [hnot]
      rfl
    rw [run_restore_of_not_isEmpty env' hnot, hregistry, hkept]

namespace Rehearsal

/-- A poller that tracks an account whose checks are known and one that was never checked. -/
def onceChecked : System World := { freshPoller with
  core := { registry := ⟨[
    (2, { Report.resumed 2 60 true false 0 with unseen := 3, lastUnseen := 1 }),
    (1, .resumed 1 15 true true 500000)]⟩ } }

/-- A snapshot that lists an account that is not tracked, and others twice. -/
def muddled : Snapshot where
  prevSyncTimes := [(9, 5), (2, 0), (1, 7), (2, -40), (2, 600000), (1, 800000)]

/-- The account that was never checked is given the first time that is one, and is due an interval
later. -/
theorem restored_fills_gaps_only_muddled :
    OfTwoAccounts onceChecked.world ∧ onceChecked.core.registry.Sound ∧ ∃ s',
      (restore inMemory muddled).run onceChecked = (.ok (), s') ∧
      s'.core.registry.ids = [2, 1] ∧
      s'.core.registry.find? 1 = some (.resumed 1 15 true true 500000) ∧
      s'.core.registry.find? 2 =
        some { Report.resumed 2 60 true false (-40) with unseen := 3, lastUnseen := 1 } := by
  have hsound : onceChecked.core.registry.Sound := {
    nodup := by decide
    account := by decide
    onSchedule := by unfold Report.OnSchedule; decide }
  have hworld : OfTwoAccounts onceChecked.world := ofTwoAccounts_twoAccountsWorld
  obtain ⟨built, s', -, hr, hgaps, -⟩ :=
    restored_fills_gaps_only fixed_inMemory.supplies hworld hsound muddled
  have hfilled : onceChecked.core.registry.filledWith built = onceChecked.core.registry := rfl
  rw [hfilled] at hgaps
  refine ⟨hworld, hsound, s', hr, hgaps.ids, ?_, ?_⟩
  · exact hgaps.known 1 _ rfl (by decide)
  · exact hgaps.unknown 2 _ rfl rfl

end Rehearsal

end MailSchedule
