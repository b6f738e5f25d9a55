import MailSchedule.Proofs.Rebuilding

/-!
# Rearming

Rearming fills the registry if it is empty, selects an account, and sets the wake timer for it.  If
no call fails, it does so in full: the registry follows from the one before and from the rows of the
store, the selection from the registry and the time, and the timer from the registry and the
selection.  So rearming again at the same time changes nothing.  This holds of a store without live
accounts as well, although it is asked again each time.  Only a wake that cannot be written keeps
the timer from being set, and then rearming fails.

Results:

* `Surroundings.Furnishes`: a store with given contents, and a wake timer that does not fail.
* `System.reading`: what the clock reads when an account is selected.
* `Surroundings.Furnishes.run_rearm`: what rearming comes to.
* `rearm_exact`: what it leaves behind, and that doing it again changes nothing.
-/

namespace MailSchedule

variable {ω : Type}

/-! ## Selecting an account -/

/-- What the clock reads when an account is selected: the store may have been asked before. -/
def System.reading (env : Surroundings ω) (s : System ω) : Int :=
  ((load env .fillIfEmpty).run s).2.clock

/-- Loading takes no time if no collaborator does. -/
theorem Surroundings.StaysOut.clock_load {env : Surroundings ω} (h : env.StaysOut)
    (htime : ∀ t, env.KeepsTime (· = t)) (mode : LoadMode) (s : System ω) :
    ((load env mode).run s).2.clock = s.clock := by
  have hrespects := h.respects (htime s.clock) fun _ _ _ => True
  exact (hrespects.spares.abides.load mode (fun _ _ hs _ => hs) s ⟨trivial, rfl⟩).2

/-- Loading leaves the wake timer alone. -/
theorem Surroundings.StaysOut.timer_load {env : Surroundings ω} (h : env.StaysOut) (mode : LoadMode)
    (s : System ω) : ((load env mode).run s).2.timer = s.timer := by
  have hrespects := h.respects (T := fun _ => True) (fun _ _ _ => trivial)
    fun _ _ held => held = s.timer
  exact (hrespects.spares.abides.load mode (fun _ _ hs _ => hs) s ⟨rfl, trivial⟩).1

/-- Among collaborators that take no time the clock reads what it read before. -/
theorem System.reading_eq_clock {env : Surroundings ω} (h : env.StaysOut)
    (htime : ∀ t, env.KeepsTime (· = t)) (s : System ω) : s.reading env = s.clock :=
  h.clock_load htime .fillIfEmpty s

/-- In the worlds of a set the account store has certain rows, and neither it nor the wake timer
fails. -/
structure Surroundings.Furnishes (env : Surroundings ω) (I : ω → Prop)
    (rows : List Account.Draft) (enabled : Text → Bool) : Prop
    extends env.Supplies I rows enabled where
  ofTimer : ∀ c s, c.kind = .arm ∨ c.kind = .cancelTimer → I s.world →
    ((env.during c).run s).1 = .ok ()

namespace Surroundings.Furnishes

variable {env : Surroundings ω} {I : ω → Prop} {rows : List Account.Draft}
  {enabled : Text → Bool} (h : env.Furnishes I rows enabled)
include h

/-- The wake timer is set as it is to be, and nothing happens to the registry meanwhile. -/
theorem run_point (held : Option Wake) {s : System ω} (hs : I s.world) :
    ∃ s', (point env held).run s = (.ok (), s') ∧ I s'.world ∧
      s'.core.registry = s.core.registry ∧ s'.timer = held := by
  have hset : ∀ c : Call, c.kind = .arm ∨ c.kind = .cancelTimer →
      ∃ s', Act.run (do env.call c; setTimer held) s = (.ok (), s') ∧ I s'.world ∧
        s'.core.registry = s.core.registry ∧ s'.timer = held := by
    intro c hc
    have hworld : I ((env.call c).run s).2.world := by
      rw [run_call]
      exact h.during c _ hs
    have hok : ((env.call c).run s).1 = .ok () := by
      rw [run_call]
      exact h.ofTimer c _ hc hs
    refine ⟨{ ((env.call c).run s).2 with timer := held }, ?_, hworld,
      (h.staysOut.call c s).registry, rfl⟩
    rw [Act.run_bind, show (env.call c).run s = (.ok (), ((env.call c).run s).2) from
      Prod.ext hok rfl]
    rfl
  cases held with
  | none => exact hset .cancelTimer (Or.inr rfl)
  | some w => exact hset (.arm w.time w.payload) (Or.inl rfl)

/-- The registry is filled if it was empty, an account is selected from it, and the wake timer is
set to the wake that serves it, if that can be written. -/
theorem run_rearm {built : Registry}
    (hbuilt : env.policy.polling.build enabled .empty rows = .ok built) {s : System ω}
    (hs : I s.world) : ∃ s', (rearm env).run s =
        (if s'.core.registry.Writable then .ok (s'.core.registry.pickNext (s.reading env))
          else .error Snapshot.tooLong, s') ∧ I s'.world ∧
      s'.core.registry = s.core.registry.filledWith built ∧
      s'.timer = s'.core.registry.timerAt (s.reading env) s.timer := by
  obtain ⟨moment, hload, hmoment, hfilled⟩ := h.run_load_fillIfEmpty hbuilt hs
  have hreading : s.reading env = moment.clock := by
    unfold System.reading
    rw [hload]
  rw [run_rearm_of_load hload, hreading]
  by_cases hwritable : moment.core.registry.Writable
  · obtain ⟨s', hpoint, hs', hregistry, htimer⟩ :=
      h.run_point (moment.core.registry.wakeAt moment.clock) hmoment
    refine ⟨s', ?_, hs', hregistry.trans hfilled, ?_⟩
    · rw [hregistry, if_pos hwritable, if_pos hwritable, Act.run_bind, hpoint]
      rfl
    · rw [hregistry, hwritable.timerAt]
      exact htimer
  · refine ⟨moment, ?_, hmoment, hfilled, ?_⟩
    · rw [if_neg hwritable, if_neg hwritable]
    · rw [Registry.timerAt_of_not_writable hwritable, ← h.staysOut.timer_load .fillIfEmpty s, hload]

end Surroundings.Furnishes

/-! ## The wake timer -/

/-- The payload of the wake for an account tells which one it is, unless it has the number that
stands for none, and when each account was checked last. -/
theorem Registry.Readable.decode_snapshot {r : Registry} (h : r.Readable) {now id : Int}
    (hid : (r.pickNext now).account = some id) :
    Snapshot.decode (some (r.snapshot (some id)).encode) = .ok {
      account := if id = Snapshot.noAccount then none else some id
      prevSyncTimes := r.reports.map fun report => (report.account, report.prevSync)
      watchdog := false } := by
  have haccount : (some id).filter (· ≠ Snapshot.noAccount) =
      if id = Snapshot.noAccount then none else some id := by
    by_cases hnone : id = Snapshot.noAccount <;> simp [hnone]
  rw [← haccount]
  obtain ⟨report, hmem, rfl⟩ := exists_mem_of_pickNext hid
  exact Snapshot.decode_encode (readable_snapshot h hmem)

/-- If no call fails, rearming fills the registry from the store if it is empty and leaves it alone
if not.  If the wake can be written, the answer is the selection from that registry.  The wake timer
is idle if no account is selected; otherwise it is set to the time of the wake, and its payload is
read back as a snapshot with the account selected and the times of the last checks.  Rearming once
more, whatever has become of the timer, comes to the same selection and leaves the same registry and
the same timer if the clock reads the same.  If the wake cannot be written, for a number in it that
is too long, rearming fails each time and leaves the timer alone. -/
theorem rearm_exact {env : Surroundings ω} {I : ω → Prop} {rows : List Account.Draft}
    {enabled : Text → Bool} (h : env.Furnishes I rows enabled) {s : System ω} (hs : I s.world) :
    ∃ built selection s', env.policy.polling.build enabled .empty rows = .ok built ∧
      (∀ id, id ∈ built.ids ↔ id ∈ liveIds rows) ∧
      (rearm env).run s =
        (if s'.core.registry.Writable then .ok selection else .error Snapshot.tooLong, s') ∧
      I s'.world ∧
      s'.core.registry = (if s.core.registry.isEmpty then built else s.core.registry) ∧
      selection = s'.core.registry.pickNext (s.reading env) ∧
      (s'.core.registry.Writable → (s'.timer = none ↔ selection.account = none) ∧
        ∀ id ∈ selection.account, ∃ payload, s'.timer = some ⟨selection.wake, payload⟩ ∧
          Snapshot.decode (some payload) = .ok {
            account := if id = Snapshot.noAccount then none else some id
            prevSyncTimes :=
              s'.core.registry.reports.map fun report => (report.account, report.prevSync)
            watchdog := false }) ∧
      (¬s'.core.registry.Writable → s'.timer = s.timer) ∧
      ∀ again, I again.world → again.core.registry = s'.core.registry →
        again.reading env = s.reading env →
        ∃ s'', (rearm env).run again = (((rearm env).run s).1, s'') ∧
          s''.core.registry = s'.core.registry ∧
          s''.timer = if s'.core.registry.Writable then s'.timer else again.timer := by
  obtain ⟨built, hbuilt⟩ := h.build_rows
  obtain ⟨s', hr, hs', hfilled, htimer⟩ := h.run_rearm hbuilt hs
  refine ⟨built, _, s', hbuilt, PollingRules.mem_ids_build_empty hbuilt, hr, hs', hfilled, rfl,
    fun hwritable => ?_, fun hwritable => ?_, fun again hagain hregistry hreading => ?_⟩
  · rw [htimer, hwritable.timerAt]
    refine ⟨Option.map_eq_none_iff, fun id hid => ?_⟩
    have hread : s'.core.registry.Readable :=
      ((Registry.writable_iff_of_pickNext hid).1 hwritable).pairs
    refine ⟨(s'.core.registry.snapshot (some id)).encode, ?_, hread.decode_snapshot hid⟩
    unfold Registry.wakeAt
    rw [Option.mem_def.1 hid]
    rfl
  · exact htimer.trans (Registry.timerAt_of_not_writable hwritable ..)
  · obtain ⟨s'', hr', -, hfilled', htimer'⟩ := h.run_rearm hbuilt hagain
    have hsame : s''.core.registry = s'.core.registry := by
      rw [hfilled', hregistry, hfilled, Registry.filledWith_filledWith]
    refine ⟨s'', ?_, hsame, ?_⟩
    · rw [hr', hr, hsame, hreading]
    · rw [htimer', htimer, hsame, hreading]
      unfold Registry.timerAt
      split <;> rfl

namespace Rehearsal

theorem furnishes_inMemory :
    inMemory.Furnishes OfTwoAccounts twoAccounts.accounts fun _ => true where
  toSupplies := fixed_inMemory.supplies
  ofTimer c s _ hs := by
    show (((surroundings {} 1 0).during c).run s).1 = .ok ()
    rw [run_during, hs.failures]
    rfl

/-- A poller that has just started selects the second of two accounts, and does so again. -/
theorem rearm_exact_freshPoller :
    OfTwoAccounts freshPoller.world ∧ ∃ s' s'',
      (rearm inMemory).run freshPoller = (.ok ⟨some 2, dueNow⟩, s') ∧
      s'.core.registry.ids = [1, 2] ∧
      (∃ payload, s'.timer = some ⟨dueNow, payload⟩ ∧ Snapshot.decode (some payload) =
        .ok { account := some 2, prevSyncTimes := [(1, 0), (2, 0)], watchdog := false }) ∧
      (rearm inMemory).run s' = (.ok ⟨some 2, dueNow⟩, s'') ∧
      s''.core.registry = s'.core.registry ∧ s''.timer = s'.timer := by
  have hworld : OfTwoAccounts freshPoller.world := ofTwoAccounts_twoAccountsWorld
  have hreading : ∀ s, System.reading inMemory s = s.clock :=
    System.reading_eq_clock (staysOut_surroundings {} 1) fun _ => keepsTime_surroundings {} 1 _
  obtain ⟨built, selection, s', -, -, hr, hs', -, -, harmed, -, hagain⟩ :=
    rearm_exact furnishes_inMemory hworld
  have hstate : ((rearm inMemory).run freshPoller).2 = s' := by rw [hr]
  have hanswer : ((rearm inMemory).run freshPoller).1 = .ok ⟨some 2, dueNow⟩ := by decide +kernel
  have hids : s'.core.registry.ids = [1, 2] := by
    rw [← hstate]
    decide +kernel
  have hreports : (s'.core.registry.reports.map fun report => (report.account, report.prevSync)) =
      [(1, 0), (2, 0)] := by
    rw [← hstate]
    decide +kernel
  have hwritable : s'.core.registry.Writable := by
    rw [← hstate]
    decide +kernel
  have hselection : selection = ⟨some 2, dueNow⟩ := by
    rw [hr, if_pos hwritable] at hanswer
    exact Except.ok.inj hanswer
  have hclock : s'.clock = freshPoller.clock := by
    rw [← hstate]
    decide +kernel
  subst hselection
  obtain ⟨payload, htimer, hdecode⟩ := (harmed hwritable).2 2 rfl
  obtain ⟨s'', hr', hregistry, htimer'⟩ := hagain s' hs' rfl (by rw [hreading, hreading, hclock])
  rw [hanswer] at hr'
  rw [if_pos hwritable] at hr htimer'
  refine ⟨hworld, s', s'', hr, hids, ⟨payload, htimer, ?_⟩, hr', hregistry, htimer'⟩
  rw [hdecode, hreports]
  rfl

end Rehearsal

end MailSchedule
