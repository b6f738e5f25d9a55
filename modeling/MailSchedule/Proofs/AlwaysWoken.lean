import MailSchedule.Proofs.Rehearsing

/-!
# Checks that end with a wake

Whatever fails while a check is requested, the poller is woken again.  Until the timer is set for
the account that is due next, it holds the watchdog of the check, and the check does not count as
ended; so the watchdog, when it goes off, moves the account on.

Results:

* `Guarded`: the watchdog of a check is armed, and the check has not ended.
* `checkAccount_awaited`, `process_awaited`: after a check was requested the watchdog is armed, or
  the timer is set for the account that is due next.
* `Surroundings.Recovered.handleWatchdog`, `deliver_watchdog`: what the watchdog does when it goes
  off.
* `wake_after_checkRequested`: all of this for a request to check an account.
* `Rehearsal.watchdog_long_closed_busy`: a number that is too long, a poller that is closed and
  messages that wait may each stand in the way.
-/

namespace MailSchedule

variable {ω : Type}

/-! ## A wake timer that works -/

/-- The wake timer can be set and made idle at any time. -/
structure Surroundings.TimerWorks (env : Surroundings ω) : Prop where
  arm : ∀ time payload (s : System ω), ((env.during (.arm time payload)).run s).1 = .ok ()
  cancel : ∀ s : System ω, ((env.during .cancelTimer).run s).1 = .ok ()

/-- Collaborators that neither interfere nor turn back the clock, with a wake timer that works. -/
structure Surroundings.Orderly (env : Surroundings ω) : Prop extends env.TimerWorks where
  staysOut : env.StaysOut
  time : ∀ t, env.KeepsTime (t ≤ ·)

namespace Surroundings.Orderly

variable {env : Surroundings ω} (h : env.Orderly)
include h

/-- A call on the timer does not fail, and the timer is all that changes. -/
theorem point (w : Option Wake) (s : System ω) :
    ∃ s', (point env w).run s = (.ok (), s') ∧ s'.timer = w ∧
      s'.core.registry = s.core.registry ∧ s'.core.completed = s.core.completed ∧
      s.clock ≤ s'.clock := by
  have hcall : ∀ c, (∀ s : System ω, ((env.during c).run s).1 = .ok ()) →
      ∃ s', (env.call c).run s = (.ok (), s') ∧ Untouched s s' ∧ s.clock ≤ s'.clock := by
    intro c hc
    refine ⟨((env.call c).run s).2, ?_, h.staysOut.call c s, ?_⟩
    · rw [run_call]
      exact Prod.ext (hc _) rfl
    · rw [run_call]
      exact h.time s.clock c _ (Int.le_refl _)
  cases w with
  | none =>
    obtain ⟨s', hr, hs', htime⟩ := hcall .cancelTimer h.cancel
    refine ⟨{ s' with timer := none }, ?_, rfl, hs'.registry, hs'.completed, htime⟩
    unfold MailSchedule.point disarm
    rw [Act.run_bind, hr]
    rfl
  | some w =>
    obtain ⟨s', hr, hs', htime⟩ := hcall (.arm w.time w.payload) (h.arm w.time w.payload)
    refine ⟨{ s' with timer := some w }, ?_, rfl, hs'.registry, hs'.completed, htime⟩
    unfold MailSchedule.point arm
    rw [Act.run_bind, hr]
    rfl

theorem rearm {s : System ω} (hs : s.core.registry.ids ≠ []) (hwritable : s.core.registry.Writable) :
    ∃ selection s', (rearm env).run s = (.ok selection, s') ∧
      s'.core.registry = s.core.registry ∧ s'.timer = s.core.registry.wakeAt s.clock ∧
      s.clock ≤ s'.clock := by
  obtain ⟨s', hr, htimer, hregistry, -, htime⟩ := h.point (s.core.registry.wakeAt s.clock) s
  refine ⟨s.core.registry.pickNext s.clock, s', ?_, hregistry, htimer, htime⟩
  rw [run_rearm env hs, if_pos hwritable, Act.run_bind, hr]
  rfl

end Surroundings.Orderly

/-! ## While a check is being started -/

/-- Accounts are tracked, and the watchdog of one of them was armed at some time, since when its
check has not ended. -/
def Guarded (policy : Policy) (id t : Int) (s : System ω) : Prop :=
  (s.core.registry.ids ≠ [] ∧ id ∉ s.core.completed ∧
    s.timer = some (policy.watchdogWake id t)) ∧ t ≤ s.clock

/-- The watchdog of a check is armed, or the timer is set for the account that is due next. -/
def Awaited (policy : Policy) (id start : Int) (s : System ω) : Prop :=
  (∃ t, start ≤ t ∧ Guarded policy id t s) ∨
    ∃ t, start ≤ t ∧ t ≤ s.clock ∧ s.core.registry.Writable ∧ s.timer = s.core.registry.wakeAt t

namespace Surroundings.Orderly

variable {env : Surroundings ω} (h : env.Orderly)
include h

theorem respects_guarded (id t : Int) : env.Respects (Guarded env.policy id t) :=
  h.staysOut.respects (h.time t) fun registry completed timer =>
    registry.ids ≠ [] ∧ id ∉ completed ∧ timer = some (env.policy.watchdogWake id t)

theorem openCheck {id : Int} (hread : Json.Readable id) {s : System ω}
    (hs : s.core.registry.ids ≠ []) :
    ∃ s', (openCheck env id).run s = (.ok (), s') ∧ Guarded env.policy id s.clock s' := by
  obtain ⟨s', hr, htimer, hregistry, hcompleted, htime⟩ :=
    h.point (some (env.policy.watchdogWake id s.clock)) { s with core := { s.core with
      completed := s.core.completed.filter (· ≠ id)
      announced := s.core.announced.filter (·.1 ≠ id) } }
  refine ⟨s', ((run_openCheck env id s).trans (if_pos hread)).trans hr, ⟨?_, ?_, htimer⟩, htime⟩
  · rw [hregistry]
    exact hs
  · rw [hcompleted]
    simp

/-- Recording a check leaves the watchdog armed. -/
theorem update_guarded (id t : Int) :
    (update env id none).Keeps (Guarded (ω := ω) env.policy id t) := by
  refine (h.respects_guarded id t).spares.abides.update (fun s built hs _ => ?_) fun s hs => ?_
  · refine ⟨⟨?_, hs.1.2.1, hs.1.2.2⟩, hs.2⟩
    obtain ⟨x, hx⟩ := List.exists_mem_of_ne_nil _ hs.1.1
    exact List.ne_nil_of_mem ((Registry.mem_ids_addMissing _ built x).2 (Or.inl hx))
  · refine ⟨⟨?_, hs.1.2.1, hs.1.2.2⟩, hs.2⟩
    rw [System.ids_checkedNow]
    exact hs.1.1

/-- However a check goes, and wherever it fails, a wake is left behind. -/
theorem checkAccount_awaited {id : Int} (hread : Json.Readable id) {s : System ω}
    (hs : s.core.registry.ids ≠ []) :
    Awaited env.policy id s.clock ((checkAccount env id).run s).2 := by
  have hstart := Int.le_refl s.clock
  obtain ⟨s1, hr1, h1⟩ := h.openCheck hread hs
  unfold checkAccount
  rw [Act.run_bind, hr1]
  dsimp only
  rw [Act.run_bind]
  have h2 := (h.respects_guarded id s.clock).spares.tryStart id s1 h1
  rcases hr2 : (tryStart env id).run s1 with ⟨_ | started, s2⟩
  · rw [hr2] at h2
    exact Or.inl ⟨s.clock, hstart, h2⟩
  rw [hr2] at h2
  cases started with
  | true => exact Or.inl ⟨s.clock, hstart, h2⟩
  | false =>
    show Awaited env.policy id s.clock (Act.run (do
      let _ ← update env id none
      let _ ← MailSchedule.rearm env) s2).2
    rw [Act.run_bind]
    have h3 := h.update_guarded id s.clock s2 h2
    rcases hr3 : (update env id none).run s2 with ⟨_ | report, s3⟩
    · rw [hr3] at h3
      exact Or.inl ⟨s.clock, hstart, h3⟩
    rw [hr3] at h3
    dsimp only
    rw [Act.run_bind]
    by_cases hwritable : s3.core.registry.Writable
    · obtain ⟨selection, s4, hr4, hregistry, htimer, htime⟩ := h.rearm h3.1.1 hwritable
      rw [hr4]
      refine Or.inr ⟨s3.clock, h3.2, htime, ?_⟩
      show s4.core.registry.Writable ∧ s4.timer = s4.core.registry.wakeAt s3.clock
      rw [hregistry]
      exact ⟨hwritable, htimer⟩
    · rw [run_rearm env h3.1.1, if_neg hwritable]
      exact Or.inl ⟨s.clock, hstart, h3⟩

/-- A request to check an account is handled without a fault, and leaves a wake behind. -/
theorem process_awaited {id : Int} (hread : Json.Readable id) (snapshot : Option Snapshot)
    {s : System ω} (hs : s.core.registry.ids ≠ []) :
    ∃ s', (process env (.checkRequested (some id) snapshot)).run s = (.ok (), s') ∧
      Awaited env.policy id s.clock s' := by
  refine ⟨((process env (.checkRequested (some id) snapshot)).run s).2,
    Prod.ext (process_ok env _ s) rfl, ?_⟩
  obtain ⟨j, hj⟩ := process_snd env (.checkRequested (some id) snapshot) s
  rw [hj]
  show Awaited env.policy id s.clock
    (Act.run (handleCheck env (some id) snapshot) (s.begun env _)).2
  have hreconcile : (reconcile env).Keeps fun s1 =>
      s1.core.registry.ids ≠ [] ∧ s.clock ≤ s1.clock :=
    (h.staysOut.respects (h.time s.clock) fun registry _ _ => registry.ids ≠ []).spares.reconcile
  obtain ⟨hids, htime⟩ : (s.begun env (.checkRequested (some id) snapshot)).core.registry.ids ≠ [] ∧
      s.clock ≤ (s.begun env (.checkRequested (some id) snapshot)).clock :=
    hreconcile s ⟨hs, Int.le_refl _⟩
  generalize s.begun env (.checkRequested (some id) snapshot) = s1 at *
  -- Since accounts are tracked, nothing is loaded before the check, whether or not there is a
  -- snapshot.
  have hfill : ∃ s2, s2.core.registry.ids ≠ [] ∧ s2.clock = s1.clock ∧
      Act.run (handleCheck env (some id) snapshot) s1 = (checkAccount env id).run s2 := by
    unfold handleCheck
    cases snapshot with
    | none =>
      refine ⟨s1, hids, rfl, ?_⟩
      dsimp only
      rw [Act.run_bind, load_fillIfEmpty_of_ids env hids]
    | some snapshot =>
      refine ⟨{ s1 with core := { s1.core with
        registry := s1.core.registry.restore snapshot.prevSyncTimes } }, ?_, rfl, ?_⟩
      · rw [Registry.ids_restore]
        exact hids
      · unfold restore
        simp only [Act.run_bind, load_fillIfEmpty_of_ids env hids, run_modifyRegistry]
  obtain ⟨s2, hids2, hclock, hr⟩ := hfill
  rw [hr]
  rcases h.checkAccount_awaited hread hids2 with ⟨t, ht, hguarded⟩ | ⟨t, ht, htimer⟩
  · exact Or.inl ⟨t, by omega, hguarded⟩
  · exact Or.inr ⟨t, by omega, htimer⟩

end Surroundings.Orderly

/-! ## When the watchdog goes off -/

/-- No collaborator fails any more: all are calm, and the store tells what it knows about an
account. -/
structure Surroundings.Recovered (env : Surroundings ω) (I : ω → Prop) (id : Int)
    (row : Option Account.Draft) : Prop where
  calm : env.Calm I
  get : Reply.Gives (env.source.get id) I row
  enabled : ∃ enabled, (∀ email, Reply.Gives (env.source.isSyncEnabled email) I (enabled email)) ∧
    ∃ built, env.policy.polling.build enabled .empty row.toList = .ok built

/-- Recording a check of an account that may have to be loaded first. -/
theorem Surroundings.Recovered.update {env : Surroundings ω} {I : ω → Prop} {id : Int}
    {row : Option Account.Draft} (h : env.Recovered I id row) {s : System ω} (hs : I s.world) :
    ∃ report registry s', (update env id none).run s = (.ok report, s') ∧
      Passed I [] { s with core := { s.core with registry := registry } } s' ∧
      (∀ x, x ∈ registry.ids ↔ x ∈ s.core.registry.ids ∨
        (id ∉ s.core.registry.ids ∧ x ∈ liveIds row.toList)) ∧
      ∀ report, registry.find? id = some report → report.prevSync = s.clock := by
  obtain ⟨enabled, henabled, built, hbuild⟩ := h.enabled
  obtain ⟨report, added, s', hs', hr, hadded⟩ := update_gives (h.calm.tellsEnabled henabled [] s)
    (h.calm.rowsFor_one h.get [] s) hbuild none (.refl hs)
  refine ⟨report, (s.core.registry.addMissing added).modify id fun r => r.checked s.clock none, _,
    hr, ?_, fun x => ?_, fun report hfind => ?_⟩
  · obtain ⟨j, w, rfl, hw, hj⟩ := hs'
    exact ⟨j, w, rfl, hw, hj⟩
  · rw [Registry.ids_modify, Registry.mem_ids_addMissing, hadded]
  · rw [Registry.find?_modify, if_pos rfl] at hfind
    obtain ⟨old, -, rfl⟩ := Option.map_eq_some_iff.1 hfind
    exact Report.scheduleFrom_prevSync ..

/-- A check that has not ended when its watchdog goes off counts as made, and the timer is set for
the account that is due next. -/
theorem Surroundings.Recovered.handleWatchdog {env : Surroundings ω} {I : ω → Prop} {id : Int}
    {row : Option Account.Draft} (h : env.Recovered I id row) {s : System ω} (hs : I s.world)
    (hids : s.core.registry.ids ≠ []) (hcompleted : id ∉ s.core.completed) :
    ∃ registry r s', (handleWatchdog env id).run s = (r, s') ∧ I s'.world ∧
      s'.core = { s.core with registry := registry } ∧
      s'.timer = registry.timerAt s.clock s.timer ∧
      (∀ x, x ∈ registry.ids ↔ x ∈ s.core.registry.ids ∨
        (id ∉ s.core.registry.ids ∧ x ∈ liveIds row.toList)) ∧
      ∀ report, registry.find? id = some report → report.prevSync = s.clock := by
  obtain ⟨report, registry, s1, hr1, h1, hmem, hfind⟩ := h.update
    (s := { s with journal := .noted (.watchdogFired id) :: s.journal }) hs
  have hids1 : s1.core.registry.ids ≠ [] := by
    obtain ⟨x, hx⟩ := List.exists_mem_of_ne_nil _ hids
    rw [h1.core]
    exact List.ne_nil_of_mem ((hmem x).2 (Or.inl hx))
  obtain ⟨r, s2, hr2, h2⟩ := h.calm.rearm h1.world hids1
  refine ⟨registry, r.map fun _ => (), s2, ?_, h2.world, h2.core.trans h1.core, ?_, hmem, hfind⟩
  · unfold MailSchedule.handleWatchdog
    have hfresh : (!s.core.completed.contains id) = true := by
      simpa using hcompleted
    have hfill := load_fillIfEmpty_of_ids env
      (s := { s with journal := .noted (.watchdogFired id) :: s.journal }) hids
    simp only [Act.run_bind, run_core, hfresh, if_true, run_note, Act.run_pure, hfill, hr1, hr2]
    cases r <;> rfl
  · rw [h2.timer, h1.core, h1.clock, h1.timer]

/-- The watchdog of a check that has not ended moves the account on, if there is such an account,
and sets the timer for the account that is due next. -/
theorem deliver_watchdog {env : Surroundings ω} {I : ω → Prop} {id : Int}
    {row : Option Account.Draft} (h : env.Recovered I id row) {limit : Nat} (hlimit : 0 < limit)
    (hne : id ≠ Snapshot.noAccount) (hread : Json.Readable id) {s : System ω} (hs : I s.world)
    (hopen : s.core.closed = false) (hqueue : s.core.queue = [])
    (hids : s.core.registry.ids ≠ []) (hcompleted : id ∉ s.core.completed) {t : Int}
    (htimer : s.timer = some (env.policy.watchdogWake id t)) :
    ∃ s', (deliver env limit).run s = (.ok (), s') ∧
      (id ∈ s'.core.registry.ids ↔ id ∈ s.core.registry.ids ∨ id ∈ liveIds row.toList) ∧
      (∀ report, s'.core.registry.find? id = some report → report.prevSync = s.clock) ∧
      s'.timer = s'.core.registry.timerAt s.clock s.timer := by
  have hdecode : Snapshot.decode (s.timer.map (·.payload)) =
      .ok { account := some id, watchdog := true } := by
    rw [htimer, Option.map_some]
    exact env.policy.decode_watchdogWake hne hread t
  obtain ⟨s1, h1, hprocess⟩ := h.calm.process (.watchdogFired id) hs
  have hcore := h1.core
  obtain ⟨registry, r, s2, hr2, hworld2, hcore2, htimer2, hmem, hfind⟩ := h.handleWatchdog h1.world
    (by rw [hcore]; exact hids) (by rw [hcore]; exact hcompleted)
  obtain ⟨s3, hr3, h3⟩ := hprocess r s2 hr2 hworld2
  rw [hcore] at hcore2 hmem
  rw [h1.clock] at htimer2 hfind
  rw [h1.timer] at htimer2
  have hcore3 := h3.core.trans hcore2
  refine ⟨s3, run_deliver hlimit hopen hqueue hdecode hr3 ?_, ?_, ?_, ?_⟩
  · rw [hcore3]
    exact hqueue
  · rw [hcore3]
    refine (hmem id).trans ⟨?_, ?_⟩
    · rintro (hid | ⟨-, hlive⟩)
      · exact Or.inl hid
      · exact Or.inr hlive
    · intro hid
      by_cases htracked : id ∈ s.core.registry.ids
      · exact Or.inl htracked
      · exact Or.inr ⟨htracked, hid.resolve_left htracked⟩
  · rw [hcore3]
    exact hfind
  · rw [h3.timer, htimer2, hcore3]

/-! ## Requests -/

/-- After a request to check an account, whatever fails, the timer either holds the watchdog of that
account, which moves it on when it goes off next, or is set for the account that is due next. -/
theorem wake_after_checkRequested {env : Surroundings ω} (h : env.Orderly) (id : Int)
    (hne : id ≠ Snapshot.noAccount) (hread : Json.Readable id) (snapshot : Option Snapshot)
    {s : System ω} (hs : s.core.registry.ids ≠ []) :
    ∃ s', (process env (.checkRequested (some id) snapshot)).run s = (.ok (), s') ∧
      ((∃ t, s.clock ≤ t ∧ t ≤ s'.clock ∧ s'.timer = some (env.policy.watchdogWake id t) ∧
          id ∉ s'.core.completed ∧
          ∀ (I : ω → Prop) (row : Option Account.Draft), env.Recovered I id row →
          ∀ (limit : Nat) (later : System ω), 0 < limit → I later.world →
            later.core.closed = false → later.core.queue = [] →
            later.core.registry = s'.core.registry → later.core.completed = s'.core.completed →
            later.timer = s'.timer →
            ∃ s'', (deliver env limit).run later = (.ok (), s'') ∧
              (id ∈ s''.core.registry.ids ↔
                id ∈ s'.core.registry.ids ∨ id ∈ liveIds row.toList) ∧
              (∀ report, s''.core.registry.find? id = some report →
                report.prevSync = later.clock) ∧
              s''.timer = s''.core.registry.timerAt later.clock later.timer) ∨
        ∃ t, s.clock ≤ t ∧ t ≤ s'.clock ∧ s'.core.registry.Writable ∧
          s'.timer = s'.core.registry.wakeAt t ∧
          (s'.timer = none ↔ ∀ report ∈ s'.core.registry.reports, report.interval ≤ 0)) := by
  obtain ⟨s', hr, hwake⟩ := h.process_awaited hread snapshot hs
  refine ⟨s', hr, ?_⟩
  rcases hwake with ⟨t, ht, ⟨hids, hcompleted, htimer⟩, hle⟩ |
    ⟨t, ht, hle, hwritable, htimer⟩
  · refine Or.inl ⟨t, ht, hle, htimer, hcompleted, ?_⟩
    intro I row hrecovered limit later hlimit hworld hopen hqueue hregistry hdone htimer'
    rw [← hregistry] at hids ⊢
    exact deliver_watchdog hrecovered hlimit hne hread hworld hopen hqueue hids
      (by rw [hdone]; exact hcompleted) (htimer'.trans htimer)
  · refine Or.inr ⟨t, ht, hle, hwritable, htimer, ?_⟩
    rw [htimer]
    exact Registry.wakeAt_eq_none_iff ..

/-! ## An inbox that cannot be found -/

namespace Rehearsal

/-- Rehearsed collaborators with a wake timer that never fails. -/
def reliablyTimed : Surroundings World :=
  { surroundings {} 1 0 with
    during := fun c =>
      if c.kind = .arm ∨ c.kind = .cancelTimer then pure () else failIfSet c.kind }

theorem run_during_reliablyTimed (c : Call) (s : System World) :
    (reliablyTimed.during c).run s =
      ((if c.kind = .arm ∨ c.kind = .cancelTimer then .ok () else
        match s.world.failures.lookup c.kind with
        | some f => .error f
        | none => .ok ()), s) := by
  show Act.run (if c.kind = .arm ∨ c.kind = .cancelTimer then pure () else failIfSet c.kind) s = _
  split
  · rfl
  · exact run_during {} 1 c s

theorem orderly_reliablyTimed : reliablyTimed.Orderly where
  staysOut c s := by
    rw [run_during_reliablyTimed]
    exact Untouched.refl s
  time t c s hs := by
    rw [run_during_reliablyTimed]
    exact hs
  arm _ _ _ := rfl
  cancel _ := rfl

theorem recovered_reliablyTimed : reliablyTimed.Recovered (· = {}) 1 none where
  calm c s hs := by
    refine ⟨_, s.world, run_during_reliablyTimed c s, hs, Or.inr ?_⟩
    rw [hs]
    split <;> rfl
  get := gives_ofRoster (·.find? 1) _ fun w hw => ⟨{}, by rw [hw], rfl⟩
  enabled := ⟨fun _ => true, fun email =>
    gives_ofRoster (!·.disabled.contains email) _ fun w hw => ⟨{}, by rw [hw], rfl⟩, .empty, rfl⟩

/-- A poller that tracks one account, whose inbox cannot be looked up. -/
def withoutInbox : System World where
  core := { registry := ⟨[(1, .fresh 1 15 true true)]⟩ }
  clock := 1000000
  world := { failures := [(.findInbox, ⟨.other "OSError", "unreachable"⟩)] }

/-- The watchdog is left armed, and when the inbox can be looked up again the account counts as
checked. -/
theorem wake_after_checkRequested_withoutInbox :
    ∃ s' s'', (process reliablyTimed (.checkRequested (some 1) none)).run withoutInbox =
        (.ok (), s') ∧
      (deliver reliablyTimed 1).run { s' with clock := 1600000, world := {} } = (.ok (), s'') ∧
      1 ∈ s''.core.registry.ids ∧
      ∀ report, s''.core.registry.find? 1 = some report → report.prevSync = 1600000 := by
  obtain ⟨s', hr, hwake⟩ := wake_after_checkRequested orderly_reliablyTimed 1 (by decide)
    (by decide) none (s := withoutInbox) (by decide)
  have hs' : s' = ((process reliablyTimed (.checkRequested (some 1) none)).run withoutInbox).2 := by
    rw [hr]
  have htimer : s'.timer = some (reliablyTimed.policy.watchdogWake 1 1000000) := by
    rw [hs']
    rfl
  have hregistry : s'.core.registry = withoutInbox.core.registry := by
    rw [hs']
    rfl
  have hclock : s'.clock = 1000000 := by
    rw [hs']
    rfl
  rcases hwake with ⟨t, -, -, -, -, hlater⟩ | ⟨t, ht, hle, -, hwakeAt, -⟩
  · obtain ⟨s'', hr'', hmem, hfind, -⟩ := hlater (· = {}) none recovered_reliablyTimed 1
      { s' with clock := 1600000, world := {} } Nat.zero_lt_one rfl
      (by rw [hs']; rfl) (by rw [hs']; rfl) rfl rfl rfl
    refine ⟨s', s'', hr, hr'', hmem.2 (Or.inl ?_), hfind⟩
    rw [hregistry]
    decide
  · rw [htimer, hregistry] at hwakeAt
    have hle' : t = 1000000 := by
      have hstart : withoutInbox.clock = 1000000 := rfl
      omega
    rw [hle'] at hwakeAt
    have htime := congrArg (Option.map (·.time)) hwakeAt
    exact absurd htime (by decide)

/-- A number with one digit more than can be written. -/
def longNumber : Int := .ofNat (Nat.pow 10 Json.maxDigits)

/-- A poller that tracks one account, which has such a number. -/
def longNumberPoller : System World where
  core := { registry := ⟨[(longNumber, .fresh longNumber 15 true true)]⟩ }
  clock := 1000000
  world := {}

/-- The poller without an inbox, closed. -/
def closedWithoutInbox : System World :=
  { withoutInbox with core := { withoutInbox.core with closed := true } }

/-- The same poller, open, while the end of the check waits. -/
def busyWithoutInbox : System World :=
  { withoutInbox with core := { withoutInbox.core with queue := [.checkComplete 1 (some 3) none] } }

/-- Reliably timed collaborators that take a second to show a notification. -/
def slowlyShown : Surroundings World :=
  { reliablyTimed with
    during := fun c => do
      if c.kind = .showNotification then
        modify fun s => { s with clock := s.clock + 1000 }
      reliablyTimed.during c }

theorem orderly_slowlyShown : slowlyShown.Orderly := by
  have hduring : ∀ c (s : System World), ∃ clock, s.clock ≤ clock ∧
      (slowlyShown.during c).run s = (reliablyTimed.during c).run { s with clock } := by
    intro c s
    by_cases hc : c.kind = .showNotification
    · refine ⟨s.clock + 1000, by omega, ?_⟩
      unfold slowlyShown
      simp only [hc, if_true, Act.run_bind]
      rfl
    · refine ⟨s.clock, Int.le_refl _, ?_⟩
      unfold slowlyShown
      simp only [hc, if_false]
  exact {
    staysOut := fun c s => by
      obtain ⟨clock, -, hr⟩ := hduring c s
      rw [hr]
      have hlater : Untouched s { s with clock } := ⟨⟨[], by simp⟩, rfl⟩
      exact hlater.trans (orderly_reliablyTimed.staysOut c { s with clock })
    time := fun t c s hs => by
      obtain ⟨clock, hclock, hr⟩ := hduring c s
      rw [hr]
      exact orderly_reliablyTimed.time t c { s with clock } (Int.le_trans hs hclock)
    arm := fun _ _ _ => rfl
    cancel := fun _ => rfl }

/-- The poller after a request to check an account. -/
def requested (env : Surroundings World) (id : Int) (s : System World) : System World :=
  ((process env (.checkRequested (some id) none)).run s).2

/-- The poller when what its timer holds was delivered ten minutes later.  Nothing fails any more. -/
def delivered (env : Surroundings World) (s : System World) : System World :=
  ((deliver env 2).run { s with clock := 1600000, world := {} }).2

/-- Three ways to be left without a wake that moves the account on.  An account whose number is too
long is scheduled, but no wake is set.  A poller that is closed does not take the wake.  If the end of
the check waits, it is handled before the watchdog, which then finds nothing to do, and the account
counts as checked at an earlier time than that of the watchdog. -/
theorem watchdog_long_closed_busy :
    reliablyTimed.Orderly ∧ slowlyShown.Orderly ∧ longNumber ≠ Snapshot.noAccount ∧
    ((requested reliablyTimed longNumber longNumberPoller).timer = none ∧
      ∃ report ∈ (requested reliablyTimed longNumber longNumberPoller).core.registry.reports,
        0 < report.interval) ∧
    ((requested reliablyTimed 1 closedWithoutInbox).timer =
        some (reliablyTimed.policy.watchdogWake 1 1000000) ∧
      1 ∉ (requested reliablyTimed 1 closedWithoutInbox).core.completed ∧
      (delivered reliablyTimed
        (requested reliablyTimed 1 closedWithoutInbox)).core.registry.prevSyncTimes = [(1, 0)]) ∧
    (requested slowlyShown 1 busyWithoutInbox).timer =
        some (slowlyShown.policy.watchdogWake 1 1000000) ∧
      1 ∉ (requested slowlyShown 1 busyWithoutInbox).core.completed ∧
      (delivered slowlyShown (requested slowlyShown 1 busyWithoutInbox)).clock = 1601000 ∧
      (delivered slowlyShown
        (requested slowlyShown 1 busyWithoutInbox)).core.registry.prevSyncTimes = [(1, 1600000)] ∧
      Event.noted (.watchdogFired 1) ∉
        (delivered slowlyShown (requested slowlyShown 1 busyWithoutInbox)).journal := by
  refine ⟨orderly_reliablyTimed, orderly_slowlyShown, ?_, ⟨?_, ?_⟩, ⟨?_, ?_, ?_⟩, ?_, ?_, ?_, ?_,
    ?_⟩ <;> decide +kernel

end Rehearsal

end MailSchedule
