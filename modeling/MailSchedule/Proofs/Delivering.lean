import MailSchedule.Proofs.Calm
import MailSchedule.Proofs.Payloads

/-!
# Delivering a wake

What a wake comes to among calm collaborators: its payload is read, an account is opened for a check
and its watchdog armed, and unless the check is started the account counts as checked and the timer
is set anew.

Results:

* `Surroundings.Calm.checkAccount`: the outcome of a check, given whether it is started.
* `Surroundings.Calm.tryStart_of_prevents`: a check that something stands in the way of.
* `Surroundings.Calm.tryStart_alike`: checks of two pollers that are told the same.
* `deliver`, `run_deliver`: delivering the payload that the timer holds.
-/

namespace MailSchedule

variable {ω : Type}

/-! ## A check, given whether it is started -/

/-- The wake of the watchdog of an account whose check begins at the given time. -/
def Policy.watchdogWake (policy : Policy) (id now : Int) : Wake :=
  ⟨now + policy.watchdogDelay, Snapshot.encode { account := some id, watchdog := true }⟩

theorem Snapshot.readable_watchdog_iff (id : Int) :
    Snapshot.Readable { account := some id, watchdog := true } ↔ Json.Readable id :=
  ⟨fun h => h.account id rfl, fun h => ⟨by rintro _ ⟨rfl⟩; exact h, nofun⟩⟩

/-- What the watchdog of an account carries is read as that. -/
theorem Policy.decode_watchdogWake (policy : Policy) {id : Int} (hne : id ≠ Snapshot.noAccount)
    (hread : Json.Readable id) (now : Int) :
    Snapshot.decode (some (policy.watchdogWake id now).payload) =
      .ok { account := some id, watchdog := true } :=
  Snapshot.decode_encode_self ((Snapshot.readable_watchdog_iff id).2 hread)
    fun heq => hne (Option.some.inj heq)

/-- Preparing for a check comes to pointing the timer at the end of the patience with it, if the
number of the account can be written. -/
theorem run_openCheck (env : Surroundings ω) (id : Int) (s : System ω) :
    let forgotten := { s with
      core := { s.core with
        completed := s.core.completed.filter (· ≠ id)
        announced := s.core.announced.filter (·.1 ≠ id) } }
    (openCheck env id).run s =
      if Json.Readable id then
        (point env (some (env.policy.watchdogWake id s.clock))).run forgotten
      else (.error Snapshot.tooLong, forgotten) := by
  unfold openCheck armWatchdog point
  simp only [bind_assoc, pure_bind, bind_pure_unit]
  by_cases hread : Json.Readable id
  · rw [Snapshot.payload_of_readable ((Snapshot.readable_watchdog_iff id).2 hread), if_pos hread]
    rfl
  · rw [Snapshot.payload_of_not_readable (mt (Snapshot.readable_watchdog_iff id).1 hread),
      if_neg hread]
    rfl

namespace System

/-- The system after an account was prepared for its check. -/
def opened (env : Surroundings ω) (id : Int) (s : System ω) : System ω :=
  { s with
    core := { s.core with
      completed := s.core.completed.filter (· ≠ id)
      announced := s.core.announced.filter (·.1 ≠ id) }
    timer := some (env.policy.watchdogWake id s.clock) }

/-- The system with the wake timer set for its registry, if that can be done. -/
def rearmed (s : System ω) : System ω :=
  { s with timer := s.core.registry.timerAt s.clock s.timer }

/-- The system after a check of an account that was started or not. -/
def afterCheck (env : Surroundings ω) (id : Int) (started : Bool) (s : System ω) : System ω :=
  if started then s.opened env id else ((s.opened env id).checkedNow id none).rearmed

end System

theorem Passed.opened {I : ω → Prop} {l : List Call} {s s' : System ω} (h : Passed I l s s')
    (env : Surroundings ω) (id : Int) : Passed I l (s.opened env id) (s'.opened env id) := by
  obtain ⟨j, w, rfl, hw, hj⟩ := h
  exact ⟨j, w, rfl, hw, hj⟩

theorem Passed.checkedNow {I : ω → Prop} {l : List Call} {s s' : System ω} (h : Passed I l s s')
    (id : Int) (unseen : Option Int) :
    Passed I l (s.checkedNow id unseen) (s'.checkedNow id unseen) := by
  obtain ⟨j, w, rfl, hw, hj⟩ := h
  exact ⟨j, w, rfl, hw, hj⟩

theorem Passed.rearmed {I : ω → Prop} {l : List Call} {s s' : System ω} (h : Passed I l s s') :
    Passed I l s.rearmed s'.rearmed := by
  obtain ⟨j, w, rfl, hw, hj⟩ := h
  exact ⟨j, w, rfl, hw, hj⟩

theorem Passed.afterCheck {I : ω → Prop} {l : List Call} {s s' : System ω} (h : Passed I l s s')
    (env : Surroundings ω) (id : Int) (started : Bool) :
    Passed I l (s.afterCheck env id started) (s'.afterCheck env id started) := by
  cases started with
  | true => exact h.opened env id
  | false => exact ((h.opened env id).checkedNow id none).rearmed

/-- From a system, but for its journal and its world, trying to start a check does not fail, and
whether it is started and which checks are requested is as described. -/
def Surroundings.StartsAs (env : Surroundings ω) (I : ω → Prop) (id : Int)
    (L : Bool → List Call → Prop) (s : System ω) : Prop :=
  ∀ s1, Passed I [] s s1 → ∃ started l s2, (tryStart env id).run s1 = (.ok started, s2) ∧
    Passed I l s1 s2 ∧ L started l

theorem Surroundings.StartsAs.of_passed {env : Surroundings ω} {I : ω → Prop} {id : Int}
    {L : Bool → List Call → Prop} {s s' : System ω} (h : env.StartsAs I id L s)
    (hs : Passed I [] s s') : env.StartsAs I id L s' := fun s1 h1 => h s1 (hs.trans h1)

namespace Surroundings.Calm

variable {env : Surroundings ω} {I : ω → Prop} (h : env.Calm I)
include h

theorem openCheck {id : Int} (hread : Json.Readable id) {s : System ω} (hs : I s.world) :
    ∃ s', (openCheck env id).run s = (.ok (), s') ∧ Passed I [] (s.opened env id) s' := by
  rw [run_openCheck]
  dsimp only
  rw [if_pos hread]
  exact h.arm (s.clock + env.policy.watchdogDelay)
    (Snapshot.encode { account := some id, watchdog := true }) (s := { s with
      core := { s.core with
        completed := s.core.completed.filter (· ≠ id)
        announced := s.core.announced.filter (·.1 ≠ id) } }) hs

/-- Recording a check of an account that is tracked, and setting the timer. -/
theorem checkOff {id : Int} (unseen : Option Int) {s : System ω} (hs : I s.world)
    (hid : id ∈ s.core.registry.ids) :
    ∃ r s', Act.run (do
        let _ ← update env id unseen
        let _ ← MailSchedule.rearm env) s = (r, s') ∧
      Passed I [] (s.checkedNow id unseen).rearmed s' := by
  obtain ⟨report, hupdate⟩ := run_update_of_mem env unseen hid
  have hids : (s.checkedNow id unseen).core.registry.ids ≠ [] := by
    rw [System.ids_checkedNow]
    exact List.ne_nil_of_mem hid
  obtain ⟨r, s', hrearm, hs'⟩ := h.rearm (s := s.checkedNow id unseen) hs hids
  refine ⟨r.map fun _ => (), s', ?_, hs'⟩
  simp only [Act.run_bind, hupdate, hrearm, Act.run_pure]
  cases r <;> rfl

/-- The outcome of a check follows from whether it is started. -/
theorem checkAccount {id : Int} (hread : Json.Readable id) {L : Bool → List Call → Prop}
    {s : System ω} (hs : I s.world) (hid : id ∈ s.core.registry.ids)
    (hstart : env.StartsAs I id L (s.opened env id)) :
    ∃ started l r s', (checkAccount env id).run s = (r, s') ∧
      Passed I l (s.afterCheck env id started) s' ∧ L started l := by
  obtain ⟨s1, hopen, h1⟩ := h.openCheck hread hs
  obtain ⟨started, l, s2, htry, h2, hL⟩ := hstart s1 h1
  have h12 := h1.nil_trans h2
  unfold MailSchedule.checkAccount
  simp only [Act.run_bind, hopen, htry]
  cases started with
  | true => exact ⟨true, l, _, s2, rfl, h12, hL⟩
  | false =>
    have hid2 : id ∈ s2.core.registry.ids := by
      rw [h12.core]
      exact hid
    obtain ⟨r, s', hr, hs'⟩ := h.checkOff none h12.world hid2
    exact ⟨false, l, r, s', hr, (h12.checkedNow id none).rearmed.trans hs', hL⟩

end Surroundings.Calm

/-! ## Whether a check is started -/

/-- Something stands in the way of automatic checks of an account: background data is off, its
checks are switched off, or, once it has been asked for its inbox, it has none or no check of that
can be started.  Which of these it is may differ from world to world. -/
def Surroundings.Prevents (env : Surroundings ω) (I : ω → Prop) (report : Report) : Prop :=
  ∀ s : System ω, I s.world →
    let asked := ((env.call (.findInbox report.account)).run s).2
    env.backgroundIn s.world = false ∨
    report.enabled = false ∨
    env.checker.inbox report.account asked.world = none ∨
    ∀ mailbox, env.checker.inbox report.account asked.world = some mailbox →
      ((env.call (.checkMail report.account mailbox)).run asked).1.isOk = false

/-- Whether an account may be checked automatically, as the registry has it. -/
def Registry.isRunnable (r : Registry) (id : Int) : Bool := (r.find? id).any (·.isRunnable)

theorem run_runIfDue (id : Int) (start : Int → Act ω Bool) (s : System ω) :
    (runIfDue id start).run s =
      if s.core.registry.isRunnable id then (start id).run s else (.ok false, s) := by
  unfold runIfDue Registry.isRunnable
  rw [Act.run_bind, run_registry]
  dsimp only
  cases s.core.registry.find? id with
  | none => rfl
  | some report =>
    simp only [Option.any_some]
    split <;> rfl

/-- Has mail of an account checked, and tells whether that could be started. -/
def requestCheck (env : Surroundings ω) (id mailbox : Int) : Act ω Bool :=
  tryCatch (do env.call (.checkMail id mailbox); return true) fun e => do
    note (.startFailed id e)
    return false

namespace Surroundings.Calm

variable {env : Surroundings ω} {I : ω → Prop} (h : env.Calm I)
include h

theorem requestCheck (id mailbox : Int) {s : System ω} (hs : I s.world) :
    ∃ s', (requestCheck env id mailbox).run s =
        (.ok ((env.call (.checkMail id mailbox)).run s).1.isOk, s') ∧
      Passed I [.checkMail id mailbox] s s' := by
  obtain ⟨w, hw, hr⟩ := h.checkMail id mailbox hs
  unfold MailSchedule.requestCheck
  rw [Act.run_tryCatch, Act.run_bind, hr]
  generalize ((env.during (.checkMail id mailbox)).run _).1 = r
  cases r with
  | ok _ => exact ⟨_, rfl, _, w, rfl, hw, rfl⟩
  | error e =>
    dsimp only
    rw [Act.run_bind, run_note]
    exact ⟨_, rfl, _, w, rfl, hw, rfl⟩

/-- Starting a check means to ask for the inbox, and then to have it checked. -/
theorem startCheck_cases (id : Int) {s : System ω} (hs : I s.world) :
    let asked := ((env.call (.findInbox id)).run s).2
    Passed I [] s asked ∧ (startCheck env id).run s =
      match env.checker.inbox id asked.world with
      | none => (.ok false, asked)
      | some mailbox => (MailSchedule.requestCheck env id mailbox).run asked := by
  obtain ⟨h1, hr⟩ := h.findInbox id hs
  refine ⟨h1, ?_⟩
  unfold startCheck
  rw [Act.run_bind, hr]
  dsimp only
  cases env.checker.inbox id ((env.call (.findInbox id)).run s).2.world <;> rfl

/-- Trying to start a check means to ask about background data first. -/
theorem tryStart_cases (id : Int) {s : System ω} (hs : I s.world) :
    ∃ s1, Passed I [] s s1 ∧ (tryStart env id).run s =
      if env.backgroundIn s1.world && s.core.registry.isRunnable id then (startCheck env id).run s1
      else (.ok false, s1) := by
  obtain ⟨s1, h1, hr⟩ := h.backgroundDataEnabled hs
  refine ⟨s1, h1, ?_⟩
  unfold tryStart
  rw [Act.run_bind, hr, ← h1.core]
  dsimp only
  cases env.backgroundIn s1.world with
  | false => rfl
  | true =>
    rw [if_pos rfl, run_runIfDue]
    rfl

/-- A check that something stands in the way of is not started. -/
theorem tryStart_of_prevents {id : Int} {s : System ω} (hs : I s.world)
    (hreport : ∀ report, s.core.registry.find? id = some report →
      report.account = id ∧ env.Prevents I report) :
    ∃ l s', (tryStart env id).run s = (.ok false, s') ∧ Passed I l s s' := by
  obtain ⟨s1, h1, hr⟩ := h.tryStart_cases id hs
  rw [hr]
  by_cases hgo : (env.backgroundIn s1.world && s.core.registry.isRunnable id) = true
  swap
  · exact ⟨[], s1, by rw [if_neg hgo], h1⟩
  rw [if_pos hgo]
  rw [Bool.and_eq_true] at hgo
  obtain ⟨hbackground, hrunnable⟩ := hgo
  obtain ⟨report, hfind, hrun⟩ := (Option.any_eq_true _ _).1 hrunnable
  obtain ⟨rfl, hprevents⟩ := hreport report hfind
  obtain ⟨h2, hr2⟩ := h.startCheck_cases report.account h1.world
  have hprevents := hprevents s1 h1.world
  rw [hr2]
  generalize ((env.call (.findInbox report.account)).run s1).2 = s2 at h2 hprevents
  rcases hprevents with hoff | hoff | hoff | hoff
  · rw [hoff] at hbackground
    cases hbackground
  · simp [Report.isRunnable, hoff] at hrun
  · rw [hoff]
    exact ⟨[], s2, rfl, h1.trans h2⟩
  · cases hinbox : env.checker.inbox report.account s2.world with
    | none => exact ⟨[], s2, rfl, h1.trans h2⟩
    | some mailbox =>
      obtain ⟨s3, hr3, h3⟩ := h.requestCheck report.account mailbox h2.world
      rw [hoff mailbox hinbox] at hr3
      exact ⟨_, s3, hr3, (h1.trans h2).trans h3⟩

/-- Handling a message comes to what its handler comes to, whether or not that fails. -/
theorem process (m : Message) {s : System ω} (hs : I s.world) :
    ∃ s1, Passed I [] s s1 ∧ ∀ r s2, (handle env m).run s1 = (r, s2) → I s2.world →
      ∃ s3, (process env m).run s = (.ok (), s3) ∧ Passed I [] s2 s3 := by
  obtain ⟨s1, hr1, h1⟩ := (h.reconcile [] s).run (.refl hs)
  refine ⟨_, Passed.keeps_record [] s (e := .began m) nofun s1 h1, fun r s2 hr2 h2 => ?_⟩
  unfold MailSchedule.process
  simp only [Act.run_bind, hr1, run_record, Act.run_tryCatch] at hr2 ⊢
  rw [hr2]
  cases r with
  | ok _ => exact ⟨_, rfl, Passed.keeps_record [] s2 (e := .ended m) nofun s2 (.refl h2)⟩
  | error e =>
    have hnoted := Passed.keeps_note [] s2 (failureNotice m e) s2 (.refl h2)
    exact ⟨_, rfl, Passed.keeps_record [] s2 (e := .ended m) nofun _ hnoted⟩

end Surroundings.Calm

/-- Delivers what the wake timer holds: the poller is woken, and works off its queue. -/
def deliver (env : Surroundings ω) (limit : Nat) : Act ω Unit := do
  wake ((← get).timer.map (·.payload))
  let _ ← drain env limit

/-- An open poller without messages that is woken handles the message of the payload. -/
theorem run_deliver {env : Surroundings ω} {limit : Nat} (hlimit : 0 < limit) {s s' : System ω}
    (hopen : s.core.closed = false) (hqueue : s.core.queue = []) {snapshot : Snapshot}
    (hdecode : Snapshot.decode (s.timer.map (·.payload)) = .ok snapshot)
    (hprocess : (process env snapshot.message).run s = (.ok (), s'))
    (hqueue' : s'.core.queue = []) : (deliver env limit).run s = (.ok (), s') := by
  obtain ⟨n, rfl⟩ := Nat.exists_eq_add_of_lt hlimit
  have hwake : (wake (s.timer.map (·.payload))).run s =
      (.ok (), { s with core := { s.core with queue := [snapshot.message] } }) := by
    unfold wake
    rw [hdecode]
    unfold submit
    rw [Act.run_bind, run_core]
    dsimp only
    rw [if_neg (by simp [hopen]), run_modifyCore, hqueue]
    rfl
  have hback : { s with core := { s.core with queue := [] } } = s := by
    rw [← hqueue]
  have hdrain : (drain env (0 + n + 1)).run
      { s with core := { s.core with queue := [snapshot.message] } } = (.ok 1, s') := by
    rw [run_drain_cons env (0 + n) rfl]
    dsimp only
    rw [hback, hprocess, Act.run_bind, run_drain_nil env (0 + n) hqueue']
    rfl
  unfold deliver
  simp only [Act.run_bind, Act.run_get, hwake, hdrain, Act.run_pure]

/-- The snapshot of a registry that is tracked changes nothing in it. -/
theorem Passed.run_restore_own {env : Surroundings ω} {I : ω → Prop} {s s1 : System ω}
    (h : Passed I [] s s1) (hproper : s.core.registry.Proper) (hids : s.core.registry.ids ≠ [])
    (account : Option Int) :
    (restore env (s.core.registry.snapshot account)).run s1 = (.ok (), s1) := by
  rw [← h.core] at hproper hids ⊢
  unfold restore
  rw [Act.run_bind, load_fillIfEmpty_of_ids env hids]
  dsimp only
  rw [run_modifyRegistry]
  show ((.ok (), { s1 with core := { s1.core with
    registry := s1.core.registry.restore s1.core.registry.prevSyncTimes } }) :
      Except Fault Unit × System ω) = _
  rw [hproper.restore_prevSyncTimes]

/-- The check of an account, or of whichever is due. -/
def checkDue (env : Surroundings ω) : Option Int → Act ω Unit
  | some id => checkAccount env id
  | none => do let _ ← rearm env

/-- A wake that is not a watchdog's restores what its snapshot carries, and then has an account
checked. -/
theorem Surroundings.Calm.deliver_check {env : Surroundings ω} {I : ω → Prop} (h : env.Calm I)
    {limit : Nat} (hlimit : 0 < limit) {s : System ω} (hs : I s.world)
    (hopen : s.core.closed = false) (hqueue : s.core.queue = []) {snapshot : Snapshot}
    (hdecode : Snapshot.decode (s.timer.map (·.payload)) = .ok snapshot)
    (hwatchdog : snapshot.watchdog = false) {x : System ω}
    (hrestore : ∀ s1, Passed I [] s s1 → ∃ s2,
      (restore env snapshot).run s1 = (.ok (), s2) ∧ Passed I [] x s2)
    {R : List Call → System ω → Prop} (hR : ∀ l t, R l t → t.core.queue = [])
    (hcheck : ∀ x1, Passed I [] x x1 → ∃ l t r x2,
      (checkDue env snapshot.account).run x1 = (r, x2) ∧ Passed I l t x2 ∧ R l t) :
    ∃ l t s', (deliver env limit).run s = (.ok (), s') ∧ Passed I l t s' ∧ R l t := by
  have hmessage : snapshot.message = .checkRequested snapshot.account (some snapshot) := by
    unfold Snapshot.message
    rw [hwatchdog]
  obtain ⟨s1, h1, hprocess⟩ := h.process snapshot.message hs
  obtain ⟨s2, hr2, h2⟩ := hrestore s1 h1
  obtain ⟨l, t, r, s3, hr3, h3, ht⟩ := hcheck s2 h2
  have hhandle : (handle env snapshot.message).run s1 = (r, s3) := by
    rw [hmessage]
    show Act.run (do
      restore env snapshot
      checkDue env snapshot.account) s1 = _
    rw [Act.run_bind, hr2]
    exact hr3
  obtain ⟨s4, hr4, h4⟩ := hprocess r s3 hhandle h3.world
  refine ⟨l, t, s4, run_deliver hlimit hopen hqueue hdecode hr4 ?_, h3.trans h4, ht⟩
  rw [h4.core, h3.core]
  exact hR l t ht

/-- A poller that is woken by the payload it armed last, and that remembers what it did then, has
the account checked that was selected. -/
theorem Surroundings.Calm.deliver_own {env : Surroundings ω} {I : ω → Prop} (h : env.Calm I)
    {limit : Nat} (hlimit : 0 < limit) {s : System ω} (hs : I s.world)
    (hopen : s.core.closed = false) (hqueue : s.core.queue = [])
    (hproper : s.core.registry.Proper) {id : Int} (hid : id ∈ s.core.registry.ids)
    (hne : id ≠ Snapshot.noAccount) {w : Wake} (htimer : s.timer = some w)
    (hpayload : w.payload = (s.core.registry.snapshot (some id)).encode)
    (hread : (s.core.registry.snapshot (some id)).Readable) {L : Bool → List Call → Prop}
    (hstart : env.StartsAs I id L (s.opened env id)) :
    ∃ started l s', (deliver env limit).run s = (.ok (), s') ∧
      Passed I l (s.afterCheck env id started) s' ∧ L started l := by
  have hdecode : Snapshot.decode (s.timer.map (·.payload)) =
      .ok (s.core.registry.snapshot (some id)) := by
    rw [htimer, Option.map_some, hpayload]
    exact Snapshot.decode_encode_self hread fun heq => hne (Option.some.inj heq)
  have hcheck : ∀ s1, Passed I [] s s1 → ∃ l t r s2,
      (checkDue env (some id)).run s1 = (r, s2) ∧ Passed I l t s2 ∧
      ∃ started, t = s.afterCheck env id started ∧ L started l := by
    intro s1 h1
    obtain ⟨started, l, r, s2, hr2, h2, hL⟩ := h.checkAccount (hread.account id rfl) h1.world
      (show id ∈ s1.core.registry.ids by rw [h1.core]; exact hid)
      (hstart.of_passed (h1.opened env id))
    exact ⟨l, _, r, s2, hr2, (h1.afterCheck env id started).nil_trans h2, started, rfl, hL⟩
  obtain ⟨l, _, s', hr, hs', started, rfl, hL⟩ := h.deliver_check hlimit hs hopen hqueue hdecode rfl
    (fun s1 h1 => ⟨s1, h1.run_restore_own hproper (List.ne_nil_of_mem hid) (some id), h1⟩)
    (R := fun l t => ∃ started, t = s.afterCheck env id started ∧ L started l) (by
      rintro l _ ⟨started, rfl, -⟩
      cases started <;> exact hqueue) hcheck
  exact ⟨started, l, s', hr, hs', hL⟩

end MailSchedule
