import MailSchedule.Proofs.CurrentWakes
import MailSchedule.Proofs.Ledgers
import MailSchedule.Proofs.RoundTrip
import MailSchedule.Proofs.UnforeseenPayloads

/-!
# What a wake stands for

The wake timer is set when a check is opened, to the moment at which it is to be given up, and at
the end of most messages, for the account that is due next.  Both kinds of wake share the one timer
and the one written form of a snapshot.  Whatever happens to a poller, what the timer holds was put
there by the last setting that took effect, and a poller that is woken with it takes it for what was
meant.

Results:

* `Setting`, `Setting.wake?`: how the wake timer is set, and what it holds then.
* `Message.setting?`, `Episode.setting?`, `lastSetting?`: which setting takes effect last.
* `Sets`, `Surroundings.StaysOut.handle_sets`, `Surroundings.StaysOut.timer_course`: the wake timer
  holds what that setting put there.
* `Setting.Means`: what a wake stands for, given how the timer was set.
* `armed_wakes_come_back`: all of this in every course of events.
-/

namespace MailSchedule

variable {ω : Type}

/-! ## Settings of the wake timer -/

/-- How the wake timer is set, with the system at the moment when that is decided. -/
inductive Setting (ω : Type)
  /-- It is made idle on request. -/
  | idle
  /-- A check of an account is opened. -/
  | watchdog (id : Int) (moment : System ω)
  /-- The account that is due next is looked for. -/
  | dueNext (moment : System ω)

/-- What the wake timer holds then. -/
def Setting.wake? (policy : Policy) : Setting ω → Option Wake
  | idle => none
  | watchdog id moment => some (policy.watchdogWake id moment.clock)
  | dueNext moment => moment.core.registry.wakeAt moment.clock

/-- The setting for the account that is due next, unless it fails. -/
def System.rearming? (env : Surroundings ω) (s : System ω) : Option (Setting ω) :=
  if ((rearm env).run s).1.isOk then some (.dueNext ((load env .fillIfEmpty).run s).2) else none

/-- The setting that is part of what a message leads up to, unless there is none or it fails. -/
def Message.opening? (env : Surroundings ω) (s : System ω) : Message → Option (Setting ω)
  | .checkRequested (some id) snapshot =>
    match (catchUp env snapshot).run s with
    | (.ok _, moment) =>
      if ((openCheck env id).run moment).1.isOk then some (.watchdog id moment) else none
    | (.error _, _) => none
  | .cancelRequested => if ((disarm env).run s).1.isOk then some .idle else none
  | _ => none

theorem Message.opening?_ne_dueNext (m : Message) (env : Surroundings ω) (s moment : System ω) :
    m.opening? env s ≠ some (.dueNext moment) := by
  unfold opening?
  split
  · split
    · split <;> exact nofun
    · exact nofun
  · split <;> exact nofun
  · exact nofun

/-- The setting that takes effect last while a message is handled. -/
def Message.setting? (env : Surroundings ω) (s : System ω) (m : Message) : Option (Setting ω) :=
  match (leadUp env m).run s with
  | (.ok true, s') => (s'.rearming? env).or (m.opening? env s)
  | _ => m.opening? env s

namespace Episode

/-- The setting that takes effect last in an episode: the wake timer is set only while a message is
handled. -/
def setting? (env : Surroundings ω) (s : System ω) : Episode ω → Option (Setting ω)
  | occurs .next =>
    match s.core.queue with
    | [] => none
    | m :: rest =>
      m.setting? env (System.begun env m { s with core := { s.core with queue := rest } })
  | _ => none

end Episode

/-- The setting that took effect last in a course of events. -/
def lastSetting? (env : Surroundings ω) (s : System ω) : List (Episode ω) → Option (Setting ω)
  | [] => none
  | e :: es => (lastSetting? env (e.after env s) es).or (e.setting? env s)

/-- What the wake timer holds after a setting, or as before if there is none. -/
def heldAfter (policy : Policy) (setting? : Option (Setting ω)) (before : Option Wake) :
    Option Wake := setting?.elim before (·.wake? policy)

theorem heldAfter_or (policy : Policy) (later earlier : Option (Setting ω)) (before : Option Wake) :
    heldAfter policy (later.or earlier) before =
      heldAfter policy later (heldAfter policy earlier before) := by
  cases later with
  | none => rfl
  | some a => rfl

/-- Between two systems the wake timer was set as told.  If that was for the account due next, the
accounts tracked afterwards are those among which it was selected. -/
structure Sets (policy : Policy) (setting? : Option (Setting ω)) (s s' : System ω) : Prop where
  timer : s'.timer = heldAfter policy setting? s.timer
  registry : ∀ moment, setting? = some (.dueNext moment) →
    s'.core.registry = moment.core.registry

/-! ## Handling a message -/

namespace Surroundings.StaysOut

variable {env : Surroundings ω} (h : env.StaysOut)
include h

theorem respects_timer (held : Option Wake) : env.Respects fun s => s.timer = held :=
  .of_during (fun _ _ _ hs => hs) fun c s hs => (h c s).timer.trans hs

theorem overlooks_timer (held : Option Wake) : env.Overlooks fun s => s.timer = held where
  toAbides := (h.respects_timer held).spares.abides
  tracked _ _ _ hs := hs

/-- Messages that neither open a check nor have the timer made idle leave it alone until it is set
for the account that is due next. -/
theorem leadsUp_timer {m : Message} (hopens : ∀ id saved, m ≠ .checkRequested (some id) saved)
    (hcancels : m ≠ .cancelRequested) (held : Option Wake) :
    env.LeadsUp m (fun s => s.timer = held) fun s => s.timer = held where
  toAbides := (h.overlooks_timer held).toAbides
  opened _ _ _ _ hs := hs
  ended _ _ _ _ _ hs := hs
  told _ _ _ _ _ _ _ hs := hs
  fill := (h.overlooks_timer held).load .fillIfEmpty
  restore _ saved _ := (h.overlooks_timer held).restore saved
  refresh _ _ := (h.overlooks_timer held).refresh
  update id unseen _ _ := (h.overlooks_timer held).update id unseen
  armWatchdog id saved heq := absurd heq (hopens id saved)
  disarm heq := absurd heq hcancels
  announce id _ := (h.respects_timer held).announce id fun _ hs => hs
  silent _ hs := hs

/-- Pointing the timer either fails and leaves it as it was, or succeeds.  The registry is not
concerned. -/
theorem run_point (held : Option Wake) (s : System ω) :
    ((point env held).run s).2.core.registry = s.core.registry ∧
      ((point env held).run s).2.timer =
        if ((point env held).run s).1.isOk then held else s.timer := by
  have hpoint : ∀ c : Call, ∀ r : Except Fault Unit × System ω,
      r = Act.run (do env.call c; setTimer held) s →
        r.2.core.registry = s.core.registry ∧ r.2.timer = if r.1.isOk then held else s.timer := by
    rintro c r rfl
    have hcall := h.call c s
    rw [Act.run_bind]
    rcases hr : (env.call c).run s with ⟨_ | _, s'⟩
    · rw [hr] at hcall
      exact ⟨hcall.registry, hcall.timer⟩
    · rw [hr] at hcall
      exact ⟨hcall.registry, rfl⟩
  cases held with
  | none => exact hpoint .cancelTimer _ rfl
  | some w => exact hpoint (.arm w.time w.payload) _ rfl

/-- Opening a check sets the timer to its watchdog, or fails and leaves it as it was. -/
theorem openCheck_timer (id : Int) (s : System ω) :
    ((openCheck env id).run s).2.timer =
      if ((openCheck env id).run s).1.isOk then some (env.policy.watchdogWake id s.clock)
      else s.timer := by
  rw [run_openCheck]
  by_cases hid : Json.Readable id
  · rw [if_pos hid]
    exact (h.run_point _ _).2
  · rw [if_neg hid]
    rfl

/-- After a check was opened neither starting it nor recording it concerns the timer. -/
theorem check_timer (id : Int) (saved : Option Snapshot) (s : System ω) :
    ((leadUp env (.checkRequested (some id) saved)).run s).2.timer =
      heldAfter env.policy ((Message.checkRequested (some id) saved).opening? env s) s.timer := by
  have hcatchUp := (h.overlooks_timer s.timer).catchUp saved s rfl
  unfold leadUp Message.opening? tryCheck
  rw [Act.run_bind]
  dsimp only
  rcases hr : (catchUp env saved).run s with ⟨_ | _, moment⟩
  · rw [hr] at hcatchUp
    exact hcatchUp
  rw [hr] at hcatchUp
  have hopen := h.openCheck_timer id moment
  dsimp only at hcatchUp ⊢
  rw [Act.run_bind]
  rcases hr' : (openCheck env id).run moment with ⟨_ | _, s'⟩
  · rw [hr'] at hopen
    exact hopen.trans hcatchUp
  · rw [hr'] at hopen
    -- What follows changes the registry and the world, but not the timer.
    have hrest : Act.Keeps (do
        let started ← tryStart env id
        if !started then
          let _ ← update env id none
        return !started) fun x => x.timer = s'.timer :=
      ((h.overlooks_timer _).tryStart id).bind fun _ =>
        .ite (((h.overlooks_timer _).update id none).bind fun _ => .pure _) (.pure _)
    exact (hrest s' rfl).trans hopen

/-- What a message leads up to sets the timer as it should. -/
theorem leadUp_timer (m : Message) (s : System ω) :
    ((leadUp env m).run s).2.timer = heldAfter env.policy (m.opening? env s) s.timer := by
  by_cases hcancels : m = .cancelRequested
  · subst hcancels
    have hdisarm : ((disarm env).run s).2.timer =
        if ((disarm env).run s).1.isOk then none else s.timer := (h.run_point none s).2
    unfold leadUp Message.opening?
    rw [Act.run_bind_pure_snd, hdisarm]
    dsimp only
    split
    · rfl
    · rfl
  by_cases hopens : ∃ id saved, m = .checkRequested (some id) saved
  · obtain ⟨id, saved, rfl⟩ := hopens
    exact h.check_timer id saved s
  · have hnone : m.opening? env s = none := by
      unfold Message.opening?
      split
      · exact absurd ⟨_, _, rfl⟩ hopens
      · exact absurd rfl hcancels
      · rfl
    rw [hnone]
    have hleads := h.leadsUp_timer (fun id saved heq => hopens ⟨id, saved, heq⟩) hcancels s.timer
    exact hleads.leadUp s rfl

/-- So does setting it for the account that is due next. -/
theorem rearm_sets (s : System ω) :
    Sets env.policy (s.rearming? env) s ((rearm env).run s).2 := by
  have hload := (h.overlooks_timer s.timer).load .fillIfEmpty s rfl
  unfold System.rearming?
  rcases hr : (load env .fillIfEmpty).run s with ⟨_ | _, moment⟩
  · rw [hr] at hload
    unfold rearm
    rw [Act.run_bind, hr]
    exact ⟨hload, nofun⟩
  · -- The account was selected before the wake is written and the call points the timer, either of
    -- which may fail.
    rw [hr] at hload
    rw [run_rearm_of_load hr]
    by_cases hwritable : moment.core.registry.Writable
    · obtain ⟨hregistry, htimer⟩ := h.run_point (moment.core.registry.wakeAt moment.clock) moment
      rw [if_pos hwritable, Act.run_bind]
      rcases hr' : (point env _).run moment with ⟨_ | _, s'⟩
      · rw [hr'] at htimer
        exact ⟨htimer.trans hload, nofun⟩
      · rw [hr'] at htimer hregistry
        refine ⟨htimer, ?_⟩
        rintro _ ⟨rfl⟩
        exact hregistry
    · rw [if_neg hwritable]
      exact ⟨hload, nofun⟩

/-- While a message is handled the timer is set last as told. -/
theorem handle_sets (m : Message) (s : System ω) :
    Sets env.policy (m.setting? env s) s ((handle env m).run s).2 := by
  have hleadUp := h.leadUp_timer m s
  have hopening := m.opening?_ne_dueNext env s
  rw [handle_eq, Act.run_bind]
  unfold Message.setting?
  rcases hr : (leadUp env m).run s with ⟨_ | _ | _, s'⟩
  · rw [hr] at hleadUp
    exact ⟨hleadUp, fun moment hm => absurd hm (hopening moment)⟩
  · rw [hr] at hleadUp
    exact ⟨hleadUp, fun moment hm => absurd hm (hopening moment)⟩
  · rw [hr] at hleadUp
    have hrearm := h.rearm_sets s'
    dsimp only
    rw [if_pos rfl, Act.run_bind_pure_snd]
    constructor
    · rw [heldAfter_or, ← hleadUp]
      exact hrearm.timer
    · intro moment hm
      rcases Option.or_eq_some_iff.1 hm with hm | ⟨-, hm⟩
      · exact hrearm.registry moment hm
      · exact absurd hm (hopening moment)

/-- The same of handling the message that is next. -/
theorem next_sets (s : System ω) :
    Sets env.policy ((Episode.occurs .next).setting? env s) s (Occurrence.next.after env s) := by
  unfold Episode.setting?
  dsimp only
  cases hqueue : s.core.queue with
  | nil =>
    rw [after_next_nil env hqueue]
    exact ⟨rfl, nofun⟩
  | cons m rest =>
    let taken : System ω := { s with core := { s.core with queue := rest } }
    have hbegun : (taken.begun env m).timer = s.timer :=
      (h.respects_timer s.timer).spares.reconcile taken rfl
    obtain ⟨j, hprocess⟩ := process_snd env m taken
    have hhandle := h.handle_sets m (taken.begun env m)
    rw [after_next_cons env hqueue, hprocess]
    constructor
    · exact hhandle.timer.trans (congrArg (heldAfter env.policy _) hbegun)
    · exact hhandle.registry

/-- Nothing else that happens to a poller concerns the timer. -/
theorem aside_timer {o : Occurrence ω} (hnext : o ≠ .next) (s : System ω) :
    (o.after env s).timer = s.timer := by
  have hmessage : o.message? s = none := by
    cases o with
    | next => exact absurd rfl hnext
    | _ => rfl
  refine (h.respects_timer s.timer).spares.after (fun _ _ hs => hs) (fun _ _ _ hs => hs)
    (fun _ _ _ hs => hs) (fun m hm => ?_) rfl
  rw [hmessage] at hm
  cases hm

/-- In an episode the timer is set last as told. -/
theorem episode_sets (e : Episode ω) (s : System ω) :
    Sets env.policy (e.setting? env s) s (e.after env s) := by
  cases e with
  | close => exact ⟨rfl, nofun⟩
  | restart => exact ⟨rfl, nofun⟩
  | occurs o =>
    cases o with
    | next => exact h.next_sets s
    | submit m => exact ⟨h.aside_timer (o := .submit m) nofun s, nofun⟩
    | wake payload => exact ⟨h.aside_timer (o := .wake payload) nofun s, nofun⟩
    | resetCounts target => exact ⟨h.aside_timer (o := .resetCounts target) nofun s, nofun⟩
    | elapse clock world => exact ⟨rfl, nofun⟩

/-- Whatever happens to a poller, its wake timer holds what the setting put there that took effect
last. -/
theorem timer_course (es : List (Episode ω)) (s : System ω) :
    (Episode.course env s es).timer = heldAfter env.policy (lastSetting? env s es) s.timer := by
  induction es generalizing s with
  | nil => rfl
  | cons e es ih =>
    unfold lastSetting?
    rw [heldAfter_or, ← (h.episode_sets e s).timer]
    exact ih (e.after env s)

theorem proper_after (e : Episode ω) {s : System ω} (hs : s.core.registry.Proper) :
    (e.after env s).core.registry.Proper := by
  have hupholds := upholds_proper h.respects_proper
  cases e with
  | occurs o =>
    cases o with
    | submit m => exact hupholds.submit m s hs
    | wake payload => exact hupholds.wake payload s hs
    | resetCounts target => exact hupholds.resetCounts target s hs
    | next => exact hupholds.drain 1 s hs
    | elapse clock world => exact hs
  | close => exact hupholds.close s hs
  | restart => exact Registry.sound_empty.toProper

end Surroundings.StaysOut

/-! ## What a wake stands for -/

/-- An open poller that is woken with what a wake carries puts one message into its queue, and does
nothing else. -/
def Wake.Brings (w : Wake) (m : Message) : Prop :=
  ∀ (ω : Type) (s : System ω), s.core.closed = false →
    (wake (some w.payload)).run s =
      (.ok (), { s with core := { s.core with queue := s.core.queue ++ [m] } })

theorem Wake.brings_of_decode {w : Wake} {saved : Snapshot}
    (h : Snapshot.decode (some w.payload) = .ok saved) : w.Brings saved.message :=
  fun _ _ hopen => run_wake_ok hopen h

/-- What a wake stands for, given how the timer was set.  The watchdog of an account goes off when
the patience with its check ends.  Any other wake is for the account that was selected, which is
scheduled; it comes at once or when its next check is due, and carries the times of the last checks
of all accounts tracked, in their order. -/
def Setting.Means (policy : Policy) (w : Wake) : Setting ω → Prop
  | idle => False
  | watchdog id moment =>
    w.time = moment.clock + policy.watchdogDelay ∧ w.Brings (.watchdogFired id)
  | dueNext moment => ∃ report,
    moment.core.registry.find? report.account = some report ∧
    (moment.core.registry.pickNext moment.clock).account = some report.account ∧
    0 < report.interval ∧ (w.time = dueNow ∨ w.time = report.nextSync) ∧
    (report.account, report.prevSync) ∈ moment.core.registry.prevSyncTimes ∧
    w.Brings (.checkRequested (some report.account) (some {
      account := some report.account
      prevSyncTimes := moment.core.registry.prevSyncTimes }))

/-- What goes into payloads can be read back, and no account has the number that stands for none:
this is about the accounts tracked and about those that waiting messages name. -/
structure System.Legible (s : System ω) : Prop where
  times : s.core.registry.Readable
  tracked : Snapshot.noAccount ∉ s.core.registry.ids
  named : ∀ m ∈ s.core.queue, ∀ id ∈ m.account?, id ≠ Snapshot.noAccount ∧ Json.Readable id

instance (s : System ω) : Decidable s.Legible :=
  decidable_of_iff (s.core.registry.Readable ∧ Snapshot.noAccount ∉ s.core.registry.ids ∧
      ∀ m ∈ s.core.queue, ∀ id ∈ m.account?, id ≠ Snapshot.noAccount ∧ Json.Readable id)
    ⟨fun h => ⟨h.1, h.2.1, h.2.2⟩, fun h => ⟨h.times, h.tracked, h.named⟩⟩

namespace Setting

variable {policy : Policy} {moment : System ω}

theorem means_watchdog {id : Int} (hne : id ≠ Snapshot.noAccount) (hread : Json.Readable id) :
    (watchdog id moment).Means policy (policy.watchdogWake id moment.clock) :=
  ⟨rfl, Wake.brings_of_decode (policy.decode_watchdogWake hne hread moment.clock)⟩

theorem means_dueNext (hproper : moment.core.registry.Proper)
    (hread : moment.core.registry.Readable)
    (htracked : Snapshot.noAccount ∉ moment.core.registry.ids) {w : Wake}
    (hw : moment.core.registry.wakeAt moment.clock = some w) :
    (dueNext moment).Means policy w := by
  obtain ⟨id, hid, htime, hpayload⟩ := Registry.wakeAt_eq_some hw
  obtain ⟨report, hmem, rfl, hinterval, hwake⟩ := Registry.exists_scheduled_of_pickNext hid
  have hfind := hproper.find?_of_mem hmem
  have hne : some report.account ≠ some Snapshot.noAccount := by
    intro heq
    rw [← Option.some.inj heq] at htracked
    exact htracked (Registry.mem_ids_of_mem (Registry.mem_of_find? hfind))
  have hdecode := Snapshot.decode_encode_self (Registry.readable_snapshot hread hmem) hne
  rw [← hpayload] at hdecode
  rw [← htime] at hwake
  exact ⟨report, hfind, hid, hinterval, hwake, List.mem_map_of_mem hmem,
    Wake.brings_of_decode hdecode⟩

end Setting

/-- Watchdogs are those of accounts that messages name. -/
theorem Message.account?_of_watchdog {env : Surroundings ω} {s moment : System ω} {m : Message}
    {id : Int} (h : m.setting? env s = some (.watchdog id moment)) : m.account? = some id := by
  have hopening : m.opening? env s = some (.watchdog id moment) := by
    unfold setting? at h
    split at h
    · rename_i s' _
      rcases Option.or_eq_some_iff.1 h with h | ⟨-, h⟩
      · unfold System.rearming? at h
        split at h <;> cases h
      · exact h
    · exact h
  unfold opening? at hopening
  split at hopening
  · split at hopening
    · split at hopening
      · cases hopening
        rfl
      · cases hopening
    · cases hopening
  · split at hopening <;> cases hopening
  · cases hopening

namespace Surroundings.StaysOut

variable {env : Surroundings ω} (h : env.StaysOut)
include h

/-- A wake that was set in an episode stands for what was meant. -/
theorem means_of_setting {e : Episode ω} {s : System ω} (hproper : s.core.registry.Proper)
    (hbefore : s.Legible) (hafter : (e.after env s).Legible) {a : Setting ω}
    (ha : e.setting? env s = some a) {w : Wake} (hw : a.wake? env.policy = some w) :
    a.Means env.policy w := by
  cases a with
  | idle => cases hw
  | watchdog id moment =>
    cases hw
    obtain ⟨m, hm, hid⟩ : ∃ m ∈ s.core.queue, m.account? = some id := by
      unfold Episode.setting? at ha
      split at ha
      · split at ha
        · cases ha
        · rename_i m rest hqueue
          rw [hqueue]
          exact ⟨m, List.mem_cons_self, Message.account?_of_watchdog ha⟩
      · cases ha
    obtain ⟨hne, hread⟩ := hbefore.named m hm id hid
    exact Setting.means_watchdog hne hread
  | dueNext moment =>
    have hregistry := (h.episode_sets e s).registry moment ha
    refine Setting.means_dueNext ?_ ?_ ?_ hw
    · rw [← hregistry]
      exact h.proper_after e hproper
    · rw [← hregistry]
      exact hafter.times
    · rw [← hregistry]
      exact hafter.tracked

theorem means_of_lastSetting {es : List (Episode ω)} {s : System ω}
    (hproper : s.core.registry.Proper)
    (hlegible : ∀ n, (Episode.course env s (es.take n)).Legible) {a : Setting ω}
    (ha : lastSetting? env s es = some a) {w : Wake} (hw : a.wake? env.policy = some w) :
    a.Means env.policy w := by
  induction es generalizing s with
  | nil => cases ha
  | cons e es ih =>
    unfold lastSetting? at ha
    rcases Option.or_eq_some_iff.1 ha with ha | ⟨-, ha⟩
    · exact ih (h.proper_after e hproper) (fun n => hlegible (n + 1)) ha
    · exact h.means_of_setting hproper (hlegible 0) (hlegible 1) ha hw

end Surroundings.StaysOut

/-- In every course of events that begins with an idle wake timer, the timer is idle or holds a wake
that stands for what was meant by the setting that took effect last.  Messages, payloads and
failures may be any, and collaborators may put messages into the queue at any time, as long as what
goes into payloads can be read back and no account has the number that stands for none. -/
theorem armed_wakes_come_back {env : Surroundings ω} (h : env.StaysOut) {s : System ω}
    (hproper : s.core.registry.Proper) (htimer : s.timer = none) (es : List (Episode ω))
    (hlegible : ∀ n, (Episode.course env s (es.take n)).Legible) :
    (Episode.course env s es).timer = none ∨
      ∃ w a, (Episode.course env s es).timer = some w ∧ lastSetting? env s es = some a ∧
        a.Means env.policy w := by
  have hcourse := h.timer_course es s
  rw [htimer] at hcourse
  cases hlast : lastSetting? env s es with
  | none =>
    rw [hlast] at hcourse
    exact Or.inl hcourse
  | some a =>
    rw [hlast] at hcourse
    cases hw : a.wake? env.policy with
    | none => exact Or.inl (hcourse.trans hw)
    | some w =>
      exact Or.inr ⟨w, a, hcourse.trans hw, rfl, h.means_of_lastSetting hproper hlegible hlast hw⟩

/-! ## Two wakes in turn -/

namespace Rehearsal

/-- The timer is set for the account that is due next, and then to the watchdog of its check. -/
def checkTwoDue : List (Episode World) :=
  [.occurs (.submit (.checkRequested none none)), .occurs .next,
    .occurs (.submit (.checkRequested (some 2) none)), .occurs .next]

theorem armed_wakes_come_back_checkTwoDue :
    inMemory.StaysOut ∧ freshPoller.core.registry.Proper ∧ freshPoller.timer = none ∧
      (∀ n, (Episode.course inMemory freshPoller (checkTwoDue.take n)).Legible) ∧
      ∃ w a, (Episode.course inMemory freshPoller checkTwoDue).timer = some w ∧
        lastSetting? inMemory freshPoller checkTwoDue = some a ∧ a.Means inMemory.policy w ∧
        w.time = 1600000 ∧ w.Brings (.watchdogFired 2) := by
  have hstays : inMemory.StaysOut := dependable_inMemory.staysOut
  have hproper : freshPoller.core.registry.Proper := Registry.sound_empty.toProper
  have hfew : ∀ n < 5, (Episode.course inMemory freshPoller (checkTwoDue.take n)).Legible := by
    decide +kernel
  have hlegible : ∀ n, (Episode.course inMemory freshPoller (checkTwoDue.take n)).Legible := by
    intro n
    have hlength : checkTwoDue.length = 4 := rfl
    rw [List.take_eq_take_min, hlength]
    exact hfew _ (by omega)
  have htimer : (Episode.course inMemory freshPoller checkTwoDue).timer =
      some (inMemory.policy.watchdogWake 2 1000000) := by
    decide +kernel
  have hwatchdog : (lastSetting? inMemory freshPoller checkTwoDue).any
      (fun | .watchdog id _ => id = 2 | _ => false) = true := by
    decide +kernel
  refine ⟨hstays, hproper, rfl, hlegible, ?_⟩
  rcases armed_wakes_come_back hstays hproper rfl checkTwoDue hlegible with
    hnone | ⟨w, a, hw, ha, hmeans⟩
  · rw [htimer] at hnone
    cases hnone
  · have htime : w.time = 1600000 := by
      rw [htimer] at hw
      cases hw
      rfl
    rw [ha, Option.any_some] at hwatchdog
    refine ⟨w, a, hw, ha, hmeans, htime, ?_⟩
    cases a with
    | idle => exact hmeans.elim
    | dueNext moment => cases hwatchdog
    | watchdog id moment =>
      have hid : id = 2 := by simpa using hwatchdog
      rw [← hid]
      exact hmeans.2

end Rehearsal

end MailSchedule
