import MailSchedule.Proofs.CheckTimes
import MailSchedule.Proofs.DueAccounts
import MailSchedule.Proofs.OpenChecks

/-!
# A check that begins, or counts as done

A request to check an account ends in one of two ways, and never in both: a check of its inbox was
started and its watchdog is armed, or none was started, the account counts as checked now, and the
timer is set for the account that is due next.

There is one exception to the second way.  If nothing is tracked when the check is recorded, the
registry is filled anew before the timer is set, and an account that the store lists only then is
tracked without ever having been checked.

Results:

* `Surroundings.Aloof`: collaborators that do not use the poller and request no checks.
* `Start`, `Attempt`, `run_tryStart_ok_iff`: what trying to start a check comes to.
* `Request`, `run_handle_request`: the moments at which something is decided.
* `Begun`, `CountedOff`: the two ways in which a request may end.
* `check_request_either_or`: exactly one of them is taken.
-/

namespace MailSchedule

variable {ω : Type}

/-! ## Collaborators that request nothing -/

/-- Collaborators leave the poller and its wake timer alone, and request no checks of mail
themselves. -/
structure Surroundings.Aloof (env : Surroundings ω) : Prop where
  staysOut : env.StaysOut
  requests : ∀ c s, checks ((env.during c).run s).2.journal = checks s.journal

/-- The clock shows a time with one property, the checks requested so far are as given, and the
registry and the wake timer have another property. -/
def Idle (T : Int → Prop) (l : List Call) (R : Registry → Option Wake → Prop) (s : System ω) :
    Prop :=
  T s.clock ∧ checks s.journal = l ∧ R s.core.registry s.timer

/-- Of one moment everything is known. -/
theorem Idle.self {T : Int → Prop} {l : List Call} {R : Registry → Option Wake → Prop}
    {s : System ω} (h : Idle T l R s) : Idle T l (fun r w => r = s.core.registry ∧ w = s.timer) s :=
  ⟨h.1, h.2.1, rfl, rfl⟩

namespace Surroundings.Aloof

variable {env : Surroundings ω} (h : env.Aloof) {T : Int → Prop} (htime : env.KeepsTime T)
  {l : List Call} {R : Registry → Option Wake → Prop}
include h htime

theorem during (c : Call) : (env.during c).Keeps (Idle T l R) := by
  intro s hs
  obtain ⟨hclock, hchecks, hR⟩ := hs
  have huntouched := h.staysOut c s
  refine ⟨htime c s hclock, (h.requests c s).trans hchecks, ?_⟩
  rw [huntouched.registry, huntouched.timer]
  exact hR

theorem call {c : Call} (hc : c.kind ≠ .checkMail) : (env.call c).Keeps (Idle T l R) :=
  Act.Keeps.bind (fun s hs => ⟨hs.1, (checks_called hc s.journal).trans hs.2.1, hs.2.2⟩) fun _ =>
    h.during htime c

/-- A check that is requested is the only one. -/
theorem checkMail (a mailbox : Int) : (env.call (.checkMail a mailbox)).Leads (Idle T l R)
    (Idle T (.checkMail a mailbox :: l) R) := by
  intro s hs
  refine h.during htime _ _ ⟨hs.1, ?_, hs.2.2⟩
  rw [← hs.2.1]
  rfl

theorem informs : env.Informs (Idle T l R) := by
  have hanswer : ∀ {α : Type} (reply : Reply ω α), (answer reply).Keeps (Idle T l R) :=
    fun reply => .answer reply (fun _ _ hs => hs) fun _ hs => hs
  exact {
    note := fun _ _ hs => hs
    call := fun c hc => h.call htime (by rcases hc with hc | hc | hc <;> rw [hc] <;> exact nofun)
    list := hanswer _
    get := fun _ => hanswer _
    isSyncEnabled := fun _ => hanswer _ }

/-- Nothing is requested before a message is handled. -/
theorem begun (m : Message) {s : System ω} (hs : Idle T l R s) : Idle T l R (s.begun env m) := by
  have hreconcile : (reconcile env).Keeps (Idle T l R) :=
    .ite ((h.call htime (c := .reconcile) nofun).tryCatch fun _ _ hs => hs) (.pure _)
  exact hreconcile s hs

/-- Once the wake timer is pointed somewhere, that is what it holds. -/
theorem point {R : Registry → Prop} {w : Option Wake} {s s' : System ω}
    (hs : Idle T l (fun r _ => R r) s) (hr : (point env w).run s = (.ok (), s')) :
    Idle T l (fun r v => R r ∧ v = w) s' := by
  have hset : ∀ c : Call, c.kind ≠ .checkMail →
      Act.run (do env.call c; setTimer w) s = (.ok (), s') →
      Idle T l (fun r v => R r ∧ v = w) s' := by
    intro c hc hr
    obtain ⟨_, s₁, hr₁, hr₂⟩ := Act.exists_of_run_bind hr
    have hs₁ := h.call htime hc s hs
    rw [hr₁] at hs₁
    cases hr₂
    exact ⟨hs₁.1, hs₁.2.1, hs₁.2.2, rfl⟩
  cases w with
  | none => exact hset .cancelTimer nofun hr
  | some w => exact hset (.arm w.time w.payload) nofun hr

/-! ## Loading -/

/-- Loading what is missing adds accounts that were never checked. -/
theorem load {mode : LoadMode} (hmode : mode ≠ .forceReset) {s s' : System ω}
    (hs : Idle T l R s) (hr : (load env mode).run s = (.ok (), s')) :
    s.core.registry.Extended s'.core.registry ∧
      Idle T l (fun r _ => s.core.registry.Proper → r.Proper) s' := by
  have hkeeps : (MailSchedule.load env mode).Keeps
      (Idle T l fun r _ => s.core.registry.Extended r ∧ (s.core.registry.Proper → r.Proper)) := by
    refine (h.informs htime).load mode fun s₁ built hs₁ hbuilt => ?_
    obtain ⟨hclock, hchecks, hextended, hproper⟩ := hs₁
    exact ⟨hclock, hchecks, hextended.trans (.published hmode hbuilt),
      fun hs => Core.proper_published (hproper hs) mode hbuilt⟩
  have hloaded := hkeeps s ⟨hs.1, hs.2.1, .refl _, id⟩
  rw [hr] at hloaded
  exact ⟨hloaded.2.2.1, hloaded.1, hloaded.2.1, hloaded.2.2.2⟩

/-- What a snapshot tells is filled in without a check. -/
theorem catchUp (p : Prop) (saved : Option Snapshot) :
    (catchUp env saved).Keeps (Idle T l fun r _ => p → r.Proper) := by
  have hload : (MailSchedule.load env .fillIfEmpty).Keeps (Idle T l fun r _ => p → r.Proper) :=
    (h.informs htime).load .fillIfEmpty fun s built hs hbuilt =>
      ⟨hs.1, hs.2.1, fun hp => Core.proper_published (hs.2.2 hp) .fillIfEmpty hbuilt⟩
  cases saved with
  | none => exact hload
  | some saved =>
    exact hload.bind fun _ s hs =>
      ⟨hs.1, hs.2.1, fun hp => (hs.2.2 hp).restore saved.prevSyncTimes⟩

end Surroundings.Aloof

/-! ## Trying to start a check -/

/-- What trying to start a check comes to. -/
inductive Start
  /-- Background data is off. -/
  | offline
  /-- The account is not tracked, not scheduled, or its checks are switched off. -/
  | notRunnable
  | noInbox
  /-- The check of an inbox was requested in vain. -/
  | refused (inbox : Int) (e : Fault)
  | started (inbox : Int)
  deriving DecidableEq, Repr

namespace Start

/-- Whether a check was started. -/
def isStarted : Start → Bool
  | started _ => true
  | _ => false

/-- The check of an account that was requested, if one was. -/
def requests (a : Int) : Start → List Call
  | refused inbox _ => [.checkMail a inbox]
  | started inbox => [.checkMail a inbox]
  | _ => []

end Start

/-- Trying to start a check of an account leads from one system to another, with the given outcome:
one question after the other is asked, until an answer stands in the way. -/
inductive Attempt (env : Surroundings ω) (a : Int) (s : System ω) : Start → System ω → Prop
  | offline {s₁ : System ω} : (backgroundDataEnabled env).run s = (.ok false, s₁) →
      Attempt env a s .offline s₁
  | notRunnable {s₁ : System ω} : (backgroundDataEnabled env).run s = (.ok true, s₁) →
      s₁.core.registry.isRunnable a = false → Attempt env a s .notRunnable s₁
  | noInbox {s₁ s₂ : System ω} : (backgroundDataEnabled env).run s = (.ok true, s₁) →
      s₁.core.registry.isRunnable a = true → (findInbox env a).run s₁ = (.ok none, s₂) →
      Attempt env a s .noInbox s₂
  | refused {s₁ s₂ s₃ : System ω} {inbox : Int} {e : Fault} :
      (backgroundDataEnabled env).run s = (.ok true, s₁) →
      s₁.core.registry.isRunnable a = true → (findInbox env a).run s₁ = (.ok (some inbox), s₂) →
      (env.call (.checkMail a inbox)).run s₂ = (.error e, s₃) →
      Attempt env a s (.refused inbox e)
        { s₃ with journal := .noted (.startFailed a e) :: s₃.journal }
  | started {s₁ s₂ s₃ : System ω} {inbox : Int} :
      (backgroundDataEnabled env).run s = (.ok true, s₁) →
      s₁.core.registry.isRunnable a = true → (findInbox env a).run s₁ = (.ok (some inbox), s₂) →
      (env.call (.checkMail a inbox)).run s₂ = (.ok (), s₃) → Attempt env a s (.started inbox) s₃

/-- Once an account has an inbox, all that is left is to have it checked. -/
theorem run_startCheck (env : Surroundings ω) (a : Int) (s : System ω) :
    (startCheck env a).run s =
      match (findInbox env a).run s with
      | (.ok none, s₁) => (.ok false, s₁)
      | (.ok (some inbox), s₁) => (requestCheck env a inbox).run s₁
      | (.error e, s₁) => (.error e, s₁) := by
  unfold startCheck
  rw [Act.run_bind]
  rcases (findInbox env a).run s with ⟨_ | _ | _, s₁⟩
  · rfl
  · rfl
  · rfl

theorem run_requestCheck (env : Surroundings ω) (a inbox : Int) (s : System ω) :
    (requestCheck env a inbox).run s =
      match (env.call (.checkMail a inbox)).run s with
      | (.ok (), s₁) => (.ok true, s₁)
      | (.error e, s₁) =>
        (.ok false, { s₁ with journal := .noted (.startFailed a e) :: s₁.journal }) := by
  unfold requestCheck
  rw [Act.run_tryCatch, Act.run_bind]
  rcases (env.call (.checkMail a inbox)).run s with ⟨_ | _, s₁⟩
  · rfl
  · rfl

/-- Unless background data is off, the report of the account decides. -/
theorem run_tryStart (env : Surroundings ω) (a : Int) (s : System ω) :
    (tryStart env a).run s =
      match (backgroundDataEnabled env).run s with
      | (.ok enabled, s₁) =>
        if enabled && s₁.core.registry.isRunnable a then (startCheck env a).run s₁
        else (.ok false, s₁)
      | (.error e, s₁) => (.error e, s₁) := by
  unfold tryStart
  rw [Act.run_bind]
  rcases (backgroundDataEnabled env).run s with ⟨_ | enabled, s₁⟩
  · rfl
  cases enabled with
  | false => rfl
  | true =>
    dsimp only
    rw [if_pos rfl, run_runIfDue, Bool.true_and]

/-- Trying to start a check comes to what was attempted. -/
theorem Attempt.run {env : Surroundings ω} {a : Int} {s s' : System ω} {o : Start}
    (h : Attempt env a s o s') : (tryStart env a).run s = (.ok o.isStarted, s') := by
  rw [run_tryStart]
  cases h with
  | offline hbackground =>
    rw [hbackground]
    rfl
  | notRunnable hbackground hrunnable =>
    rw [hbackground]
    dsimp only
    rw [hrunnable]
    rfl
  | noInbox hbackground hrunnable hinbox =>
    rw [hbackground]
    dsimp only
    rw [Bool.true_and, if_pos hrunnable, run_startCheck, hinbox]
    rfl
  | refused hbackground hrunnable hinbox hcheck =>
    rw [hbackground]
    dsimp only
    rw [Bool.true_and, if_pos hrunnable, run_startCheck, hinbox]
    dsimp only
    rw [run_requestCheck, hcheck]
    rfl
  | started hbackground hrunnable hinbox hcheck =>
    rw [hbackground]
    dsimp only
    rw [Bool.true_and, if_pos hrunnable, run_startCheck, hinbox]
    dsimp only
    rw [run_requestCheck, hcheck]
    rfl

/-- Unless it fails, it comes to one of the outcomes. -/
theorem exists_attempt {env : Surroundings ω} {a : Int} {s s' : System ω} {b : Bool}
    (hr : (tryStart env a).run s = (.ok b, s')) :
    ∃ o, Attempt env a s o s' ∧ o.isStarted = b := by
  rw [run_tryStart] at hr
  rcases hbackground : (backgroundDataEnabled env).run s with ⟨_ | enabled, s₁⟩
  · rw [hbackground] at hr
    cases hr
  rw [hbackground] at hr
  dsimp only at hr
  cases enabled with
  | false =>
    cases hr
    exact ⟨.offline, .offline hbackground, rfl⟩
  | true =>
    rw [Bool.true_and] at hr
    cases hrunnable : s₁.core.registry.isRunnable a with
    | false =>
      rw [hrunnable] at hr
      cases hr
      exact ⟨.notRunnable, .notRunnable hbackground hrunnable, rfl⟩
    | true =>
      rw [if_pos hrunnable, run_startCheck] at hr
      rcases hinbox : (findInbox env a).run s₁ with ⟨_ | _ | inbox, s₂⟩
      · rw [hinbox] at hr
        cases hr
      · rw [hinbox] at hr
        cases hr
        exact ⟨.noInbox, .noInbox hbackground hrunnable hinbox, rfl⟩
      rw [hinbox] at hr
      dsimp only at hr
      rw [run_requestCheck] at hr
      rcases hcheck : (env.call (.checkMail a inbox)).run s₂ with ⟨e | _, s₃⟩
      · rw [hcheck] at hr
        cases hr
        exact ⟨.refused inbox e, .refused hbackground hrunnable hinbox hcheck, rfl⟩
      · rw [hcheck] at hr
        cases hr
        exact ⟨.started inbox, .started hbackground hrunnable hinbox hcheck, rfl⟩

namespace Attempt

variable {env : Surroundings ω} (h : env.Aloof) {T : Int → Prop} (htime : env.KeepsTime T)
  {a : Int} {l : List Call} {R : Registry → Option Wake → Prop} {s s' : System ω} {o : Start}
include h htime

/-- What is asked first concerns neither the registry nor the wake timer, and is no check. -/
theorem idle (hattempt : Attempt env a s o s') (hs : Idle T l R s) :
    Idle T (o.requests a ++ l) R s' := by
  have hbackground : ∀ {b s₁}, (backgroundDataEnabled env).run s = (.ok b, s₁) →
      Idle T l R s₁ := by
    intro b s₁ hr
    have hs₁ := Act.Keeps.backgroundDataEnabled (h.call htime (c := .backgroundData) nofun) s hs
    rwa [hr] at hs₁
  have hinbox : ∀ {b s₁ inbox s₂}, (backgroundDataEnabled env).run s = (.ok b, s₁) →
      (findInbox env a).run s₁ = (.ok inbox, s₂) → Idle T l R s₂ := by
    intro b s₁ inbox s₂ hr₁ hr
    have hs₂ := Act.Keeps.findInbox (h.call htime (c := .findInbox a) nofun) s₁ (hbackground hr₁)
    rwa [hr] at hs₂
  have hcheck : ∀ {inbox s₂ r s₃}, Idle T l R s₂ →
      (env.call (.checkMail a inbox)).run s₂ = (r, s₃) →
      Idle T (.checkMail a inbox :: l) R s₃ := by
    intro inbox s₂ r s₃ hs₂ hr
    have hs₃ := h.checkMail htime a inbox s₂ hs₂
    rwa [hr] at hs₃
  cases hattempt with
  | offline hr => exact hbackground hr
  | notRunnable hr => exact hbackground hr
  | noInbox hr _ hr₂ => exact hinbox hr hr₂
  | refused hr _ hr₂ hr₃ =>
    have hs₃ := hcheck (hinbox hr hr₂) hr₃
    exact hs₃
  | started hr _ hr₂ hr₃ => exact hcheck (hinbox hr hr₂) hr₃

/-- The report that decides is the one that is tracked. -/
theorem registry_background {b : Bool} (hr : (backgroundDataEnabled env).run s = (.ok b, s'))
    (hs : Idle T l R s) : s'.core.registry = s.core.registry := by
  have hs' := Act.Keeps.backgroundDataEnabled (h.call htime (c := .backgroundData) nofun) s hs.self
  rw [hr] at hs'
  exact hs'.2.2.1

/-- Only the check of an account that may be checked is started. -/
theorem isRunnable {inbox : Int} (hattempt : Attempt env a s (.started inbox) s')
    (hs : Idle T l R s) : s.core.registry.isRunnable a = true := by
  cases hattempt with
  | started hr hrunnable =>
    rw [← registry_background h htime hr hs]
    exact hrunnable

end Attempt

/-! ## Handling a request -/

/-- The moments in the handling of a request to check an account. -/
structure Moments (ω : Type) where
  /-- What the request tells of earlier checks is filled in. -/
  caught : System ω
  /-- The watchdog is armed. -/
  opened : System ω
  /-- It was tried to start a check. -/
  tried : System ω
  /-- The account is loaded, and counts as checked. -/
  loaded : System ω
  /-- The registry is filled, and the wake timer is set. -/
  filled : System ω

/-- The moments in the handling of a request that is met in a certain system, as far as none of the
parts fails. -/
def moments (env : Surroundings ω) (a : Int) (saved : Option Snapshot) (s : System ω) :
    Moments ω :=
  let caught := ((catchUp env saved).run s).2
  let opened := ((openCheck env a).run caught).2
  let tried := ((tryStart env a).run opened).2
  let loaded := ((load env (.one a)).run tried).2
  let filled := ((load env .fillIfEmpty).run (loaded.checkedNow a none)).2
  { caught, opened, tried, loaded, filled }

theorem handle_request (env : Surroundings ω) (a : Int) (saved : Option Snapshot) :
    handle env (.checkRequested (some a) saved) = (do
      catchUp env saved
      openCheck env a
      let started ← tryStart env a
      if !started then
        let _ ← update env a none
        let _ ← rearm env) := by
  unfold handle handleCheck catchUp checkAccount
  cases saved <;> rfl

/-- A request that is handled without a fault ends with a check that was started, or with an account
that counts as checked and with the wake timer set. -/
theorem run_handle_request {env : Surroundings ω} {a : Int} {saved : Option Snapshot}
    {s s' : System ω} (hr : (handle env (.checkRequested (some a) saved)).run s = (.ok (), s')) :
    let t := moments env a saved s
    (catchUp env saved).run s = (.ok (), t.caught) ∧
    (openCheck env a).run t.caught = (.ok (), t.opened) ∧
    ((tryStart env a).run t.opened = (.ok true, s') ∨
      (tryStart env a).run t.opened = (.ok false, t.tried) ∧
      (load env (.one a)).run t.tried = (.ok (), t.loaded) ∧
      (load env .fillIfEmpty).run (t.loaded.checkedNow a none) = (.ok (), t.filled) ∧
      (point env (t.filled.core.registry.wakeAt t.filled.clock)).run t.filled = (.ok (), s')) := by
  rw [handle_request] at hr
  obtain ⟨⟨⟩, caught, hcaught, hr⟩ := Act.exists_of_run_bind hr
  obtain ⟨⟨⟩, opened, hopened, hr⟩ := Act.exists_of_run_bind hr
  obtain ⟨started, tried, htried, hr⟩ := Act.exists_of_run_bind hr
  unfold moments
  dsimp only
  rw [hcaught]
  dsimp only
  rw [hopened]
  dsimp only
  rw [htried]
  refine ⟨rfl, rfl, ?_⟩
  cases started with
  | true =>
    cases hr
    exact Or.inl rfl
  | false =>
    refine Or.inr ⟨rfl, ?_⟩
    obtain ⟨report, marked, hmarked, hr⟩ := Act.exists_of_run_bind hr
    rw [run_update] at hmarked
    rcases hloaded : (load env (.one a)).run tried with ⟨_ | ⟨⟩, loaded⟩
    · rw [hloaded] at hmarked
      cases hmarked
    rw [hloaded] at hmarked
    cases hmarked
    obtain ⟨selection, last, hrearm, hr⟩ := Act.exists_of_run_bind hr
    cases hr
    obtain ⟨⟨⟩, filled, hfilled, -⟩ := Act.exists_of_run_bind hrearm
    rw [run_rearm_of_load hfilled] at hrearm
    split at hrearm
    · obtain ⟨⟨⟩, last, hpoint, hlast⟩ := Act.exists_of_run_bind hrearm
      cases hlast
      dsimp only
      rw [hfilled]
      exact ⟨rfl, rfl, hpoint⟩
    · cases hrearm

/-- The row that the store has of an account, when it is asked for it, is live. -/
def Surroundings.Finds (env : Surroundings ω) (a : Int) (s : System ω) : Prop :=
  ∃ rows, ((rowsFor env (.one a)).run s).1 = .ok rows ∧ a ∈ liveIds rows

/-- The check was started: its inbox was asked for and its check requested once, the account may be
checked, nothing that is tracked has changed since, and the wake timer holds the watchdog. -/
structure Begun (env : Surroundings ω) (a : Int) (t : Moments ω) (s s' : System ω) : Prop where
  attempt : ∃ inbox, Attempt env a t.opened (.started inbox) s' ∧
    checks s'.journal = .checkMail a inbox :: checks s.journal
  runnable : ∃ report, t.caught.core.registry.find? a = some report ∧ 0 < report.interval ∧
    report.enabled = true
  registry : s'.core.registry = t.caught.core.registry
  timer : s'.timer = some (env.policy.watchdogWake a t.caught.clock)

/-- No check was started: none was requested, or one in vain.  The account counts as checked now if
it is tracked or the store has a live row of it, other reports are as they were, and the wake timer
is set for the registry.  Otherwise the account is not tracked, unless the registry was empty and
then filled. -/
structure Marked (env : Surroundings ω) (a : Int) (t : Moments ω) (s s' : System ω) : Prop where
  attempt : ∃ o, Attempt env a t.opened o t.tried ∧ o.isStarted = false ∧
    checks s'.journal = o.requests a ++ checks s.journal
  others : ∀ x ≠ a, ∀ report, t.caught.core.registry.find? x = some report →
    s'.core.registry.find? x = some report
  found : a ∈ t.caught.core.registry.ids ∨ env.Finds a t.tried →
    ∃ report, s'.core.registry.find? a = some report ∧ report.prevSync = t.loaded.clock
  lost : ¬(a ∈ t.caught.core.registry.ids ∨ env.Finds a t.tried) →
    a ∉ s'.core.registry.ids ∨ t.loaded.core.registry.ids = [] ∧
      ∃ report, s'.core.registry.find? a = some report ∧ report.prevSync = neverChecked
  timer : s'.timer = s'.core.registry.wakeAt t.filled.clock

/-- No check was started, and an account that counts as checked is not to be checked again at
once. -/
structure CountedOff (env : Surroundings ω) (a : Int) (t : Moments ω) (s s' : System ω) : Prop
    extends Marked env a t s s' where
  notAtOnce : a ∈ t.caught.core.registry.ids ∨ env.Finds a t.tried →
    s'.core.registry.pickNext t.filled.clock ≠ ⟨some a, dueNow⟩

/-- The registry is filled only if there was nothing to mark. -/
theorem System.eq_of_load_checkedNow {env : Surroundings ω} {a : Int} {s s' : System ω}
    (hids : s.core.registry.ids ≠ [])
    (hr : (load env .fillIfEmpty).run (s.checkedNow a none) = (.ok (), s')) :
    s' = s.checkedNow a none := by
  rw [← System.ids_checkedNow a none s] at hids
  rw [load_fillIfEmpty_of_ids env hids] at hr
  exact (Prod.mk.inj hr).2.symm

/-- An account that is not due is not selected to be checked at once. -/
theorem Registry.Proper.pickNext_ne_of_not_due {r : Registry} (h : r.Proper) {a now : Int}
    {report : Report} (hnow : 1 ≤ now) (hfind : r.find? a = some report)
    (hdue : report.isDue now = false) : r.pickNext now ≠ ⟨some a, dueNow⟩ := by
  intro hpick
  have hsame : ∀ other ∈ r.reports, ∀ wake, r.pickNext now = ⟨some other.account, wake⟩ →
      other = report ∧ wake = dueNow := by
    intro other hmem wake heq
    rw [hpick, Selection.mk.injEq] at heq
    obtain ⟨haccount, hwake⟩ := heq
    have hother := h.find?_of_mem hmem
    rw [← Option.some.inj haccount, hfind] at hother
    exact ⟨(Option.some.inj hother).symm, hwake.symm⟩
  rcases r.pickNext_cases now with ⟨other, hmem, hp, heq⟩ | ⟨-, other, hmem, hp, heq⟩ |
    ⟨-, other, hmem, hp, -, heq⟩ | ⟨-, heq⟩
  · rw [(hsame other hmem _ heq).1] at hp
    rw [Report.isDue_iff.2 (Or.inl hp)] at hdue
    cases hdue
  · rw [(hsame other hmem _ heq).1] at hp
    rw [Report.isDue_iff.2 (Or.inr (Or.inl hp))] at hdue
    cases hdue
  · -- The wake for a check that is pending does not lie in the past.
    have hwake := (hsame other hmem _ heq).2
    have hlate := (Report.isPending_iff.1 hp).2.2
    unfold dueNow at hwake
    omega
  · rw [hpick] at heq
    cases heq

namespace Surroundings.Aloof

variable {env : Surroundings ω} (h : env.Aloof) {T : Int → Prop} (htime : env.KeepsTime T)
  {l : List Call} {R : Registry → Option Wake → Prop} {a : Int} {s s' : System ω}
include h htime

/-- Once an account is loaded it is tracked if it was before, or if the store has a live row of
it. -/
theorem mem_ids_load_one (hs : Idle T l R s)
    (hr : (MailSchedule.load env (.one a)).run s = (.ok (), s')) :
    a ∈ s'.core.registry.ids ↔ a ∈ s.core.registry.ids ∨ env.Finds a s := by
  rcases load_cases (h.informs htime) (.one a) hs.self with ⟨hneeded, hload⟩ |
    ⟨hneeded, ⟨e, s₁, hload, -⟩ | ⟨rows, built, s₁, hrows, hload, -, hids, hs₁⟩⟩
  · rw [hload] at hr
    cases hr
    have hid : a ∈ s.core.registry.ids := by
      by_contra hid
      rw [LoadMode.isNeeded_one_iff.2 hid] at hneeded
      cases hneeded
    exact iff_of_true hid (Or.inl hid)
  · rw [hload] at hr
    cases hr
  · rw [hload] at hr
    cases hr
    show a ∈ (s₁.core.registry.addMissing built).ids ↔ _
    rw [Registry.mem_ids_addMissing, hids, hs₁.2.2.1]
    refine or_congr_right ⟨fun hlive => ⟨rows, hrows, hlive⟩, ?_⟩
    rintro ⟨rows', hrows', hlive⟩
    rw [hrows] at hrows'
    cases hrows'
    exact hlive

/-- Until a check is tried, the registry is caught up with and the watchdog is armed. -/
theorem opened {saved : Option Snapshot} (hs : Idle T l R s) {t : Moments ω}
    (hcaught : (MailSchedule.catchUp env saved).run s = (.ok (), t.caught))
    (hopened : (openCheck env a).run t.caught = (.ok (), t.opened)) :
    (s.core.registry.Proper → t.caught.core.registry.Proper) ∧
      Idle T l (fun r w => r = t.caught.core.registry ∧
        w = some (env.policy.watchdogWake a t.caught.clock)) t.opened := by
  have hidle := h.catchUp htime s.core.registry.Proper saved s ⟨hs.1, hs.2.1, id⟩
  rw [hcaught] at hidle
  dsimp only at hidle
  obtain ⟨hclock, hchecks, hproper⟩ := hidle
  refine ⟨hproper, ?_⟩
  rw [run_openCheck] at hopened
  dsimp only at hopened
  split at hopened
  · refine h.point htime (R := (· = _)) ?_ hopened
    exact ⟨hclock, hchecks, rfl⟩
  · cases hopened

variable {t : Moments ω} (hopened : Idle T (checks s.journal) (fun r w =>
  r = t.caught.core.registry ∧ w = some (env.policy.watchdogWake a t.caught.clock)) t.opened)
include hopened

/-- A check that is started changes nothing besides. -/
theorem started (htry : (tryStart env a).run t.opened = (.ok true, s')) : Begun env a t s s' := by
  obtain ⟨o, hattempt, ho⟩ := exists_attempt htry
  cases o with
  | started inbox =>
    have hidle := hattempt.idle h htime hopened
    have hrunnable := hattempt.isRunnable h htime hopened
    rw [hopened.2.2.1] at hrunnable
    obtain ⟨report, hfind, hrun⟩ := (Option.any_eq_true _ _).1 hrunnable
    unfold Report.isRunnable at hrun
    rw [Bool.and_eq_true, decide_eq_true_eq] at hrun
    exact {
      attempt := ⟨inbox, hattempt, hidle.2.1⟩
      runnable := ⟨report, hfind, hrun⟩
      registry := hidle.2.2.1
      timer := hidle.2.2.2 }
  | _ => cases ho

variable (htry : (tryStart env a).run t.opened = (.ok false, t.tried))
  (hload : (MailSchedule.load env (.one a)).run t.tried = (.ok (), t.loaded))
  (hfill : (MailSchedule.load env .fillIfEmpty).run (t.loaded.checkedNow a none) =
    (.ok (), t.filled))
  (hpoint : (MailSchedule.point env (t.filled.core.registry.wakeAt t.filled.clock)).run t.filled =
    (.ok (), s'))
include htry hload hfill

/-- An account that is found is recorded as checked, and nothing happens to the registry before the
wake timer is set. -/
theorem checked (hfound : a ∈ t.caught.core.registry.ids ∨ env.Finds a t.tried) :
    t.filled.clock = t.loaded.clock ∧ ∃ report : Report,
      t.filled.core.registry.find? a = some (report.checked t.loaded.clock none) := by
  obtain ⟨o, hattempt, -⟩ := exists_attempt htry
  have htried := hattempt.idle h htime hopened
  have hid := (h.mem_ids_load_one htime htried hload).2 (by rw [htried.2.2.1]; exact hfound)
  obtain ⟨report, hreport⟩ := Option.isSome_iff_exists.1 ((Registry.mem_ids_iff _ a).1 hid)
  rw [System.eq_of_load_checkedNow (List.ne_nil_of_mem hid) hfill]
  refine ⟨rfl, report, ?_⟩
  rw [System.find?_checkedNow, hreport]
  rfl

/-- If no check is started, at most one was requested in vain before the wake timer is set. -/
theorem filled : ∃ o, Attempt env a t.opened o t.tried ∧ o.isStarted = false ∧
    Idle T (o.requests a ++ checks s.journal)
      (fun r _ => t.caught.core.registry.Proper → r.Proper) t.filled ∧
    (t.loaded.checkedNow a none).core.registry.Extended t.filled.core.registry := by
  obtain ⟨o, hattempt, ho⟩ := exists_attempt htry
  have htried := hattempt.idle h htime hopened
  obtain ⟨-, hloaded⟩ := h.load htime (by exact nofun) htried hload
  rw [htried.2.2.1] at hloaded
  have hmarked : Idle T (o.requests a ++ checks s.journal)
      (fun r _ => t.caught.core.registry.Proper → r.Proper) (t.loaded.checkedNow a none) :=
    ⟨hloaded.1, hloaded.2.1, fun hproper =>
      (hloaded.2.2 hproper).modify a fun report => report.scheduleFrom_account _⟩
  obtain ⟨hextended, hfilled⟩ := h.load htime (by exact nofun) hmarked hfill
  exact ⟨o, hattempt, ho, ⟨hfilled.1, hfilled.2.1, fun hproper =>
    hfilled.2.2 (hmarked.2.2 hproper)⟩, hextended⟩

include hpoint

/-- If no check is started the account is marked before the wake timer is set. -/
theorem marked : Marked env a t s s' ∧ T t.loaded.clock ∧
    s'.core.registry = t.filled.core.registry ∧
    (t.caught.core.registry.Proper → s'.core.registry.Proper) := by
  obtain ⟨o, hattempt, ho, hfilled, hextended'⟩ := h.filled htime hopened htry hload hfill
  have htried := hattempt.idle h htime hopened
  have hcaught := htried.2.2.1
  have hmem := h.mem_ids_load_one htime htried hload
  obtain ⟨hextended, hloaded⟩ := h.load htime (by exact nofun) htried hload
  rw [hcaught] at hmem hextended hloaded
  obtain ⟨-, hrequested, hregistry, htimer⟩ :=
    h.point htime (R := (· = t.filled.core.registry)) ⟨hfilled.1, hfilled.2.1, rfl⟩ hpoint
  refine ⟨{
    attempt := ⟨o, hattempt, ho, hrequested⟩
    others := fun x hx report hreport => ?_
    found := fun hfound => ?_
    lost := fun hlost => ?_
    timer := by rw [hregistry]; exact htimer }, hloaded.1, hregistry, fun hproper => ?_⟩
  · rw [hregistry]
    refine hextended'.kept x report ?_
    show (t.loaded.core.registry.modify a _).find? x = _
    rw [Registry.find?_modify, if_neg hx]
    exact hextended.kept x report hreport
  · obtain ⟨-, report, hreport⟩ := h.checked htime hopened htry hload hfill hfound
    exact ⟨_, by rw [hregistry]; exact hreport, report.checked_prevSync _ _⟩
  · rw [← hmem] at hlost
    rw [hregistry]
    by_cases hids : t.loaded.core.registry.ids = []
    · cases hfind : t.filled.core.registry.find? a with
      | none => exact Or.inl ((Registry.find?_eq_none_iff _ a).1 hfind)
      | some report =>
        refine Or.inr ⟨hids, report, rfl, ?_⟩
        refine (hextended'.added a report hfind).resolve_left fun hold => hlost ?_
        have hid := Registry.mem_ids_of_mem (Registry.mem_of_find? hold)
        rwa [System.ids_checkedNow] at hid
    · left
      rw [System.eq_of_load_checkedNow hids hfill, System.ids_checkedNow]
      exact hlost
  · rw [hregistry]
    exact hfilled.2.2 hproper

end Surroundings.Aloof

/-- A request to check an account that is handled without a fault either begins the check or counts
the account as checked, and never both. -/
theorem check_request_either_or {env : Surroundings ω} (h : env.Aloof)
    (htime : env.KeepsTime (1 ≤ ·)) {a : Int} {saved : Option Snapshot} {s s' : System ω}
    (hclock : 1 ≤ s.clock) (hproper : s.core.registry.Proper)
    (hr : (handle env (.checkRequested (some a) saved)).run s = (.ok (), s')) :
    let t := moments env a saved s
    Xor (Begun env a t s s') (CountedOff env a t s s') := by
  intro t
  obtain ⟨hcaught, hopened, hend⟩ := run_handle_request hr
  obtain ⟨hproper', hidle⟩ :=
    h.opened htime (R := fun _ _ => True) ⟨hclock, rfl, trivial⟩ hcaught hopened
  rcases hend with htry | ⟨htry, hload, hfill, hpoint⟩
  · refine Or.inl ⟨h.started htime hidle htry, fun hcounted => ?_⟩
    obtain ⟨o, hattempt, ho, -⟩ := hcounted.attempt
    have hsame := hattempt.run
    rw [htry, ho] at hsame
    cases hsame
  · obtain ⟨hmarked, hloaded, hregistry, hlast⟩ :=
      h.marked htime hidle htry hload hfill hpoint
    refine Or.inr ⟨⟨hmarked, fun hfound => ?_⟩, fun hbegun => ?_⟩
    · obtain ⟨hnow, report, hreport⟩ := h.checked htime hidle htry hload hfill hfound
      rw [← hregistry] at hreport
      rw [hnow]
      exact (hlast (hproper' hproper)).pickNext_ne_of_not_due hloaded hreport
        (report.isDue_checked hloaded none)
    · obtain ⟨inbox, hattempt, -⟩ := hbegun.attempt
      have hsame := hattempt.run
      rw [htry] at hsame
      cases hsame

/-! ## Accounts that are listed late -/

namespace Rehearsal

theorem aloof_inMemory : inMemory.Aloof where
  staysOut := staysOut_surroundings {} 1
  requests c s := by
    show checks (((surroundings {} 1 0).during c).run s).2.journal = _
    rw [run_during]

/-- The first account is to be checked. -/
def firstRequested : Message := .checkRequested (some 1) none

/-- A poller that has just started begins the check. -/
theorem begun_freshPoller :
    ((handle inMemory firstRequested).run freshPoller).1 = .ok () ∧
      Begun inMemory 1 (moments inMemory 1 none freshPoller) freshPoller
        ((handle inMemory firstRequested).run freshPoller).2 := by
  have hok : ((handle inMemory firstRequested).run freshPoller).1 = .ok () := by decide +kernel
  have hstarted : ((tryStart inMemory 1).run (moments inMemory 1 none freshPoller).opened).1 =
      .ok true := by decide +kernel
  refine ⟨hok, ?_⟩
  rcases check_request_either_or aloof_inMemory (keepsTime_surroundings {} 1 (1 ≤ ·)) (a := 1)
    (show (1 : Int) ≤ 1000000 by decide) Registry.sound_empty.toProper (Prod.ext hok rfl) with
    ⟨hbegun, -⟩ | ⟨hcounted, -⟩
  · exact hbegun
  · obtain ⟨o, hattempt, ho, -⟩ := hcounted.attempt
    rw [hattempt.run, ho] at hstarted
    cases hstarted

/-- No account is listed when the poller catches up, and two accounts are listed when the wake timer
is set. -/
def listedLate : System (List (List Account.Draft)) :=
  { clock := 1000000, world := [[], twoAccounts.accounts] }

/-- No check is begun, and the account is tracked all the same without being marked. -/
theorem tracked_unmarked_listedLate :
    (fickle.Aloof ∧ fickle.KeepsTime (1 ≤ ·) ∧ 1 ≤ listedLate.clock ∧
      listedLate.core.registry.Proper ∧
      ((handle fickle firstRequested).run listedLate).1 = .ok ()) ∧
    ¬(Begun fickle 1 (moments fickle 1 none listedLate) listedLate
        ((handle fickle firstRequested).run listedLate).2 ∨
      ∀ report, ((handle fickle firstRequested).run listedLate).2.core.registry.find? 1 =
        some report → report.prevSync = listedLate.clock) := by
  refine ⟨⟨⟨fun _ s => .refl s, fun _ _ => rfl⟩, fun _ _ hs => hs, by decide,
    Registry.sound_empty.toProper, by decide +kernel⟩, ?_⟩
  have hnone : checks ((handle fickle firstRequested).run listedLate).2.journal = [] := by
    decide +kernel
  have hprev : (((handle fickle firstRequested).run listedLate).2.core.registry.find? 1).map
      (·.prevSync) = some 0 := by
    decide +kernel
  rintro (hbegun | hmarked)
  · obtain ⟨inbox, -, hrequested⟩ := hbegun.attempt
    rw [hnone] at hrequested
    cases hrequested
  · obtain ⟨report, hfind, hzero⟩ := Option.map_eq_some_iff.1 hprev
    rw [hmarked report hfind] at hzero
    exact absurd hzero (by decide)

end Rehearsal

end MailSchedule
