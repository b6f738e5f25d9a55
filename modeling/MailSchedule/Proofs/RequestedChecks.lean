import MailSchedule.Proofs.CheckAttempts
import MailSchedule.Proofs.Rebuilding
import MailSchedule.Proofs.SteadyStore

/-!
# Checks that are wanted at once

A check that is requested of an account should be started whenever nothing stands in its way: the
account is live, scheduled and its checks are switched on, it has an inbox, background data is on,
and nobody fails.

It is started if the account is tracked, and also if nothing is, for then all accounts are loaded
first.  An account that the store has gained since the others were loaded is not known when its
report is asked for.  It is loaded only in order to count as checked, though no check of it was
requested.  The watchdog is armed before all this, which fails if the number of the account is too
long to be written.

Results:

* `Surroundings.Admits`: nothing stands in the way of a check.
* `Registry.isRunnable_restore`, `Surroundings.Fixed.isRunnable_catchUp`: which accounts may be
  checked when a request has caught up.
* `Attempt.eq_of_admits`: what trying to start a check comes to then.
* `Surroundings.Aloof.request_tooLong`: no check is requested of an account whose number is too long.
* `requested_check_starts_iff`: when a requested check is started.
-/

namespace MailSchedule

variable {ω : Type}

/-! ## Accounts that may be checked -/

/-- Times that are filled in do not decide whether an account may be checked. -/
theorem Registry.isRunnable_restore (r : Registry) (pairs : List (Int × Int)) (id : Int) :
    (r.restore pairs).isRunnable id = r.isRunnable id := by
  have hfill : ∀ (report : Report) times, (report.fill times).isRunnable = report.isRunnable :=
    Report.fill_eq fun report time => by
      unfold Report.isRunnable
      rw [Report.scheduleFrom_interval, Report.scheduleFrom_enabled]
  unfold isRunnable
  rw [find?_of_entries (g := fun e => e.2.fill ((pairs.filter fun p => p.1 = e.1).map (·.2)))
    (entries_restore r pairs) id]
  cases r.find? id with
  | none => rfl
  | some report => exact hfill report _

/-- The snapshot of a request does not decide it either. -/
theorem isRunnable_catchUp (env : Surroundings ω) (saved : Option Snapshot) (id : Int)
    (s : System ω) : ((catchUp env saved).run s).2.core.registry.isRunnable id =
      ((load env .fillIfEmpty).run s).2.core.registry.isRunnable id := by
  cases saved with
  | none => rfl
  | some saved =>
    show ((restore env saved).run s).2.core.registry.isRunnable id = _
    unfold restore
    rw [Act.run_bind]
    rcases (load env .fillIfEmpty).run s with ⟨_ | _, s₁⟩
    · rfl
    · exact Registry.isRunnable_restore ..

/-! ## Nothing in the way -/

/-- In the worlds of a set nothing stands in the way of a check of an account: no call fails,
background data is on, and the account has an inbox. -/
structure Surroundings.Admits (env : Surroundings ω) (I : ω → Prop) (a inbox : Int) : Prop where
  during : ∀ c s, I s.world → ((env.during c).run s).1 = .ok ()
  background : ∀ w, I w → env.backgroundIn w = true
  inbox : ∀ w, I w → env.checker.inbox a w = some inbox

theorem eq_of_run_backgroundDataEnabled {env : Surroundings ω} {b : Bool} {s s' : System ω}
    (hr : (backgroundDataEnabled env).run s = (.ok b, s')) : b = env.backgroundIn s'.world := by
  unfold backgroundDataEnabled at hr
  unfold Surroundings.backgroundIn
  cases hknown : env.backgroundData with
  | none =>
    rw [hknown] at hr
    cases hr
    rfl
  | some enabled =>
    rw [hknown] at hr
    obtain ⟨_, s₁, -, hr⟩ := Act.exists_of_run_bind hr
    cases hr
    rfl

theorem eq_of_run_findInbox {env : Surroundings ω} {a : Int} {inbox : Option Int}
    {s s' : System ω} (hr : (findInbox env a).run s = (.ok inbox, s')) :
    inbox = env.checker.inbox a s'.world := by
  obtain ⟨_, s₁, -, hr⟩ := Act.exists_of_run_bind hr
  cases hr
  rfl

/-- Setting the wake timer, which comes last if it comes at all, requests no check and leaves the
registry alone. -/
theorem Surroundings.Aloof.lastly {env : Surroundings ω} (h : env.Aloof) {l : List Call}
    {w : Option Wake} {s s' : System ω} (hs : checks s.journal = l)
    (hlast : s' = s ∨ (MailSchedule.point env w).run s = (.ok (), s')) :
    checks s'.journal = l ∧ s'.core.registry = s.core.registry := by
  rcases hlast with rfl | hpoint
  · exact ⟨hs, rfl⟩
  · have hset := h.point (T := fun _ => True) (fun _ _ _ => trivial)
      (R := (· = s.core.registry)) ⟨trivial, hs, rfl⟩ hpoint
    exact ⟨hset.2.1, hset.2.2.1⟩

namespace Surroundings.Fixed

variable {env : Surroundings ω} {I : ω → Prop} {rows : List Account.Draft}
  {enabled : Text → Bool} {counted : Int → Bool} {withProtocol : Text → List Int}
  (h : env.Fixed I rows enabled counted withProtocol)
include h

/-- An account that may be checked as the store has it may be checked once a request has caught up,
if it is tracked or nothing is. -/
theorem isRunnable_load {d : Account.Draft} (hd : d ∈ rows) (hlive : d.isWellFormed = true)
    {s : System ω} (hs : I s.world) {report : Report}
    (hreport : s.core.registry.find? d.id = some report ∨
      s.core.registry.find? d.id = none ∧ d.report env.policy.polling enabled = .ok report)
    (hrunnable : report.isRunnable = true) :
    ((load env .fillIfEmpty).run s).2.core.registry.isRunnable d.id = true ↔
      s.core.registry.ids = [] ∨ d.id ∈ s.core.registry.ids := by
  by_cases hids : s.core.registry.ids = []
  · refine iff_of_true ?_ (Or.inl hids)
    have hnone : s.core.registry.find? d.id = none := by
      rw [Registry.find?_eq_none_iff, hids]
      exact List.not_mem_nil
    obtain ⟨built, hbuilt⟩ := h.supplies.build_rows
    obtain ⟨s₁, ⟨-, hregistry, -⟩, hr⟩ :=
      h.supplies.run_load (Or.inl rfl) hbuilt hs ((Registry.isEmpty_iff _).2 hids)
    have hpublished : (s₁.core.published .fillIfEmpty built).registry = built :=
      Core.registry_published_of_ids (by rw [hregistry]; exact hids) (Or.inl rfl) built
    have hnodup : (liveIds rows).Nodup := h.nodup.sublist (List.filter_sublist.map _)
    obtain ⟨-, -, hfound⟩ := PollingRules.build_spec hbuilt hnodup fun _ _ => List.not_mem_nil
    obtain ⟨report', hreport', hfind⟩ := hfound d hd hlive
    rw [hnone] at hreport
    obtain ⟨-, hsame⟩ := hreport.resolve_left nofun
    rw [hreport'] at hsame
    cases hsame
    rw [hr]
    dsimp only
    unfold Registry.isRunnable
    rw [hpublished, hfind]
    exact hrunnable
  · rw [load_fillIfEmpty_of_ids env hids, or_iff_right hids]
    unfold Registry.isRunnable
    rcases hreport with hfind | ⟨hnone, -⟩
    · rw [hfind]
      exact iff_of_true hrunnable (Registry.mem_ids_of_mem (Registry.mem_of_find? hfind))
    · rw [hnone]
      exact iff_of_false nofun ((Registry.find?_eq_none_iff _ _).1 hnone)

/-! ## Requests that are handled without a fault -/

/-- What happens during a call concerns neither the accounts of the store nor the registry. -/
theorem call_keeps (c : Call) (r : Registry) :
    (env.call c).Keeps fun s => I s.world ∧ s.core.registry = r :=
  fun s hs => ⟨h.during c _ hs.1, (h.staysOut.call c s).registry.trans hs.2⟩

theorem load_yields :
    (load env .fillIfEmpty).Yields (fun s => I s.world) fun _ s => I s.world := by
  intro s hs
  by_cases hids : s.core.registry.ids = []
  · obtain ⟨s', hr, hs'⟩ := h.load_all (Or.inl rfl) hs ((Registry.isEmpty_iff _).2 hids)
    exact ⟨(), s', hr, hs'.1⟩
  · exact ⟨(), s, load_fillIfEmpty_of_ids env hids, hs⟩

theorem catchUp_yields (saved : Option Snapshot) :
    (catchUp env saved).Yields (fun s => I s.world) fun _ s => I s.world := by
  cases saved with
  | none => exact h.load_yields
  | some saved => exact h.load_yields.bind fun _ s hs => ⟨(), _, rfl, hs⟩

variable {a inbox : Int} (hadmits : env.Admits I a inbox)
include hadmits

/-- No call fails. -/
theorem call_yields (c : Call) :
    (env.call c).Yields (fun s => I s.world) fun _ s => I s.world := by
  intro s hs
  obtain ⟨hs', -⟩ := h.call_keeps c s.core.registry s ⟨hs, rfl⟩
  exact ⟨(), _, Prod.ext (hadmits.during c _ hs) rfl, hs'⟩

theorem point_yields (w : Option Wake) :
    (point env w).Yields (fun s => I s.world) fun _ s => I s.world := by
  cases w with
  | none => exact (h.call_yields hadmits .cancelTimer).bind fun _ s hs => ⟨(), _, rfl, hs⟩
  | some w =>
    exact (h.call_yields hadmits (.arm w.time w.payload)).bind fun _ s hs => ⟨(), _, rfl, hs⟩

theorem tryStart_yields : (tryStart env a).Yields (fun s => I s.world) fun _ s => I s.world := by
  have hcall := h.call_yields hadmits
  have hbackground : (backgroundDataEnabled env).Yields (fun s => I s.world)
      fun _ s => I s.world := by
    unfold backgroundDataEnabled
    cases env.backgroundData with
    | none => exact .pure fun _ hs => hs
    | some enabled => exact (hcall .backgroundData).bind fun _ s hs => ⟨_, s, rfl, hs⟩
  have hinbox : (findInbox env a).Yields (fun s => I s.world) fun _ s => I s.world :=
    (hcall (.findInbox a)).bind fun _ s hs => ⟨_, s, rfl, hs⟩
  have hstart : (startCheck env a).Yields (fun s => I s.world) fun _ s => I s.world := by
    refine hinbox.bind fun found => ?_
    cases found with
    | none => exact .pure fun _ hs => hs
    | some mailbox =>
      have hcheck : (env.call (.checkMail a mailbox)).Keeps fun s => I s.world :=
        (hcall (.checkMail a mailbox)).leads
      exact Act.Yields.tryCatch (hcheck.bind fun _ => .pure true) fun _ s hs => ⟨_, _, rfl, hs⟩
  refine hbackground.bind fun enabled => .ite (fun _ s hs => ?_) fun _ => .pure fun _ hs => hs
  rw [run_runIfDue]
  split
  · exact hstart s hs
  · exact ⟨false, s, rfl, hs⟩

theorem openCheck_yields (hid : Json.Readable a) :
    (openCheck env a).Yields (fun s => I s.world) fun _ s => I s.world := by
  intro s hs
  rw [run_openCheck, if_pos hid]
  exact h.point_yields hadmits _ _ hs

/-- A check is tried in a world of the set, and so is what follows. -/
theorem moments_world (hid : Json.Readable a) (saved : Option Snapshot) {s : System ω}
    (hs : I s.world) : I (moments env a saved s).opened.world ∧
      I (moments env a saved s).tried.world := by
  have hcaught := (h.catchUp_yields saved).leads s hs
  have hopened := (h.openCheck_yields hadmits hid).leads _ hcaught
  exact ⟨hopened, (h.tryStart_yields hadmits).leads _ hopened⟩

/-- A request is handled without a fault, unless the wake cannot be written that is to be set in the
end. -/
theorem run_request (hid : Json.Readable a) (saved : Option Snapshot) {s : System ω}
    (hs : I s.world) :
    let t := moments env a saved s
    ∃ r s', (handle env (.checkRequested (some a) saved)).run s = (r, s') ∧
    (catchUp env saved).run s = (.ok (), t.caught) ∧
    (openCheck env a).run t.caught = (.ok (), t.opened) ∧
    ((tryStart env a).run t.opened = (.ok true, s') ∨
      (tryStart env a).run t.opened = (.ok false, t.tried) ∧
      (load env (.one a)).run t.tried = (.ok (), t.loaded) ∧
      (load env .fillIfEmpty).run (t.loaded.checkedNow a none) = (.ok (), t.filled) ∧
      (s' = t.filled ∨
        (point env (t.filled.core.registry.wakeAt t.filled.clock)).run t.filled = (.ok (), s'))) := by
  obtain ⟨_, caught, hcaught, hs₁⟩ := h.catchUp_yields saved s hs
  obtain ⟨_, opened, hopened, hs₂⟩ := h.openCheck_yields hadmits hid caught hs₁
  obtain ⟨started, tried, htried, hs₃⟩ := h.tryStart_yields hadmits opened hs₂
  have hstart : ∀ r s', Act.run (if !started then do
      let _ ← MailSchedule.update env a none
      let _ ← rearm env
    else return ()) tried = (r, s') →
      (handle env (.checkRequested (some a) saved)).run s = (r, s') := by
    intro r s' hr
    rw [handle_request, Act.run_bind, hcaught]
    dsimp only
    rw [Act.run_bind, hopened]
    dsimp only
    rw [Act.run_bind, htried]
    exact hr
  unfold moments
  dsimp only
  rw [hcaught]
  dsimp only
  rw [hopened]
  dsimp only
  rw [htried]
  cases started with
  | true => exact ⟨.ok (), tried, hstart _ _ rfl, rfl, rfl, Or.inl rfl⟩
  | false =>
    dsimp only
    obtain ⟨report, marked, hmarked, hs₄, -⟩ := h.update a none hs₃
    obtain ⟨_, filled, hfilled, hs₅⟩ := h.load_yields marked hs₄
    rw [run_update] at hmarked
    rcases hloaded : (load env (.one a)).run tried with ⟨_ | _, loaded⟩
    · rw [hloaded] at hmarked
      cases hmarked
    rw [hloaded] at hmarked
    cases hmarked
    dsimp only
    rw [hfilled]
    have hupdated : Act.run (do
        let _ ← MailSchedule.update env a none
        let _ ← rearm env) tried =
          Act.run (do let _ ← rearm env) (loaded.checkedNow a none) := by
      rw [Act.run_bind, run_update, hloaded]
    have hrearm := run_rearm_of_load hfilled
    by_cases hwritable : filled.core.registry.Writable
    · obtain ⟨_, s', hpoint, -⟩ :=
        h.point_yields hadmits (filled.core.registry.wakeAt filled.clock) filled hs₅
      rw [if_pos hwritable, Act.run_bind, hpoint] at hrearm
      refine ⟨.ok (), s', hstart _ _ (hupdated.trans ?_), rfl, rfl,
        Or.inr ⟨rfl, rfl, rfl, Or.inr hpoint⟩⟩
      rw [Act.run_bind, hrearm]
      rfl
    · rw [if_neg hwritable] at hrearm
      refine ⟨.error Snapshot.tooLong, filled, hstart _ _ (hupdated.trans ?_), rfl, rfl,
        Or.inr ⟨rfl, rfl, rfl, Or.inl rfl⟩⟩
      rw [Act.run_bind, hrearm]

/-- Only the registry can stand in the way of a check. -/
theorem attempt_eq {s s' : System ω} {o : Start} (hattempt : Attempt env a s o s')
    (hs : I s.world) :
    o = if s.core.registry.isRunnable a then .started inbox else .notRunnable := by
  have hbackground : ∀ {b s₁}, (backgroundDataEnabled env).run s = (.ok b, s₁) →
      b = true ∧ I s₁.world ∧ s₁.core.registry = s.core.registry := by
    intro b s₁ hr
    have hs₁ := Act.Keeps.backgroundDataEnabled (h.call_keeps .backgroundData s.core.registry) s
      ⟨hs, rfl⟩
    rw [hr] at hs₁
    exact ⟨(eq_of_run_backgroundDataEnabled hr).trans (hadmits.background _ hs₁.1), hs₁⟩
  have hinbox : ∀ {found s₁ s₂}, I s₁.world → (findInbox env a).run s₁ = (.ok found, s₂) →
      found = some inbox ∧ I s₂.world := by
    intro found s₁ s₂ hs₁ hr
    have hs₂ := Act.Keeps.findInbox (h.call_keeps (.findInbox a) s₁.core.registry) s₁ ⟨hs₁, rfl⟩
    rw [hr] at hs₂
    exact ⟨(eq_of_run_findInbox hr).trans (hadmits.inbox _ hs₂.1), hs₂.1⟩
  cases hattempt with
  | offline hr => cases (hbackground hr).1
  | notRunnable hr hrunnable =>
    rw [← (hbackground hr).2.2, if_neg (by rw [hrunnable]; exact nofun)]
  | noInbox hr _ hr₂ => cases (hinbox (hbackground hr).2.1 hr₂).1
  | refused hr _ hr₂ hr₃ =>
    obtain ⟨_, _, hr', -⟩ := h.call_yields hadmits _ _ (hinbox (hbackground hr).2.1 hr₂).2
    rw [hr₃] at hr'
    cases hr'
  | started hr hrunnable hr₂ =>
    cases (hinbox (hbackground hr).2.1 hr₂).1
    rw [← (hbackground hr).2.2, if_pos hrunnable]

omit hadmits in
/-- What surrounds the handling of a message does not matter. -/
theorem begun (m : Message) {s : System ω} (hs : I s.world) :
    I (s.begun env m).world ∧ (s.begun env m).core.registry = s.core.registry := by
  have hreconcile : (reconcile env).Keeps
      fun s₁ => I s₁.world ∧ s₁.core.registry = s.core.registry :=
    .ite ((h.call_keeps .reconcile _).tryCatch fun _ _ hs₁ => hs₁) (.pure _)
  exact hreconcile s ⟨hs, rfl⟩

omit hadmits in
/-- When a check is tried its account may be checked, if it was tracked before or nothing was. -/
theorem isRunnable_opened {d : Account.Draft} (hd : d ∈ rows) (hlive : d.isWellFormed = true)
    {s : System ω} (hs : I s.world) {report : Report}
    (hreport : s.core.registry.find? d.id = some report ∨
      s.core.registry.find? d.id = none ∧ d.report env.policy.polling enabled = .ok report)
    (hscheduled : 0 < report.interval) (henabled : report.enabled = true)
    (saved : Option Snapshot)
    (hopened : (moments env d.id saved s).opened.core.registry =
      (moments env d.id saved s).caught.core.registry) :
    (moments env d.id saved s).opened.core.registry.isRunnable d.id = true ↔
      s.core.registry.ids = [] ∨ d.id ∈ s.core.registry.ids := by
  have hrunnable : report.isRunnable = true := by
    unfold Report.isRunnable
    rw [Bool.and_eq_true, decide_eq_true_eq]
    exact ⟨hscheduled, henabled⟩
  rw [← h.isRunnable_load hd hlive hs hreport hrunnable, ← isRunnable_catchUp env saved, hopened]
  exact Iff.rfl

omit hadmits in
/-- The row of an account that the store has is found when it is asked for. -/
theorem finds {d : Account.Draft} (hd : d ∈ rows) (hlive : d.isWellFormed = true) {s : System ω}
    (hs : I s.world) : env.Finds d.id s := by
  have hrow : (rowsFor env (.one d.id)).Gives (Tracks I fun _ => True)
      (rows.find? (·.id = d.id)).toList :=
    (h.call (c := .getAccount d.id) rfl _).bind
      ((Tracks.gives_answer (h.get d.id) _).bind (.pure _))
  obtain ⟨s', hr, -⟩ := hrow.run ⟨hs, trivial⟩
  refine ⟨_, congrArg Prod.fst hr, ?_⟩
  rw [mem_liveIds_find? h.nodup]
  exact ⟨rfl, List.mem_map_of_mem (List.mem_filter.2 ⟨hd, hlive⟩)⟩

/-- What a request comes to if the number of its account can be written: the check is started if the
account may be checked, and otherwise the account counts as checked when it was loaded. -/
theorem request_outcome (haloof : env.Aloof) (hid : Json.Readable a)
    (hfinds : ∀ {s : System ω}, I s.world → env.Finds a s) (saved : Option Snapshot)
    {s : System ω} (hs : I s.world) :
    let t := moments env a saved s
    let after := ((MailSchedule.handle env (.checkRequested (some a) saved)).run s).2
    t.opened.core.registry = t.caught.core.registry ∧
      if t.opened.core.registry.isRunnable a then
        checks after.journal = .checkMail a inbox :: checks s.journal ∧
          after.timer = some (env.policy.watchdogWake a t.caught.clock) ∧
          after.core.registry = t.caught.core.registry
      else checks after.journal = checks s.journal ∧
        ∃ report, after.core.registry.find? a = some report ∧
          report.prevSync = t.loaded.clock := by
  intro t after
  have htime : env.KeepsTime fun _ => True := fun _ _ _ => trivial
  obtain ⟨r, s', hr, hcaught, hopened, hend⟩ := h.run_request hadmits hid saved hs
  obtain ⟨hopenedWorld, htriedWorld⟩ := h.moments_world hadmits hid saved hs
  have hstill : Idle (fun _ => True) (checks s.journal) (fun _ _ => True) s :=
    ⟨trivial, rfl, trivial⟩
  obtain ⟨-, hidle⟩ := haloof.opened htime hstill hcaught hopened
  have hafter : after = s' := congrArg Prod.snd hr
  have ho : ∀ {o s₁}, Attempt env a t.opened o s₁ →
      o = if t.opened.core.registry.isRunnable a then .started inbox else .notRunnable :=
    fun hattempt => h.attempt_eq hadmits hattempt hopenedWorld
  refine ⟨hidle.2.2.1, ?_⟩
  rw [hafter]
  by_cases hrunnable : t.opened.core.registry.isRunnable a = true
  · rw [if_pos hrunnable] at ho ⊢
    rcases hend with htry | ⟨htry, -⟩
    · have hstarted := haloof.started htime hidle htry
      obtain ⟨inbox', hattempt, hrequested⟩ := hstarted.attempt
      cases ho hattempt
      exact ⟨hrequested, hstarted.timer, hstarted.registry⟩
    · obtain ⟨o, hattempt, hnot⟩ := exists_attempt htry
      cases ho hattempt
      cases hnot
  · rw [if_neg hrunnable] at ho ⊢
    rcases hend with htry | ⟨htry, hload, hfill, hlast⟩
    · obtain ⟨o, hattempt, hstarted⟩ := exists_attempt htry
      cases ho hattempt
      cases hstarted
    · obtain ⟨o, hattempt, -, hfilled, -⟩ := haloof.filled htime hidle htry hload hfill
      cases ho hattempt
      obtain ⟨hnone, hregistry⟩ := haloof.lastly hfilled.2.1 hlast
      obtain ⟨-, report, hfind⟩ := haloof.checked htime hidle htry hload hfill
        (Or.inr (hfinds htriedWorld))
      exact ⟨hnone, _, by rw [hregistry]; exact hfind, report.checked_prevSync _ _⟩

end Surroundings.Fixed

/-- A check of an account whose number is too long to be written is not requested. -/
theorem Surroundings.Aloof.request_tooLong {env : Surroundings ω} (h : env.Aloof)
    {T : Int → Prop} (htime : env.KeepsTime T) {l : List Call} {a : Int} (hid : ¬Json.Readable a)
    (saved : Option Snapshot) : (handle env (.checkRequested (some a) saved)).Keeps
      (Idle T l fun r _ => False → r.Proper) := by
  rw [handle_request]
  refine (h.catchUp htime False saved).bind fun _ s hs => ?_
  rw [Act.run_bind, run_openCheck, if_neg hid]
  exact hs

/-- What surrounds the handling of a message requests no check. -/
theorem process_checks (env : Surroundings ω) (m : Message) (s : System ω) :
    ∃ j, ((process env m).run s).2 = { ((handle env m).run (s.begun env m)).2 with journal := j } ∧
      checks j = checks ((handle env m).run (s.begun env m)).2.journal := by
  rw [run_process]
  rcases (handle env m).run (s.begun env m) with ⟨_ | _, s'⟩ <;> exact ⟨_, rfl, rfl⟩

/-! ## The result -/

/-- If nothing stands in its way, a check that is requested is started, once and with its watchdog
armed, and nothing counts as checked, exactly if its account is tracked before or nothing is, and its
number can be written.  If another account is tracked and this one is not, no check is requested, and
the account counts as checked now. -/
theorem requested_check_starts_iff {env : Surroundings ω} {I : ω → Prop}
    {rows : List Account.Draft} {enabled : Text → Bool} {counted : Int → Bool}
    {withProtocol : Text → List Int} (h : env.Fixed I rows enabled counted withProtocol)
    (haloof : env.Aloof) {d : Account.Draft} (hd : d ∈ rows) (hlive : d.isWellFormed = true)
    {inbox : Int} (hadmits : env.Admits I d.id inbox) {s : System ω} (hs : I s.world)
    {report : Report} (hreport : s.core.registry.find? d.id = some report ∨
      s.core.registry.find? d.id = none ∧ d.report env.policy.polling enabled = .ok report)
    (hscheduled : 0 < report.interval) (henabled : report.enabled = true)
    (saved : Option Snapshot) :
    let m := Message.checkRequested (some d.id) saved
    let t := moments env d.id saved (s.begun env m)
    let after := ((process env m).run s).2
    ((checks after.journal = .checkMail d.id inbox :: checks s.journal ∧
        after.timer = some (env.policy.watchdogWake d.id t.caught.clock) ∧
        after.core.registry = t.caught.core.registry) ↔
      Json.Readable d.id ∧ (s.core.registry.ids = [] ∨ d.id ∈ s.core.registry.ids)) ∧
    (¬(s.core.registry.ids = [] ∨ d.id ∈ s.core.registry.ids) →
      checks after.journal = checks s.journal ∧
        (Json.Readable d.id → ∃ report, after.core.registry.find? d.id = some report ∧
          report.prevSync = t.loaded.clock)) := by
  intro m t after
  have htime : env.KeepsTime fun _ => True := fun _ _ _ => trivial
  obtain ⟨hworld, hregistry⟩ := h.begun m hs
  have hbegun : Idle (fun _ => True) (checks s.journal) (fun _ _ => True) (s.begun env m) :=
    haloof.begun htime m ⟨trivial, rfl, trivial⟩
  obtain ⟨j, hafter, hj⟩ : ∃ j, after = { ((handle env m).run (s.begun env m)).2 with journal := j } ∧
      checks j = checks ((handle env m).run (s.begun env m)).2.journal := process_checks env m s
  rw [hafter]
  dsimp only
  rw [hj]
  have hunrequested : checks ((handle env m).run (s.begun env m)).2.journal = checks s.journal →
      checks ((handle env m).run (s.begun env m)).2.journal ≠
        .checkMail d.id inbox :: checks s.journal := by
    intro hnone hstarted
    exact List.cons_ne_self _ _ (hstarted.symm.trans hnone)
  by_cases hid : Json.Readable d.id
  · obtain ⟨hopened, houtcome⟩ :=
      h.request_outcome hadmits haloof hid (h.finds hd hlive) saved hworld
    rw [← hregistry] at hreport ⊢
    rw [and_iff_right hid, ← h.isRunnable_opened hd hlive hworld hreport hscheduled henabled saved
      hopened]
    rw [hbegun.2.1] at houtcome
    split at houtcome
    · rename_i hrunnable
      exact ⟨iff_of_true houtcome hrunnable, fun hnot => absurd hrunnable hnot⟩
    · rename_i hrunnable
      exact ⟨iff_of_false (fun hstarted => hunrequested houtcome.1 hstarted.1) hrunnable,
        fun _ => ⟨houtcome.1, fun _ => houtcome.2⟩⟩
  · obtain ⟨-, hnone, -⟩ := haloof.request_tooLong htime hid saved (s.begun env m)
      ⟨trivial, hbegun.2.1, nofun⟩
    exact ⟨iff_of_false (fun hstarted => hunrequested hnone hstarted.1) fun hboth => hid hboth.1,
      fun _ => ⟨hnone, fun hread => absurd hread hid⟩⟩

/-! ## An account that the store has gained -/

namespace Rehearsal

/-- Worlds with two accounts, in which nothing fails and every account has the usual inbox. -/
def Undisturbed (w : World) : Prop := OfTwoAccounts w ∧ w.inboxes = []

/-- Inboxes are no matter of the source. -/
theorem inboxes_ofSource {α : Type} (ofRoster : Roster → α × Roster) (ofStore : Store.Act α)
    {w : World} (hw : w.inboxes = []) : (ofSource ofRoster ofStore w).2.inboxes = [] := by
  unfold ofSource
  split
  · exact hw
  · exact hw

theorem respects_inboxes : inMemory.Respects fun s => s.world.inboxes = [] := by
  have hanswer : ∀ {α : Type} (reply : Reply World α),
      (∀ w, w.inboxes = [] → (reply w).2.inboxes = []) →
      (answer reply).Keeps fun s => s.world.inboxes = [] :=
    fun reply hreply => .answer reply (fun _ _ hs => hs) fun s hs => hreply s.world hs
  have hasked : ∀ {α : Type} (ofRoster : Roster → α) (ofStore : Store.Act α) (w : World),
      w.inboxes = [] → (askSource ofRoster ofStore w).2.inboxes = [] :=
    fun ofRoster ofStore w hw => inboxes_ofSource (fun r => (ofRoster r, r)) ofStore hw
  exact {
    record := fun _ _ hs => hs
    during := fun c s hs => by
      show (((surroundings {} 1 0).during c).run s).2.world.inboxes = []
      rw [run_during]
      exact hs
    list := hanswer _ (hasked _ _)
    get := fun _ => hanswer _ (hasked _ _)
    isSyncEnabled := fun _ => hanswer _ (hasked _ _)
    count := fun _ => hanswer _ (hasked _ _)
    resetCount := fun _ => hanswer _ fun w hw => inboxes_ofSource _ _ hw
    idsWithProtocol := fun _ => hanswer _ (hasked _ _)
    delete := fun id => hanswer _ fun w hw => by
      show (if w.deleteRemoves = true then _ else (Except.ok (), w)).2.inboxes = []
      split
      · exact inboxes_ofSource (fun r => ((r.find? id).isSome, r.remove id)) (Store.delete id) hw
      · exact hw }

theorem fixed_undisturbed : inMemory.Fixed Undisturbed twoAccounts.accounts (fun _ => true)
    (fun id => (twoAccounts.find? id).isSome) twoAccounts.idsWithProtocol :=
  fixed_inMemory.and respects_inboxes

theorem admits_undisturbed (a : Int) : inMemory.Admits Undisturbed a usualInbox where
  during c s hs := by
    show (((surroundings {} 1 0).during c).run s).1 = .ok ()
    rw [run_during, hs.1.failures]
    rfl
  background _ _ := rfl
  inbox w hw := by
    show (w.inboxes.lookup a).getD (some usualInbox) = some usualInbox
    rw [hw.2]
    rfl

/-- The second account. -/
def secondRow : Account.Draft :=
  ⟨2, some "b@example.org", some 3, some 4, some 60, some 0, some "imap"⟩

/-- The second account is to be checked. -/
def secondRequested : Message := .checkRequested (some 2) none

/-- Both accounts are loaded, and then the second one is checked. -/
theorem requested_check_starts_freshPoller :
    secondRow.report inMemory.policy.polling (fun _ => true) = .ok (.fresh 2 60 true false) ∧
      checks ((process inMemory secondRequested).run freshPoller).2.journal =
        [.checkMail 2 usualInbox] := by
  have hreport : secondRow.report inMemory.policy.polling (fun _ => true) =
      .ok (.fresh 2 60 true false) := by decide +kernel
  obtain ⟨hiff, -⟩ := requested_check_starts_iff fixed_undisturbed aloof_inMemory (d := secondRow)
    (by decide +kernel) (by decide +kernel) (admits_undisturbed 2) (s := freshPoller)
    ⟨ofTwoAccounts_twoAccountsWorld, rfl⟩ (Or.inr ⟨rfl, hreport⟩) (by decide) rfl none
  exact ⟨hreport, (hiff.2 ⟨by decide +kernel, Or.inl rfl⟩).1⟩

/-- The poller has loaded one account, and then the store gains another one. -/
def gainedPoller : System World :=
  Occurrence.course inMemory
    { clock := 1000000
      world := { twoAccountsWorld with source := .roster { accounts := twoAccounts.accounts.take 1 } } }
    [.submit (.checkRequested none none), .next, .elapse 1000000 twoAccountsWorld]

/-- The new account may be checked and nothing stands in the way.  All the same no check is
requested, and the account counts as checked. -/
theorem requested_check_forgotten_gainedPoller :
    inMemory.Fixed Undisturbed twoAccounts.accounts (fun _ => true)
      (fun id => (twoAccounts.find? id).isSome) twoAccounts.idsWithProtocol ∧
    inMemory.Aloof ∧ inMemory.Admits Undisturbed 2 usualInbox ∧
    (secondRow ∈ twoAccounts.accounts ∧ secondRow.isWellFormed = true ∧
      Undisturbed gainedPoller.world ∧ gainedPoller.core.registry.find? 2 = none ∧
      secondRow.report inMemory.policy.polling (fun _ => true) = .ok (.fresh 2 60 true false)) ∧
    checks gainedPoller.journal = [] ∧
    checks ((process inMemory secondRequested).run gainedPoller).2.journal = [] ∧
    (((process inMemory secondRequested).run gainedPoller).2.core.registry.find? 2).map
      (·.prevSync) = some 1000000 := by
  refine ⟨fixed_undisturbed, aloof_inMemory, admits_undisturbed 2, ⟨by decide +kernel,
    by decide +kernel, ⟨ofTwoAccounts_twoAccountsWorld, rfl⟩, by decide +kernel,
    by decide +kernel⟩, by decide +kernel, by decide +kernel, by decide +kernel⟩

end Rehearsal

end MailSchedule
