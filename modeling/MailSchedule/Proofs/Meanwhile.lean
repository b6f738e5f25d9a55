import MailSchedule.Proofs.Rebuilding
import MailSchedule.Proofs.Unfailing

/-!
# Checks that are recorded meanwhile

While the account store is being asked on behalf of one operation, other checks may be recorded: by
whoever uses the poller from elsewhere, and for that the store may have to be asked again, with yet
other checks recorded meanwhile.  None of them is lost when the operation publishes what it built.
Filling the registry leaves their reports as they are.  Rebuilding it takes over the times that they
have left, not those with which it began.

What was recorded is told by a diary in the world, to which every recording adds what it was
answered.

Results:

* `Act.Interlude`: what may happen during a call.
* `Since`: what holds of a poller since an operation began.
* `Act.Interlude.keeps_since`: it holds after whatever happens during a call.
* `recorded_meanwhile_is_kept`: what has become of the checks when the operation has ended.
-/

namespace MailSchedule

variable {ω α : Type}

/-! ## A diary of what was recorded -/

/-- A check that was recorded: the account, and the report that was answered, if there was one. -/
structure Recording where
  account : Int
  report : Option Report
  deriving DecidableEq, Repr

/-- The report that was answered last for an account. -/
def lastReport (us : List Recording) (id : Int) : Option Report :=
  us.reverse.findSome? fun u => if u.account = id then u.report else none

theorem lastReport_concat (us : List Recording) (u : Recording) (id : Int) :
    lastReport (us ++ [u]) id =
      if u.account = id then u.report.or (lastReport us id) else lastReport us id := by
  unfold lastReport
  rw [List.reverse_concat, List.findSome?_cons]
  by_cases hid : u.account = id
  · rw [if_pos hid, if_pos hid]
    cases u.report <;> rfl
  · rw [if_neg hid, if_neg hid]

/-- For an account that was answered a report there is a last one. -/
theorem exists_lastReport {us : List Recording} {u : Recording} (hu : u ∈ us)
    (hreport : u.report.isSome) : ∃ report, lastReport us u.account = some report := by
  refine Option.isSome_iff_exists.1 (List.findSome?_isSome_iff.2 ⟨u, List.mem_reverse.2 hu, ?_⟩)
  rw [if_pos rfl]
  exact hreport

/-! ## What may happen during a call -/

/-- Neither the accounts tracked, nor what is kept of earlier registries, nor the diary are
concerned, and readings of the clock stay positive. -/
structure Unconcerned (diary : ω → List Recording) (s s' : System ω) : Prop where
  registry : s'.core.registry = s.core.registry
  keepsakes : s'.core.keepsakes = s.core.keepsakes
  diary : diary s'.world = diary s.world
  clock : 1 ≤ s.clock → 1 ≤ s'.clock

/-- An action that does not concern them. -/
def Act.Aside (diary : ω → List Recording) (act : Act ω α) : Prop :=
  ∀ s, Unconcerned diary s (act.run s).2

/-- What the account store answers to those who load does not concern them either. -/
structure Surroundings.AnswersAside (env : Surroundings ω) (diary : ω → List Recording) :
    Prop where
  list : (answer env.source.list).Aside diary
  get : ∀ id, (answer (env.source.get id)).Aside diary
  isSyncEnabled : ∀ email, (answer (env.source.isSyncEnabled email)).Aside diary

/-- What may happen during a call: checks are recorded, one after the other and depending on
anything, and put down in the diary when they have ended.  The store may have to be asked for that;
what happens during such calls is of the same kind. -/
inductive Act.Interlude (diary : ω → List Recording) : {α : Type} → Act ω α → Prop
  | aside {α : Type} {act : Act ω α} : act.Aside diary → Interlude diary act
  | bind {α β : Type} {act : Act ω α} {next : α → Act ω β} :
    Interlude diary act → (∀ a, Interlude diary (next a)) → Interlude diary (act >>= next)
  | recorded (env : Surroundings ω) (id : Int) (unseen : Option Int)
    (write : Option Report → ω → ω) :
    env.AnswersAside diary → (∀ c, c.Informing → Interlude diary (env.during c)) →
    (∀ report w, diary (write report w) = diary w ++ [⟨id, report⟩]) →
    Interlude diary (do
      let report ← update env id unseen
      modify fun s => { s with world := write report s.world })

/-- During the calls of those who load, checks may be recorded. -/
structure Surroundings.Interrupted (env : Surroundings ω) (diary : ω → List Recording) : Prop
    extends env.AnswersAside diary where
  during : ∀ c, c.Informing → (env.during c).Interlude diary

/-! ## Since an operation began -/

/-- What holds of a poller since a moment, given what was recorded since.  The accounts that were
tracked then are tracked still and answered reports, and the report of an account is the one that
was answered last. -/
structure Since (diary : ω → List Recording) (s₀ s : System ω) (us : List Recording) : Prop where
  clock : 1 ≤ s.clock
  diary : diary s.world = diary s₀.world ++ us
  tracked : ∀ id ∈ s₀.core.registry.ids, id ∈ s.core.registry.ids
  answered : ∀ u ∈ us, u.account ∈ s₀.core.registry.ids → u.report.isSome
  current : ∀ id report, lastReport us id = some report →
    s.core.registry.find? id = some report ∧ 1 ≤ report.prevSync

namespace Since

variable {diary : ω → List Recording} {s₀ s s' : System ω} {us : List Recording}

theorem start (hclock : 1 ≤ s.clock) : Since diary s s [] where
  clock := hclock
  diary := (List.append_nil _).symm
  tracked _ hid := hid
  answered _ hu := nomatch hu
  current _ _ hlast := nomatch hlast

theorem unconcerned (h : Since diary s₀ s us) (hs : Unconcerned diary s s') :
    Since diary s₀ s' us where
  clock := hs.clock h.clock
  diary := hs.diary.trans h.diary
  tracked := by
    rw [hs.registry]
    exact h.tracked
  answered := h.answered
  current := by
    rw [hs.registry]
    exact h.current

/-- Publishing what is missing leaves the reports alone that are there. -/
theorem published (h : Since diary s₀ s us) {mode : LoadMode} (hmode : mode ≠ .forceReset)
    {built : Registry} (hbuilt : built.Unchecked) :
    Since diary s₀ { s with core := s.core.published mode built } us where
  clock := h.clock
  diary := h.diary
  tracked id hid := (Registry.Extended.published hmode hbuilt).ids (h.tracked id hid)
  answered := h.answered
  current id report hlast :=
    ⟨Core.find?_published (h.current id report hlast).1 hmode built,
      (h.current id report hlast).2⟩

/-- One more check is recorded and put down. -/
theorem recorded (h : Since diary s₀ s us) (id : Int) (unseen : Option Int) {w : ω}
    (hw : diary w = diary s.world ++ [⟨id, (s.checkedNow id unseen).core.registry.find? id⟩]) :
    Since diary s₀ { s.checkedNow id unseen with world := w }
      (us ++ [⟨id, (s.checkedNow id unseen).core.registry.find? id⟩]) where
  clock := h.clock
  diary := by
    dsimp only
    rw [hw, h.diary, List.append_assoc]
  tracked x hx := by
    dsimp only
    rw [System.ids_checkedNow]
    exact h.tracked x hx
  answered u hu hid := by
    rcases List.mem_append.1 hu with hu | hu
    · exact h.answered u hu hid
    · rw [List.mem_singleton.1 hu] at hid ⊢
      dsimp only at hid ⊢
      have htracked := (Registry.mem_ids_iff _ _).1 (h.tracked id hid)
      rw [System.find?_checkedNow, Option.isSome_map]
      exact htracked
  current x report hlast := by
    rw [lastReport_concat] at hlast
    dsimp only at hlast ⊢
    by_cases hx : id = x
    · subst hx
      rw [if_pos rfl, System.find?_checkedNow] at hlast
      rw [System.find?_checkedNow]
      cases hfind : s.core.registry.find? id with
      | some old =>
        rw [hfind] at hlast
        cases hlast
        refine ⟨rfl, ?_⟩
        rw [Report.checked_prevSync]
        exact h.clock
      | none =>
        -- An account that is not tracked was answered no report.
        rw [hfind] at hlast
        rw [(h.current id report hlast).1] at hfind
        cases hfind
    · rw [if_neg hx] at hlast
      obtain ⟨hfind, hpositive⟩ := h.current x report hlast
      refine ⟨?_, hpositive⟩
      unfold System.checkedNow
      rw [Registry.find?_modify, if_neg (Ne.symm hx)]
      exact hfind

end Since

/-! ## During calls -/

/-- Since a moment the poller has kept certain earlier registries. -/
def Lately (diary : ω → List Recording) (s₀ : System ω) (ks : List Keepsake) (s : System ω) :
    Prop :=
  s.core.keepsakes = ks ∧ ∃ us, Since diary s₀ s us

namespace Lately

variable {diary : ω → List Recording} {s₀ : System ω} {ks : List Keepsake}

theorem keeps_aside {act : Act ω α} (h : act.Aside diary) : act.Keeps (Lately diary s₀ ks) := by
  rintro s ⟨hks, us, hs⟩
  exact ⟨(h s).keepsakes.trans hks, us, hs.unconcerned (h s)⟩

theorem informs {env : Surroundings ω} (h : env.AnswersAside diary)
    (hduring : ∀ c, c.Informing → (env.during c).Keeps (Lately diary s₀ ks)) :
    env.Informs (Lately diary s₀ ks) where
  note _ := keeps_aside fun _ => ⟨rfl, rfl, rfl, id⟩
  call c hc := (keeps_aside fun _ => ⟨rfl, rfl, rfl, id⟩).bind fun _ => hduring c hc
  list := keeps_aside h.list
  get id := keeps_aside (h.get id)
  isSyncEnabled email := keeps_aside (h.isSyncEnabled email)

end Lately

/-- Whatever happens during a call, what held since a moment holds still.  The induction is on how
it is put together: for a recording it supplies that what happens while the store is asked for it is
of no harm. -/
theorem Act.Interlude.keeps_since {diary : ω → List Recording} {act : Act ω α}
    (h : act.Interlude diary) (s₀ : System ω) (ks : List Keepsake) :
    act.Keeps (Lately diary s₀ ks) := by
  induction h with
  | aside h => exact Lately.keeps_aside h
  | bind _ _ ih ihnext => exact ih.bind ihnext
  | recorded env id unseen write hanswers _ hwrite ih =>
    intro s hs
    have hmode : LoadMode.one id ≠ .forceReset := nofun
    have hload := (Lately.informs hanswers ih).load (.one id)
      (fun _ _ hs hbuilt => ⟨hs.1, hs.2.imp fun _ hs => hs.published hmode hbuilt⟩) s hs
    rw [Act.run_bind, run_update]
    rcases hr : (load env (.one id)).run s with ⟨_ | _, s'⟩
    · rw [hr] at hload
      exact hload
    · rw [hr] at hload
      obtain ⟨hks, us, hs'⟩ := hload
      exact ⟨hks, _, hs'.recorded id unseen (hwrite _ _)⟩

/-! ## When the operation has ended -/

namespace Surroundings.Interrupted

variable {env : Surroundings ω} {diary : ω → List Recording} (h : env.Interrupted diary)
include h

theorem informs (s₀ : System ω) (ks : List Keepsake) : env.Informs (Lately diary s₀ ks) :=
  Lately.informs h.toAnswersAside fun c hc => (h.during c hc).keeps_since s₀ ks

/-- Filling the registry, wholly or for one account, leaves what held since it began. -/
theorem load {mode : LoadMode} (hmode : mode ≠ .forceReset) {s : System ω} (hclock : 1 ≤ s.clock) :
    ∃ us, Since diary s ((load env mode).run s).2 us := by
  have hstart : Lately diary s s.core.keepsakes s := ⟨rfl, [], .start hclock⟩
  rcases load_cases (h.informs s s.core.keepsakes) mode hstart with ⟨-, hr⟩ |
    ⟨-, ⟨e, s', hr, -, us, hs'⟩ | ⟨rows, built, s', -, hr, hbuilt, -, -, us, hs'⟩⟩
  · rw [hr]
    exact ⟨[], .start hclock⟩
  · rw [hr]
    exact ⟨us, hs'⟩
  · rw [hr]
    exact ⟨us, hs'.published hmode hbuilt⟩

/-- Rebuilding the registry takes over the times of the checks that were recorded meanwhile. -/
theorem refresh {s s' : System ω} (hclock : 1 ≤ s.clock) (hr : (refresh env).run s = (.ok (), s')) :
    ∃ us rows, diary s'.world = diary s.world ++ us ∧
      ((rowsFor env .forceReset).run (keep.run s).2).1 = .ok rows ∧
      ∀ u ∈ us, u.account ∈ s.core.registry.ids → u.account ∈ liveIds rows →
        ∃ report d interval enabled notify, lastReport us u.account = some report ∧
          1 ≤ report.prevSync ∧ liveRow? rows u.account = some d ∧
          env.policy.polling.intervalOfDraft d = .ok interval ∧
          s'.core.registry.find? u.account =
            some (.resumed u.account interval enabled notify report.prevSync) := by
  have hstart : Lately diary s (none :: s.core.keepsakes) (keep.run s).2 :=
    ⟨rfl, [], hclock, (List.append_nil _).symm, fun _ hid => hid, nofun, nofun⟩
  rw [run_refresh, show ({ s with core := _ } : System ω) = (keep.run s).2 from rfl] at hr
  rcases load_steps (h.informs _ _) .forceReset hstart with ⟨hneeded, -⟩ |
    ⟨-, ⟨e, s₁, hload, -⟩ | ⟨rows, built, s₁, moment, hrows, hbuild, hload, hkept, us, hmoment⟩⟩
  · cases hneeded
  · rw [hload] at hr
    cases hr
  · rw [hload] at hr
    -- What was kept is the registry at the moment of publishing, with all that was recorded in it.
    have hs' : s' = { moment with core := moment.core.rebuilt s.core.registry.ids built } :=
      (congrArg Prod.snd hr).symm
    have hregistry : s'.core.registry =
        built.carryForward (moment.core.registry.restrict s.core.registry.ids) := by
      rw [hs']
      exact Core.registry_rebuilt_of_kept hkept ..
    refine ⟨us, rows, by rw [hs']; exact hmoment.diary, hrows, fun u hu htracked hlive => ?_⟩
    obtain ⟨report, hlast⟩ := exists_lastReport hu (hmoment.answered u hu htracked)
    obtain ⟨hfind, hpositive⟩ := hmoment.current _ _ hlast
    have hbuilt : ((buildReports env .empty rows).run s₁).1 = .ok built := congrArg Prod.fst hbuild
    rcases find?_buildReports hbuilt u.account with ⟨-, hnone⟩ |
      ⟨d, interval, enabled, notify, hrow, hinterval, hfresh⟩
    · have hmem := (mem_ids_buildReports hbuilt u.account).2 (Or.inr hlive)
      exact absurd hmem ((Registry.find?_eq_none_iff _ _).1 hnone)
    · refine ⟨report, d, interval, enabled, notify, hlast, hpositive, hrow, hinterval, ?_⟩
      rw [hregistry, Registry.carryForward, Registry.find?_map, hfresh, Option.map_some]
      rw [show (Report.fresh u.account interval enabled notify).account = u.account from rfl,
        Registry.find?_restrict _ htracked, hfind]
      exact congrArg some (Report.scheduleFrom_fresh ..)

end Surroundings.Interrupted

/-- Checks that are recorded while the account store is being asked are not lost.  When loading has
ended, by itself or with a fault, every account that was answered a report meanwhile has the report
that it was answered last, with its time and its count.  When the registry was rebuilt, every
account that was tracked before, was recorded meanwhile, and is live among the rows that were read,
has the time of its last recording, and its next check follows from that time and from the interval
of its row.  If no collaborator fails, neither loading nor rebuilding does. -/
theorem recorded_meanwhile_is_kept {env : Surroundings ω} {diary : ω → List Recording}
    (h : env.Interrupted diary) {s : System ω} (hclock : 1 ≤ s.clock) :
    (∀ mode, mode = .fillIfEmpty ∨ (∃ id, mode = .one id) →
      ∀ r s', (load env mode).run s = (r, s') → ∃ us, diary s'.world = diary s.world ++ us ∧
        ∀ u ∈ us, u.report.isSome → ∃ report, lastReport us u.account = some report ∧
          s'.core.registry.find? u.account = some report) ∧
    (∀ s', (refresh env).run s = (.ok (), s') →
      ∃ us rows, diary s'.world = diary s.world ++ us ∧
        ((rowsFor env .forceReset).run (keep.run s).2).1 = .ok rows ∧
        ∀ u ∈ us, u.account ∈ s.core.registry.ids → u.account ∈ liveIds rows →
          ∃ report d interval current, lastReport us u.account = some report ∧
            liveRow? rows u.account = some d ∧
            env.policy.polling.intervalOfDraft d = .ok interval ∧
            s'.core.registry.find? u.account = some current ∧ current.interval = interval ∧
            current.prevSync = report.prevSync ∧ current.nextSync =
              if 0 < interval then report.prevSync + interval * minute else notScheduled) ∧
    (env.Unfailing →
      (∀ mode, ((load env mode).run s).1 = .ok ()) ∧ ((refresh env).run s).1 = .ok ()) := by
  refine ⟨fun mode hmode r s' hr => ?_, fun s' hr => ?_,
    fun hunfailing => ⟨fun mode => hunfailing.load_ok mode s, hunfailing.refresh_ok s⟩⟩
  · have hne : mode ≠ .forceReset := by
      rcases hmode with rfl | ⟨id, rfl⟩ <;> exact nofun
    obtain ⟨us, hs'⟩ := h.load hne hclock
    rw [hr] at hs'
    refine ⟨us, hs'.diary, fun u hu hreport => ?_⟩
    obtain ⟨report, hlast⟩ := exists_lastReport hu hreport
    exact ⟨report, hlast, (hs'.current _ _ hlast).1⟩
  · obtain ⟨us, rows, hdiary, hrows, hall⟩ := h.refresh hclock hr
    refine ⟨us, rows, hdiary, hrows, fun u hu htracked hlive => ?_⟩
    obtain ⟨report, d, interval, enabled, notify, hlast, hpositive, hrow, hinterval, hfind⟩ :=
      hall u hu htracked hlive
    have hchecked : report.prevSync ≠ neverChecked := by
      intro hnever
      rw [hnever] at hpositive
      cases hpositive
    exact ⟨report, d, interval, _, hlast, hrow, hinterval, hfind, rfl, rfl,
      by simp only [Report.resumed, if_neg hchecked]⟩

namespace Rehearsal

/-- Collaborators of a poller of two accounts, who do nothing while they are called.  Their world is
a diary. -/
def undisturbed : Surroundings (List Recording) where
  policy := {}
  source := {
    list := fun w => (.ok twoAccounts.accounts, w)
    get := fun id w => (.ok (twoAccounts.find? id), w)
    isSyncEnabled := fun _ w => (.ok true, w)
    count := fun _ w => (.ok none, w)
    resetCount := fun _ w => (.ok (), w)
    idsWithProtocol := fun _ w => (.ok [], w) }
  checker := { inbox := fun _ _ => none, delete := fun _ w => (.ok (), w) }
  reconciles := false
  backgroundData := none
  during := fun _ => pure ()

/-- A check is recorded and put down in the diary. -/
def putDown (id : Int) (unseen : Option Int) : Act (List Recording) Unit := do
  let report ← update undisturbed id unseen
  modify fun s => { s with world := s.world ++ [⟨id, report⟩] }

/-- Checks are recorded while the accounts are listed, and while the store is asked for one of
them. -/
def disturbed : Surroundings (List Recording) := { undisturbed with
  during := fun
    | .listAccounts => putDown 1 (some 4)
    | .isSyncEnabled _ => putDown 2 none
    | _ => pure () }

/-- Both accounts are tracked, and were checked some time ago. -/
def pollerOfBoth : System (List Recording) where
  core := { registry :=
    ⟨[(1, .resumed 1 30 true true 400000), (2, .resumed 2 60 true true 500000)]⟩ }
  clock := 1000000
  world := []

theorem interrupted_disturbed : disturbed.Interrupted id := by
  have hanswers : undisturbed.AnswersAside id := by
    constructor
    · exact fun _ => ⟨rfl, rfl, rfl, id⟩
    · exact fun _ _ => ⟨rfl, rfl, rfl, id⟩
    · exact fun _ _ => ⟨rfl, rfl, rfl, id⟩
  have hidle : (pure () : Act (List Recording) Unit).Interlude id :=
    .aside fun _ => ⟨rfl, rfl, rfl, id⟩
  have hput : ∀ x unseen, (putDown x unseen).Interlude id := fun x unseen =>
    .recorded undisturbed x unseen (fun report w => w ++ [Recording.mk x report]) hanswers
      (fun _ _ => hidle) fun _ _ => rfl
  refine ⟨⟨hanswers.list, hanswers.get, hanswers.isSyncEnabled⟩, fun c _ => ?_⟩
  cases c with
  | listAccounts => exact hput 1 (some 4)
  | isSyncEnabled email => exact hput 2 none
  | _ => exact hidle

theorem unfailing_undisturbed : undisturbed.Unfailing where
  during _ _ _ := rfl
  list w _ := ⟨_, w, rfl, trivial, fixed_inMemory.complete⟩
  get _ w _ := ⟨_, w, rfl, trivial, fun d hd =>
    fixed_inMemory.complete d (List.mem_of_find?_eq_some (Option.mem_toList.1 hd))⟩
  isSyncEnabled _ w _ := ⟨true, w, rfl, trivial, trivial⟩

theorem unfailing_disturbed : disturbed.Unfailing where
  during c s _ := by
    have hput : ∀ id unseen, ((putDown id unseen).run s).1 = .ok () := by
      intro id unseen
      obtain ⟨report, hreport⟩ := unfailing_undisturbed.update_ok id unseen s
      unfold putDown
      rw [Act.run_bind]
      rcases hr : (update undisturbed id unseen).run s with ⟨r, s'⟩
      rw [hr] at hreport
      obtain rfl : r = .ok report := hreport
      rfl
    cases c with
    | listAccounts => exact hput 1 (some 4)
    | isSyncEnabled email => exact hput 2 none
    | _ => rfl
  list := unfailing_undisturbed.list
  get := unfailing_undisturbed.get
  isSyncEnabled := unfailing_undisturbed.isSyncEnabled

/-- The registry that is rebuilt has the times of the checks that were recorded meanwhile, and the
next checks follow from the intervals that the accounts have now. -/
theorem recorded_meanwhile_is_kept_disturbed :
    disturbed.Interrupted id ∧ 1 ≤ pollerOfBoth.clock ∧ ∃ s' report current,
      (refresh disturbed).run pollerOfBoth = (.ok (), s') ∧
      s'.world.map (·.account) = [1, 2, 2] ∧ lastReport s'.world 1 = some report ∧
      s'.core.registry.find? 1 = some current ∧ current.prevSync = report.prevSync ∧
      report.prevSync = 1000000 ∧ current.nextSync = 1000000 + 15 * minute := by
  have hclock : 1 ≤ pollerOfBoth.clock := by decide
  obtain ⟨-, hrefresh, hok⟩ := recorded_meanwhile_is_kept interrupted_disturbed hclock
  obtain ⟨-, hok⟩ := hok unfailing_disturbed
  obtain ⟨us, rows, hdiary, hrows, hall⟩ := hrefresh _ (Prod.ext hok rfl)
  have hread : ((rowsFor disturbed .forceReset).run (keep.run pollerOfBoth).2).1 =
      .ok twoAccounts.accounts := by
    decide +kernel
  obtain rfl : twoAccounts.accounts = rows := Except.ok.inj (hread.symm.trans hrows)
  have hworld : ((refresh disturbed).run pollerOfBoth).2.world = us := hdiary
  subst hworld
  have haccounts : ((refresh disturbed).run pollerOfBoth).2.world.map (·.account) = [1, 2, 2] := by
    decide +kernel
  obtain ⟨u, hu, haccount⟩ : ∃ u ∈ ((refresh disturbed).run pollerOfBoth).2.world,
      u.account = 1 :=
    List.mem_map.1 (by rw [haccounts]; exact List.mem_cons_self)
  have hlive : (1 : Int) ∈ liveIds twoAccounts.accounts := by decide
  have htracked : (1 : Int) ∈ pollerOfBoth.core.registry.ids := by decide
  obtain ⟨report, d, interval, current, hlast, hrow, hinterval, hfind, -, hprev, hnext⟩ :=
    hall u hu (by rw [haccount]; exact htracked) (by rw [haccount]; exact hlive)
  rw [haccount] at hlast hrow hfind
  have hreport : (lastReport ((refresh disturbed).run pollerOfBoth).2.world 1).map (·.prevSync) =
      some 1000000 := by
    decide +kernel
  rw [hlast] at hreport
  have htime : report.prevSync = 1000000 := Option.some.inj hreport
  have hinterval' : ((liveRow? twoAccounts.accounts 1).map fun d =>
      disturbed.policy.polling.intervalOfDraft d) = some (.ok 15) := by
    decide +kernel
  rw [hrow, Option.map_some, hinterval] at hinterval'
  obtain rfl : interval = 15 := Except.ok.inj (Option.some.inj hinterval')
  exact ⟨interrupted_disturbed, hclock, _, report, current, Prod.ext hok rfl, haccounts, hlast,
    hfind, hprev, htime, by rw [hnext, htime]; rfl⟩

end Rehearsal

end MailSchedule
