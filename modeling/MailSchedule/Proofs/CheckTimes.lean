import MailSchedule.Proofs.Course
import MailSchedule.Proofs.Occurrences
import MailSchedule.Proofs.Rehearsing
import MailSchedule.Proofs.Selecting
import MailSchedule.Proofs.Unambiguous

/-!
# Times of checks

Snapshots travel: a wake may be delivered late, more than once, or to a poller that has lost its
memory meanwhile.  All the same no time of a check lies in the future, and handling a message does
not set the time of a check back, as long as snapshots come from the poller itself.  There is one
exception.  When the registry is rebuilt while no account is listed, nothing is left to carry times
over to, and an account that is listed again a moment later counts as never checked.

Results:

* `Surroundings.Honest`: collaborators that pass on what the poller armed, and nothing else.
* `Lived`: the states that a poller goes through among them.
* `System.Timely`, `Lived.timely`: no time lies in the future, here or in what travels.
* `Registry.Grown`, `Registry.Later`: what handling a message does to the times of checks.
* `Lived.times_run_forward`: times of checks run forward.
-/

namespace MailSchedule

variable {ω : Type}

/-! ## Times within bounds -/

/-- The time of the last check lies neither before the first reading of the clock nor after the
given one. -/
def Report.Within (t : Int) (r : Report) : Prop := 0 ≤ r.prevSync ∧ r.prevSync ≤ t

def Registry.Within (t : Int) (r : Registry) : Prop := ∀ e ∈ r.entries, e.2.Within t

def Snapshot.Within (t : Int) (s : Snapshot) : Prop := ∀ p ∈ s.prevSyncTimes, 0 ≤ p.2 ∧ p.2 ≤ t

theorem Report.Within.mono {t t' : Int} {r : Report} (h : r.Within t) (ht : t ≤ t') :
    r.Within t' := ⟨h.1, by have := h.2; omega⟩

theorem Snapshot.Within.mono {t t' : Int} {s : Snapshot} (h : s.Within t) (ht : t ≤ t') :
    s.Within t' := fun p hp => ⟨(h p hp).1, Int.le_trans (h p hp).2 ht⟩

theorem Snapshot.eq_of_message {s saved : Snapshot} {account : Option Int}
    (h : s.message = .checkRequested account (some saved)) : saved = s := by
  unfold Snapshot.message at h
  split at h
  · cases h
  · cases h
    rfl

theorem Report.Within.fill {t : Int} {r : Report} (h : r.Within t) {times : List Int}
    (htimes : ∀ x ∈ times, 0 ≤ x ∧ x ≤ t) : (r.fill times).Within t := by
  induction times generalizing r with
  | nil => exact h
  | cons x xs ih =>
    refine ih ?_ fun y hy => htimes y (List.mem_cons_of_mem x hy)
    dsimp only
    split
    · unfold Report.Within
      rw [scheduleFrom_prevSync]
      exact htimes x List.mem_cons_self
    · exact h

/-- Filling in times does not set a time back: it changes nothing unless none is known. -/
theorem Report.prevSync_le_fill {t : Int} {r : Report} (h : r.Within t) {times : List Int}
    (htimes : ∀ x ∈ times, 0 ≤ x ∧ x ≤ t) : r.prevSync ≤ (r.fill times).prevSync := by
  by_cases h0 : r.prevSync = neverChecked
  · rw [h0]
    exact (h.fill htimes).1
  · refine Int.le_of_eq (congrArg Report.prevSync ?_)
    clear htimes
    induction times with
    | nil => rfl
    | cons x xs ih =>
      show r = Report.fill (if r.prevSync = neverChecked then r.scheduleFrom x else r) xs
      rw [if_neg h0]
      exact ih

namespace Registry

theorem within_empty (t : Int) : empty.Within t := fun _ he => absurd he List.not_mem_nil

theorem Within.mono {t t' : Int} {r : Registry} (h : r.Within t) (ht : t ≤ t') : r.Within t' :=
  fun e he => (h e he).mono ht

theorem Unchecked.within {r : Registry} (h : r.Unchecked) {t : Int} (ht : 0 ≤ t) : r.Within t := by
  intro e he
  unfold Report.Within
  rw [h.never e he]
  exact ⟨Int.le_refl _, ht⟩

theorem Within.of_entries {t : Int} {r r' : Registry} (h : r.Within t)
    {g : Int × Report → Report} (he : r'.entries = r.entries.map fun e => (e.1, g e))
    (hg : ∀ e ∈ r.entries, e.2.Within t → (g e).Within t) : r'.Within t := by
  intro e' he'
  rw [he] at he'
  obtain ⟨e, hmem, rfl⟩ := List.mem_map.1 he'
  exact hg e hmem (h e hmem)

theorem Within.addMissing {t : Int} {r fresh : Registry} (h : r.Within t)
    (hfresh : fresh.Within t) :
    (r.addMissing fresh).Within t := fun e he =>
  (mem_entries_addMissing he).elim (h e) (hfresh e)

theorem Within.carryForward {t : Int} {r earlier : Registry} (h : r.Within t)
    (hearlier : earlier.Within t) : (r.carryForward earlier).Within t := by
  refine h.of_entries rfl fun e _ he => ?_
  dsimp only
  cases hfind : earlier.find? e.2.account with
  | none => exact he
  | some old =>
    unfold Report.Within
    rw [Report.scheduleFrom_prevSync]
    exact hearlier _ (mem_of_find? hfind)

theorem Within.snapshot {t : Int} {r : Registry} (h : r.Within t) (account : Option Int) :
    (r.snapshot account).Within t := by
  intro p hp
  obtain ⟨report, hreport, rfl⟩ := List.mem_map.1 hp
  obtain ⟨e, he, rfl⟩ := List.mem_map.1 hreport
  exact h e he

/-! ## Times that grow -/

/-- Accounts that are tracked stay tracked, and the times of their checks are not set back. -/
def Grown (r r' : Registry) : Prop :=
  ∀ id report, r.find? id = some report →
    ∃ report', r'.find? id = some report' ∧ report.prevSync ≤ report'.prevSync

/-- The times of checks are not set back for accounts that are tracked before and after. -/
def Later (r r' : Registry) : Prop :=
  ∀ id report report', r.find? id = some report → r'.find? id = some report' →
    report.prevSync ≤ report'.prevSync

theorem Grown.refl (r : Registry) : r.Grown r := fun _ report h => ⟨report, h, Int.le_refl _⟩

theorem Grown.later {r r' : Registry} (h : r.Grown r') : r.Later r' := by
  intro id report report' hfind hfind'
  obtain ⟨report'', hfind'', hle⟩ := h id report hfind
  rw [hfind'] at hfind''
  cases hfind''
  exact hle

theorem Grown.trans {r r' r'' : Registry} (h : r.Grown r') (h' : r'.Grown r'') : r.Grown r'' := by
  intro id report hfind
  obtain ⟨report', hfind', hle⟩ := h id report hfind
  obtain ⟨report'', hfind'', hle'⟩ := h' id report' hfind'
  exact ⟨report'', hfind'', Int.le_trans hle hle'⟩

theorem Grown.of_entries {r r' : Registry} {g : Int × Report → Report}
    (he : r'.entries = r.entries.map fun e => (e.1, g e))
    (hg : ∀ e ∈ r.entries, e.2.prevSync ≤ (g e).prevSync) : r.Grown r' := by
  intro id report hfind
  rw [find?_of_entries he, hfind]
  exact ⟨_, rfl, hg (id, report) (mem_of_find? hfind)⟩

theorem Grown.addMissing (r fresh : Registry) : r.Grown (r.addMissing fresh) := fun _ report h =>
  ⟨report, find?_addMissing h fresh, Int.le_refl _⟩

/-- Unless all accounts are loaded afresh, those that are tracked stay as they are. -/
theorem Grown.published {r : Registry} {c : Core} (h : r.Grown c.registry) (mode : LoadMode)
    (hmode : mode ≠ .forceReset) (built : Registry) :
    r.Grown (c.published mode built).registry := by
  cases mode with
  | forceReset => exact absurd rfl hmode
  | one id => exact h.trans (Grown.addMissing _ built)
  | fillIfEmpty =>
    unfold Core.published
    dsimp only
    split
    · rename_i hempty
      intro id report hfind
      obtain ⟨report', hfind', -⟩ := h id report hfind
      rw [find?_of_isEmpty hempty] at hfind'
      cases hfind'
    · exact h

/-- A new registry takes over the times of the old one, where it tracks the same accounts. -/
theorem Unchecked.later_carryForward {built : Registry} (h : built.Unchecked) (r : Registry) :
    r.Later (built.carryForward r) := by
  intro id report report' hfind hfind'
  unfold Registry.carryForward at hfind'
  rw [find?_map] at hfind'
  obtain ⟨new, hnew, rfl⟩ := Option.map_eq_some_iff.1 hfind'
  rw [h.account _ (mem_of_find? hnew), hfind]
  exact Int.le_of_eq (Report.scheduleFrom_prevSync new report.prevSync).symm

end Registry

/-! ## Honest collaborators -/

/-- A snapshot that the poller has armed. -/
def Armed (journal : List Event) (s : Snapshot) : Prop :=
  ∃ time, .called (.arm time s.encode) ∈ journal

/-- If a message carries a snapshot, then one that the poller has armed. -/
def Message.Honest (journal : List Event) (m : Message) : Prop :=
  ∀ account saved, m = .checkRequested account (some saved) → Armed journal saved

/-- While they are being called, collaborators leave the poller alone but for honest messages, do
not turn back the clock, and do not arm anything in the poller's name. -/
structure Surroundings.Honest (env : Surroundings ω) : Prop where
  core : ∀ c s, ∃ ms, ((env.during c).run s).2.core =
    { s.core with queue := s.core.queue ++ ms } ∧ ∀ m ∈ ms, m.Honest s.journal
  clock : ∀ c s, s.clock ≤ ((env.during c).run s).2.clock
  arms : ∀ c s time payload, .called (.arm time payload) ∈ ((env.during c).run s).2.journal →
    .called (.arm time payload) ∈ s.journal

/-- What happens to the poller is honest: messages are, a wake delivers a payload that was armed,
and time does not run backwards. -/
def Occurrence.Honest (s : System ω) : Occurrence ω → Prop
  | submit m => m.Honest s.journal
  | wake payload => ∀ p ∈ payload, ∃ time, .called (.arm time p) ∈ s.journal
  | elapse clock _ => s.clock ≤ clock
  | _ => True

/-- The states that a poller goes through, and after it those that take its place.  The world may
change between any two calls, and any of them may fail. -/
inductive Lived (env : Surroundings ω) : System ω → Prop
  | start (clock : Int) (world : ω) : 1 ≤ clock → Lived env { clock, world }
  | occur {s : System ω} (o : Occurrence ω) : Lived env s → o.Honest s → Lived env (o.after env s)
  | restart {s : System ω} : Lived env s → Lived env { s with core := {} }
  | close {s : System ω} : Lived env s → Lived env (close.run s).2

/-! ## What stays true -/

/-- No time of a check lies in the future, neither in the registry nor in what was armed nor in what
waits. -/
structure System.Timely (s : System ω) : Prop where
  clock : 0 ≤ s.clock
  registry : s.core.registry.Within s.clock
  armed : ∀ time payload, .called (.arm time payload) ∈ s.journal →
    ∃ saved : Snapshot, payload = saved.encode ∧ saved.Within s.clock
  queue : ∀ account saved, .checkRequested account (some saved) ∈ s.core.queue →
    saved.Within s.clock

namespace System.Timely

variable {s : System ω} (h : s.Timely)
include h

theorem within_of_armed {saved : Snapshot} (hs : Armed s.journal saved) : saved.Within s.clock := by
  obtain ⟨time, htime⟩ := hs
  obtain ⟨saved', heq, hwithin⟩ := h.armed time saved.encode htime
  obtain ⟨-, hpairs, -⟩ := Snapshot.encode_inj heq
  unfold Snapshot.Within
  rw [hpairs]
  exact hwithin

/-- Messages may enter the queue if the snapshots in them are of past times. -/
theorem enqueued {ms : List Message} (hms : ∀ account saved,
      .checkRequested account (some saved) ∈ ms → saved.Within s.clock) :
    System.Timely { s with core := { s.core with queue := s.core.queue ++ ms } } :=
  { h with
    queue := fun account saved hmem =>
      (List.mem_append.1 hmem).elim (h.queue account saved) (hms account saved) }

/-- Another registry may take the place of the one there is. -/
theorem set_core {c : Core} (hregistry : c.registry.Within s.clock)
    (hqueue : ∀ m ∈ c.queue, m ∈ s.core.queue) : System.Timely { s with core := c } :=
  { h with
    registry := hregistry
    queue := fun account saved hmem => h.queue account saved (hqueue _ hmem) }

theorem elapsed {clock : Int} (hclock : s.clock ≤ clock) (world : ω) :
    System.Timely { s with clock, world } where
  clock := Int.le_trans h.clock hclock
  registry := h.registry.mono hclock
  armed time payload hmem := by
    obtain ⟨saved, heq, hwithin⟩ := h.armed time payload hmem
    exact ⟨saved, heq, hwithin.mono hclock⟩
  queue account saved hmem := (h.queue account saved hmem).mono hclock

theorem published (mode : LoadMode) (hmode : mode ≠ .forceReset) {built : Registry}
    (hbuilt : built.Unchecked) :
    System.Timely { s with core := s.core.published mode built } := by
  have hwithin := hbuilt.within h.clock
  cases mode with
  | forceReset => exact absurd rfl hmode
  | one id => exact h.set_core (h.registry.addMissing hwithin) fun _ hm => hm
  | fillIfEmpty =>
    unfold Core.published
    dsimp only
    split
    · exact h.set_core hwithin fun _ hm => hm
    · exact h

/-- Entries of the journal do no harm if what they tell to be armed is a snapshot of past times. -/
theorem recorded {e : Event} (he : ∀ time payload, e = .called (.arm time payload) →
      ∃ saved : Snapshot, payload = saved.encode ∧ saved.Within s.clock) :
    System.Timely { s with journal := e :: s.journal } :=
  { h with
    armed := by
      intro time payload hmem
      rcases List.mem_cons.1 hmem with heq | hmem
      · exact he time payload heq.symm
      · exact h.armed time payload hmem }

end System.Timely

/-- A timely system in which a time has passed, with a registry and with things remembered for
rebuilding it as described. -/
def Lasting (t : Int) (R : Registry → List Keepsake → Prop) (s : System ω) : Prop :=
  s.Timely ∧ t ≤ s.clock ∧ R s.core.registry s.core.keepsakes

theorem Lasting.set_timer {t : Int} {R : Registry → List Keepsake → Prop} (s : System ω)
    (w : Option Wake) (h : Lasting t R s) : Lasting t R { s with timer := w } :=
  ⟨{ h.1 with }, h.2⟩

/-- Reports may be changed where they are, if that does not set back the times of their checks. -/
theorem Lasting.changed {t : Int} {r r' : Registry} {s : System ω}
    (h : Lasting t (fun r' _ => r.Grown r') s) {g : Int × Report → Report}
    (he : r'.entries = s.core.registry.entries.map fun e => (e.1, g e))
    (hg : ∀ e ∈ s.core.registry.entries, e.2.Within s.clock →
      (g e).Within s.clock ∧ e.2.prevSync ≤ (g e).prevSync) :
    Lasting t (fun r' _ => r.Grown r') { s with core := { s.core with registry := r' } } := by
  have hwithin := h.1.registry
  refine ⟨h.1.set_core (hwithin.of_entries he fun e hmem hbound => (hg e hmem hbound).1)
    fun _ hm => hm, h.2.1, h.2.2.trans (.of_entries he fun e hmem => ?_)⟩
  exact (hg e hmem (hwithin e hmem)).2

namespace Surroundings.Honest

variable {env : Surroundings ω} (h : env.Honest) {t : Int} {R : Registry → List Keepsake → Prop}
include h

theorem during (c : Call) : (env.during c).Keeps (Lasting t R) := by
  intro s hs
  obtain ⟨ms, hcore, hms⟩ := h.core c s
  have hclock := h.clock c s
  have harms := h.arms c s
  have hlater := (hs.1.enqueued fun account saved hmem =>
    hs.1.within_of_armed (hms _ hmem account saved rfl)).elapsed hclock s.world
  generalize ((env.during c).run s).2 = s' at *
  refine ⟨⟨hlater.clock, ?_, ?_, ?_⟩, Int.le_trans hs.2.1 hclock, ?_⟩
  · rw [hcore]
    exact hlater.registry
  · exact fun time payload hmem => hlater.armed time payload (harms time payload hmem)
  · rw [hcore]
    exact hlater.queue
  · rw [hcore]
    exact hs.2.2

omit h in
theorem keeps_record {e : Event} (he : ∀ c, e = .called c → c.kind ≠ .arm) :
    Act.Keeps (record e : Act ω Unit) (Lasting t R) :=
  fun _ hs => ⟨hs.1.recorded fun _ _ heq => absurd rfl (he _ heq), hs.2⟩

theorem spares : env.Spares (Lasting t R) :=
  .of_record (fun _ he => keeps_record fun c hc => (he c hc).1) (fun c _ => h.during c)
    fun _ _ hs => ⟨{ hs.1 with }, hs.2⟩

/-! ## Operations among honest collaborators -/

/-- A snapshot of past times may be armed. -/
theorem arm (time : Int) (saved : Snapshot) {s : System ω} (hs : Lasting t R s)
    (hsaved : saved.Within s.clock) :
    Lasting t R ((MailSchedule.arm env time saved.encode).run s).2 := by
  have hrecorded : Lasting t R
      { s with journal := .called (.arm time saved.encode) :: s.journal } := by
    refine ⟨hs.1.recorded fun time' payload heq => ?_, hs.2⟩
    cases heq
    exact ⟨saved, rfl, hsaved⟩
  unfold MailSchedule.arm
  rw [Act.run_bind, run_call]
  have hafter := h.during (.arm time saved.encode) _ hrecorded
  rcases hr : (env.during (.arm time saved.encode)).run _ with ⟨_ | _, s'⟩
  · rw [hr] at hafter
    exact hafter
  · rw [hr] at hafter
    exact hafter.set_timer s' _

/-- A watchdog carries no times, if it can be written at all. -/
theorem armWatchdog (id : Int) : (armWatchdog env id).Keeps (Lasting t R) := by
  refine Act.Keeps.now.bind fun time s hs => ?_
  rw [Act.run_bind, run_resultOf]
  by_cases hread : Snapshot.Readable { account := some id, watchdog := true }
  · rw [Snapshot.payload_of_readable hread]
    exact Act.Keeps.bind (fun _ hs => h.arm _ { account := some id, watchdog := true } hs nofun)
      (fun _ => .pure _) s hs
  · rw [Snapshot.payload_of_not_readable hread]
    exact hs

theorem disarm : (disarm env).Keeps (Lasting t R) := h.spares.abides.disarm Lasting.set_timer

/-- The wake that serves a registry may be armed. -/
theorem point {s : System ω} (hs : Lasting t R s) (now : Int) :
    Lasting t R ((point env (s.core.registry.wakeAt now)).run s).2 := by
  cases hw : s.core.registry.wakeAt now with
  | none => exact h.disarm s hs
  | some w =>
    obtain ⟨id, -, -, hpayload⟩ := Registry.wakeAt_eq_some hw
    show Lasting t R ((MailSchedule.arm env w.time w.payload).run s).2
    rw [hpayload]
    exact h.arm w.time _ hs (hs.1.registry.snapshot _)

/-- Rearming fills an empty registry, and leaves another one alone. -/
theorem rearm (hR : ∀ c : Core, R c.registry c.keepsakes → ∀ built : Registry, built.Unchecked →
      R (c.published .fillIfEmpty built).registry (c.published .fillIfEmpty built).keepsakes) :
    (rearm env).Keeps (Lasting t R) := by
  intro s hs
  have hload := h.spares.abides.load .fillIfEmpty (fun s built hs hbuilt =>
    ⟨hs.1.published .fillIfEmpty nofun hbuilt, hs.2.1, hR s.core hs.2.2 built hbuilt⟩) s hs
  rcases hr : (load env .fillIfEmpty).run s with ⟨_ | _, s'⟩
  · rw [hr] at hload
    unfold MailSchedule.rearm
    rw [Act.run_bind, hr]
    exact hload
  · rw [hr] at hload
    rw [run_rearm_of_load hr]
    split
    · rw [Act.run_bind_pure_snd]
      exact h.point hload s'.clock
    · exact hload

/-! ## Handling messages among honest collaborators -/

/-- The operations of which messages consist do not set back the time of a check. -/
theorem operates (r : Registry) :
    env.Operates (Snapshot.Within t) (Lasting t fun r' _ => r.Grown r')
      (Lasting t fun r' _ => r.Grown r') := by
  have hfill : (load env .fillIfEmpty).Keeps (Lasting t fun r' _ => r.Grown r') :=
    h.spares.abides.load .fillIfEmpty fun s built hs hbuilt =>
      ⟨hs.1.published .fillIfEmpty nofun hbuilt, hs.2.1, hs.2.2.published .fillIfEmpty nofun built⟩
  have hremembered : ∀ (s : System ω) c, Lasting t (fun r' _ => r.Grown r') s →
      c.registry = s.core.registry → c.queue = s.core.queue →
      Lasting t (fun r' _ => r.Grown r') { s with core := c } := by
    intro s c hs hregistry hqueue
    refine ⟨hs.1.set_core ?_ ?_, hs.2.1, ?_⟩
    · rw [hregistry]
      exact hs.1.registry
    · rw [hqueue]
      exact fun _ hm => hm
    · dsimp only
      rw [hregistry]
      exact hs.2.2
  have hrearm : (MailSchedule.rearm env).Keeps (Lasting t fun r' _ => r.Grown r') :=
    h.rearm fun c hc built _ => hc.published .fillIfEmpty nofun built
  refine {
    toSpares := h.spares
    remembered := hremembered
    fill := hfill
    update := fun id unseen => h.spares.abides.update
      (fun s built hs hbuilt => ⟨hs.1.published (.one id) nofun hbuilt, hs.2.1,
        hs.2.2.published (.one id) nofun built⟩)
      fun s hs => hs.changed (Registry.entries_modify ..) fun e _ he => ?_
    restore := fun saved hsaved => hfill.bind fun _ s hs =>
      hs.changed (Registry.entries_restore ..) fun e _ he => ?_
    announce := fun id => Act.Keeps.announce id (fun _ _ _ => Act.Keeps.bind
      (keeps_record (by rintro _ ⟨rfl⟩; exact nofun)) fun _ => h.during _) fun s hs =>
        hs.changed (Registry.entries_modify ..) fun e _ he => ?_
    disarm := h.disarm
    armWatchdog := h.armWatchdog
    rearm := hrearm
    silent := fun _ hs => hs
    rememberedAfter := hremembered
    rearmAfter := hrearm }
  · split
    · have hprev : (e.2.checked s.clock unseen).prevSync = s.clock :=
        Report.scheduleFrom_prevSync ..
      unfold Report.Within
      rw [hprev]
      exact ⟨⟨hs.1.clock, Int.le_refl _⟩, he.2⟩
    · exact ⟨he, Int.le_refl _⟩
  · have htimes : ∀ x ∈ (saved.prevSyncTimes.filter fun p => p.1 = e.1).map (·.2),
        0 ≤ x ∧ x ≤ s.clock := by
      intro x hx
      obtain ⟨p, hp, rfl⟩ := List.mem_map.1 hx
      obtain ⟨hlow, hhigh⟩ := hsaved p (List.mem_filter.1 hp).1
      exact ⟨hlow, Int.le_trans hhigh hs.2.1⟩
    exact ⟨he.fill htimes, Report.prevSync_le_fill he htimes⟩
  · split <;> exact ⟨he, Int.le_refl _⟩

/-- Rebuilding leaves the times of those checks as they are whose accounts are still listed. -/
theorem refresh {r : Registry} :
    (refresh env).Leads (Lasting t fun r' _ => r' = r) (Lasting t fun r' _ => r.Later r') := by
  intro s hs
  have hkept : Lasting t (fun r' ks => r' = r ∧ ks = none :: s.core.keepsakes)
      { s with core := { s.core with keepsakes := none :: s.core.keepsakes } } :=
    ⟨hs.1.set_core hs.1.registry fun _ hm => hm, hs.2.1, hs.2.2, rfl⟩
  obtain ⟨s', ⟨htimely, htime, hregistry, hkeepsakes⟩, ⟨e, hr⟩ | ⟨built, hbuilt, hr⟩⟩ :=
    refresh_cases h.spares.abides hkept
  · rw [hr]
    refine ⟨htimely.set_core htimely.registry fun _ hm => hm, htime, ?_⟩
    dsimp only
    rw [hregistry]
    exact (Registry.Grown.refl r).later
  · have hrebuilt : (s'.core.rebuilt s.core.registry.ids built).registry =
        built.carryForward r := by
      rw [hs.2.2, ← hregistry]
      exact Core.registry_rebuilt hkeepsakes built
    rw [hr]
    refine ⟨htimely.set_core ?_ fun _ hm => hm, htime, ?_⟩
    · rw [hrebuilt]
      refine (hbuilt.within htimely.clock).carryForward ?_
      rw [← hregistry]
      exact htimely.registry
    · dsimp only
      rw [hrebuilt]
      exact hbuilt.later_carryForward r

/-- A message that has the registry rebuilt sets no time back, unless nothing is tracked before the
wake timer is set. -/
theorem handle_rebuild {m : Message} {act : Act ω Unit} (hact : rebuild env m = some act)
    {r : Registry} {s : System ω} (hs : Lasting t (fun r' _ => r' = r) s) :
    Lasting t (fun r' _ => r.Later r') ((handle env m).run s).2 ∨
      ((act.run s).2.core.registry.ids = [] ∧
        Lasting t (fun r' _ => ∀ e ∈ r'.entries, e.2.prevSync = neverChecked)
          ((handle env m).run s).2) := by
  have hlater : Lasting t (fun r' _ => r.Later r') (act.run s).2 := by
    refine h.spares.rebuild (R := fun _ => Lasting t fun r' _ => r.Later r')
      (fun e s hs => ⟨hs.1, hs.2.1, ?_⟩) h.refresh hact s hs
    rw [hs.2.2]
    exact (Registry.Grown.refl r).later
  rw [handle_of_rebuild hact, Act.run_bind]
  rcases hr : act.run s with ⟨_ | _, s'⟩
  · rw [hr] at hlater
    exact Or.inl hlater
  rw [hr] at hlater
  dsimp only
  rw [Act.run_bind_pure_snd]
  by_cases hids : s'.core.registry.ids = []
  · refine Or.inr ⟨hids, h.rearm (fun c _ built hbuilt => ?_) s' ⟨hlater.1, hlater.2.1, ?_⟩⟩
    · unfold Core.published
      dsimp only
      split
      · exact hbuilt.never
      · assumption
    · intro e he
      rw [List.map_eq_nil_iff.1 hids] at he
      cases he
  · refine Or.inl ?_
    have hkeeps : (MailSchedule.rearm env).Keeps
        (Lasting t fun r' _ => r.Later r' ∧ r'.ids ≠ []) := by
      refine h.rearm fun c hc built _ => ?_
      unfold Core.published
      dsimp only
      rw [if_neg fun hempty => hc.2 ((Registry.isEmpty_iff _).1 hempty)]
      exact hc
    obtain ⟨htimely, htime, hafter, -⟩ := hkeeps s' ⟨hlater.1, hlater.2.1, hlater.2.2, hids⟩
    exact ⟨htimely, htime, hafter⟩

/-- What surrounds the handling of a message does not matter. -/
theorem process {m : Message} {R' : Registry → List Keepsake → Prop} {s : System ω}
    (hhandle : Lasting t R' ((handle env m).run (s.begun env m)).2) :
    Lasting t R' ((process env m).run s).2 := by
  rw [run_process]
  rcases hr : (handle env m).run (s.begun env m) with ⟨_ | _, s'⟩
  · rw [hr] at hhandle
    exact h.spares.record (.ended m) nofun _ (h.spares.note (failureNotice m _) s' hhandle)
  · rw [hr] at hhandle
    exact h.spares.record (.ended m) nofun s' hhandle

theorem begun {s : System ω} (hs : Lasting t R s) (m : Message) : Lasting t R (s.begun env m) :=
  h.spares.record (.began m) nofun _ (h.spares.reconcile s hs)

end Surroundings.Honest

/-- Handling a message has the registry rebuilt, and nothing is tracked before the wake timer is
set. -/
def Emptied (env : Surroundings ω) (m : Message) (s : System ω) : Prop :=
  ∃ act, rebuild env m = some act ∧ (act.run (s.begun env m)).2.core.registry.ids = []

namespace Surroundings.Honest

variable {env : Surroundings ω} (h : env.Honest)
include h

/-- Handling a message that waits sets no time back.  The exception leaves accounts that count as
never checked. -/
theorem process_cases {s : System ω} (hs : s.Timely) {m : Message} {rest : List Message}
    (hqueue : s.core.queue = m :: rest) :
    Lasting s.clock (fun r' _ => s.core.registry.Later r')
        ((MailSchedule.process env m).run { s with core := { s.core with queue := rest } }).2 ∨
      (Emptied env m { s with core := { s.core with queue := rest } } ∧
        Lasting s.clock (fun r' _ => ∀ e ∈ r'.entries, e.2.prevSync = neverChecked)
          ((MailSchedule.process env m).run
            { s with core := { s.core with queue := rest } }).2) := by
  have hmem : ∀ m' ∈ rest, m' ∈ s.core.queue := by
    rw [hqueue]
    exact fun m' hm' => List.mem_cons_of_mem m hm'
  have hpopped : ∀ R : Registry → List Keepsake → Prop, R s.core.registry s.core.keepsakes →
      Lasting s.clock R { s with core := { s.core with queue := rest } } :=
    fun R hR => ⟨hs.set_core hs.registry hmem, Int.le_refl _, hR⟩
  cases hm : rebuild env m with
  | none =>
    refine Or.inl (h.process ?_)
    have hgrown := (h.operates (t := s.clock) s.core.registry).handle hm ?_ _
      (h.begun (hpopped _ (Registry.Grown.refl _)) m)
    · exact ⟨hgrown.1, hgrown.2.1, hgrown.2.2.later⟩
    · rintro account saved rfl
      refine hs.queue account saved ?_
      rw [hqueue]
      exact List.mem_cons_self
  | some act =>
    rcases h.handle_rebuild hm (h.begun (hpopped (fun r' _ => r' = s.core.registry) rfl) m) with
      hlater | ⟨hids, hnever⟩
    · exact Or.inl (h.process hlater)
    · exact Or.inr ⟨⟨act, hm, hids⟩, h.process hnever⟩

/-! ## The lives of pollers -/

theorem timely_after {s : System ω} (hs : s.Timely) {o : Occurrence ω} (ho : o.Honest s) :
    (o.after env s).Timely := by
  have hspares : env.Spares (Lasting s.clock fun _ _ => True) := h.spares
  have hstart : Lasting s.clock (fun _ _ => True) s := ⟨hs, Int.le_refl _, trivial⟩
  -- A snapshot of times that are past already may enter the queue later, too.
  have henter : ∀ m : Message, (∀ account saved, m = .checkRequested account (some saved) →
      saved.Within s.clock) → ∀ s' : System ω, Lasting s.clock (fun _ _ => True) s' →
      Lasting s.clock (fun _ _ => True)
        { s' with core := { s'.core with queue := s'.core.queue ++ [m] } } := by
    refine fun m hm s' hs' => ⟨hs'.1.enqueued fun account saved hmem => ?_, hs'.2⟩
    exact (hm account saved (List.mem_singleton.1 hmem).symm).mono hs'.2.1
  cases o with
  | submit m =>
    exact (hspares.submit (henter m fun account saved heq =>
      hs.within_of_armed (ho account saved heq)) s hstart).1
  | wake payload =>
    refine (hspares.wake (fun snapshot hsnapshot => henter _ fun account saved heq => ?_) s
      hstart).1
    rw [Snapshot.eq_of_message heq]
    rcases hsnapshot with hdecode | rfl
    · cases payload with
      | none =>
        cases hdecode
        exact nofun
      | some p =>
        obtain ⟨time, htime⟩ := ho p rfl
        obtain ⟨armed, rfl, hwithin⟩ := hs.armed time p htime
        rw [Snapshot.of_decode_encode hdecode]
        exact hwithin
    · exact nofun
  | resetCounts target =>
    refine (hspares.resetCounts target (fun s' hs' => ⟨hs'.1.set_core ?_ fun _ hm => hm, hs'.2⟩) s
      hstart).1
    refine hs'.1.registry.of_entries
      (g := fun e => if covers target e.2.account then e.2.clearCounts else e.2)
      (show (s'.core.registry.clearCounts target).entries = _ from rfl) fun e _ he => ?_
    split <;> exact he
  | next =>
    cases hqueue : s.core.queue with
    | nil =>
      rw [after_next_nil env hqueue]
      exact hs
    | cons m rest =>
      rw [after_next_cons env hqueue]
      rcases h.process_cases hs hqueue with hlater | ⟨-, hnever⟩
      · exact hlater.1
      · exact hnever.1
  | elapse clock world => exact hs.elapsed ho world

end Surroundings.Honest

/-- At no point of its life does a poller know of times that lie in the future. -/
theorem Lived.timely {env : Surroundings ω} (h : env.Honest) {s : System ω} (hs : Lived env s) :
    s.Timely := by
  induction hs with
  | start clock world hclock =>
    refine ⟨?_, Registry.within_empty _, fun _ _ hmem => absurd hmem List.not_mem_nil,
      fun _ _ hmem => absurd hmem List.not_mem_nil⟩
    show 0 ≤ clock
    omega
  | occur o _ ho ih => exact h.timely_after ih ho
  | restart _ ih =>
    exact ih.set_core (Registry.within_empty _) fun _ hm => absurd hm List.not_mem_nil
  | close _ ih => exact ih.set_core (Registry.within_empty _) fun _ hm => hm

/-- No time of a check lies in the future, and handling a message sets back the time of no account
that is tracked before and after, but for one exception: when the registry is rebuilt and nothing is
tracked before the wake timer is set, accounts that are tracked afterwards count as never
checked. -/
theorem Lived.times_run_forward {env : Surroundings ω} (h : env.Honest) {s : System ω}
    (hs : Lived env s) :
    (∀ report ∈ s.core.registry.reports, 0 ≤ report.prevSync ∧ report.prevSync ≤ s.clock) ∧
      ∀ m rest, s.core.queue = m :: rest → ∀ id report report',
        s.core.registry.find? id = some report →
        (Occurrence.next.after env s).core.registry.find? id = some report' →
        report.prevSync ≤ report'.prevSync ∨
          (Emptied env m { s with core := { s.core with queue := rest } } ∧
            report'.prevSync = neverChecked) := by
  have htimely := hs.timely h
  refine ⟨fun report hreport => ?_, fun m rest hqueue id report report' hfind hfind' => ?_⟩
  · obtain ⟨e, he, rfl⟩ := List.mem_map.1 hreport
    exact htimely.registry e he
  · rw [after_next_cons env hqueue] at hfind'
    rcases h.process_cases htimely hqueue with ⟨-, -, hlater⟩ | ⟨hemptied, -, -, hnever⟩
    · exact Or.inl (hlater id report report' hfind hfind')
    · exact Or.inr ⟨hemptied, hnever _ (Registry.mem_of_find? hfind')⟩

/-! ## Rebuilding with and without accounts -/

namespace Rehearsal

theorem honest_inMemory : inMemory.Honest where
  core c s := by
    refine ⟨[], ?_, fun _ hm => absurd hm List.not_mem_nil⟩
    show (((surroundings {} 1 0).during c).run s).2.core = _
    rw [run_during, List.append_nil]
  clock c s := by
    have hsame : (((surroundings {} 1 0).during c).run s).2.clock = s.clock := by rw [run_during]
    exact Int.le_of_eq hsame.symm
  arms c s time payload hmem := by
    change _ ∈ (((surroundings {} 1 0).during c).run s).2.journal at hmem
    rw [run_during] at hmem
    exact hmem

/-- A check has ended, a minute has passed, and the accounts may have changed. -/
def beforeRebuild : System World :=
  Occurrence.course inMemory { clock := 1000000, world := twoAccountsWorld }
    [.submit (.checkComplete 1 none none), .next, .elapse 1060000 twoAccountsWorld,
      .submit .rescheduleRequested]

/-- While the accounts stay listed, rebuilding the registry keeps the time of the check. -/
theorem times_run_forward_beforeRebuild :
    (∀ report ∈ beforeRebuild.core.registry.reports,
        0 ≤ report.prevSync ∧ report.prevSync ≤ beforeRebuild.clock) ∧
      ∃ report report', beforeRebuild.core.registry.find? 1 = some report ∧
        (Occurrence.next.after inMemory beforeRebuild).core.registry.find? 1 = some report' ∧
        report.prevSync ≤ report'.prevSync := by
  have hlived : Lived inMemory beforeRebuild := by
    refine .occur (.submit .rescheduleRequested) (.occur (.elapse 1060000 twoAccountsWorld)
      (.occur .next (.occur (.submit (.checkComplete 1 none none)) (.start 1000000 twoAccountsWorld
        (by decide)) ?_) trivial) ?_) ?_
    · exact nofun
    · show (_ : Int) ≤ 1060000
      decide +kernel
    · exact nofun
  have hafter : ((Occurrence.next.after inMemory beforeRebuild).core.registry.find? 1).map
      (·.prevSync) = some 1000000 := by
    decide +kernel
  have hbefore : (beforeRebuild.core.registry.find? 1).isSome = true := by decide +kernel
  obtain ⟨report, hfind⟩ := Option.isSome_iff_exists.1 hbefore
  obtain ⟨report', hfind', hprev⟩ := Option.map_eq_some_iff.1 hafter
  obtain ⟨hbounds, hlater⟩ := hlived.times_run_forward honest_inMemory
  refine ⟨hbounds, report, report', hfind, hfind', ?_⟩
  rcases hlater .rescheduleRequested [] rfl 1 report report' hfind hfind' with hle | ⟨-, hnever⟩
  · exact hle
  · rw [hnever] at hprev
    cases hprev

/-- Collaborators whose accounts change each time they are listed: what is listed next comes
first. -/
def fickle : Surroundings (List (List Account.Draft)) where
  policy := {}
  source := {
    list := fun w => (.ok (w.headD []), w.tail)
    get := fun _ w => (.ok none, w)
    isSyncEnabled := fun _ w => (.ok true, w)
    count := fun _ w => (.ok none, w)
    resetCount := fun _ w => (.ok (), w)
    idsWithProtocol := fun _ w => (.ok [], w) }
  checker := { inbox := fun _ _ => none, delete := fun _ w => (.ok (), w) }
  reconciles := false
  backgroundData := none
  during := fun _ => pure ()

theorem honest_fickle : fickle.Honest where
  core c s := ⟨[], by rw [List.append_nil]; rfl, fun _ hm => absurd hm List.not_mem_nil⟩
  clock c s := Int.le_refl s.clock
  arms c s time payload hmem := hmem

/-- A check has ended, and the accounts may have changed.  They will be listed twice: the first time
there is none, and the second time they are as they were. -/
def beforeFickleRebuild : System (List (List Account.Draft)) :=
  Occurrence.course fickle
    { clock := 1000000, world := [twoAccounts.accounts, [], twoAccounts.accounts] }
    [.submit (.checkComplete 1 none none), .next, .submit .rescheduleRequested]

/-- An account that is not listed while the registry is rebuilt, and is listed again when the wake
timer is set, is tracked before and after, and has lost the time of its check. -/
theorem times_run_backwards :
    fickle.Honest ∧ Lived fickle beforeFickleRebuild ∧
      ¬∀ m rest, beforeFickleRebuild.core.queue = m :: rest → ∀ id report report',
        beforeFickleRebuild.core.registry.find? id = some report →
        (Occurrence.next.after fickle beforeFickleRebuild).core.registry.find? id = some report' →
        report.prevSync ≤ report'.prevSync := by
  refine ⟨honest_fickle, ?_, fun hall => ?_⟩
  · refine .occur (.submit .rescheduleRequested) (.occur .next (.occur
      (.submit (.checkComplete 1 none none)) (.start 1000000 _ (by decide)) ?_) trivial) ?_
    · exact nofun
    · exact nofun
  · have hfirst : (beforeFickleRebuild.core.registry.find? 1).map (·.prevSync) = some 1000000 := by
      decide +kernel
    have hsecond : ((Occurrence.next.after fickle beforeFickleRebuild).core.registry.find? 1).map
        (·.prevSync) = some 0 := by
      decide +kernel
    obtain ⟨report, hfind, hprev⟩ := Option.map_eq_some_iff.1 hfirst
    obtain ⟨report', hfind', hprev'⟩ := Option.map_eq_some_iff.1 hsecond
    have hle := hall .rescheduleRequested [] rfl 1 report report' hfind hfind'
    omega

end Rehearsal

end MailSchedule
