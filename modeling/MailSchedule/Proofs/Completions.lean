import MailSchedule.Proofs.CheckTimes
import MailSchedule.Proofs.Ledgers
import MailSchedule.Proofs.OpenChecks

/-!
# What the end of a check announces

While a check is under way its inbox may report that it is done, with a count of new messages, which
is announced at once.  The end of the check announces its own count unless it is the one that was
announced last in this way, since the check was requested or another one ended.

Results:

* `Occurrence.turns`: the messages handled in a course of events, each with the system in which its
  handler starts.
* `latestTick`: the count announced last while the check of an account is under way, as the messages
  handled have it.
* `Surroundings.Dependable.told_course`: the poller remembers exactly this count.
* `Surroundings.Discreet.posted_complete`: what the end of a check announces and records.
* `completion_announced_iff`: all of this for the end of a check in a course of events.
-/

namespace MailSchedule

variable {ω : Type}

/-! ## Turns -/

/-- The next message that waits, and the system in which its handler starts. -/
def System.turn? (env : Surroundings ω) (s : System ω) : Option (Message × System ω) :=
  match s.core.queue with
  | [] => none
  | m :: rest => some (m, System.begun env m { s with core := { s.core with queue := rest } })

theorem System.turn?_of_queue (env : Surroundings ω) {s : System ω} {m : Message}
    {rest : List Message} (h : s.core.queue = m :: rest) : s.turn? env =
      some (m, System.begun env m { s with core := { s.core with queue := rest } }) := by
  unfold turn?
  rw [h]

theorem System.turn?_eq_some {env : Surroundings ω} {s begun : System ω} {m : Message}
    (h : s.turn? env = some (m, begun)) : ∃ rest, s.core.queue = m :: rest ∧
      begun = System.begun env m { s with core := { s.core with queue := rest } } := by
  unfold turn? at h
  cases hqueue : s.core.queue with
  | nil =>
    rw [hqueue] at h
    cases h
  | cons next rest =>
    rw [hqueue] at h
    cases h
    exact ⟨rest, rfl, rfl⟩

namespace Occurrence

/-- The message that is handled, if one is, and the system in which its handler starts. -/
def turn? (env : Surroundings ω) (s : System ω) : Occurrence ω → Option (Message × System ω)
  | next => s.turn? env
  | _ => none

/-- The messages handled in a course of events, each with the system in which its handler starts. -/
def turns (env : Surroundings ω) (s : System ω) : List (Occurrence ω) → List (Message × System ω)
  | [] => []
  | o :: os => (o.turn? env s).toList ++ turns env (o.after env s) os

end Occurrence

/-! ## Ticks -/

/-- The mailbox that is found when somebody asks for the inbox of an account. -/
def inboxFound (env : Surroundings ω) (id : Int) (s : System ω) : Option Int :=
  match (Act.run (findInbox env id) s).1 with
  | .ok inbox => inbox
  | .error _ => none

/-- What a message tells about the count that was announced last while the check of an account is
under way: none if a check is requested or has ended, or the count with which its inbox is done. -/
def Message.tick? (env : Surroundings ω) (a : Int) (s : System ω) : Message → Option (Option Int)
  | .checkRequested account _ => if account = some a then some none else none
  | .checkComplete id _ _ => if id = a then some none else none
  | .checkProgress id mailbox progress _ count =>
    if id = a ∧ progress = progressDone ∧ inboxFound env id s = some mailbox ∧ count.getD 0 ≠ 0 then
      some (some (count.getD 0))
    else none
  | _ => none

/-- The count that was announced last while the check of an account is under way, as the messages
handled in a course of events have it. -/
def latestTick (env : Surroundings ω) (s : System ω) (os : List (Occurrence ω)) (a : Int) :
    Option Int :=
  ((Occurrence.turns env s os).filterMap fun turn => turn.1.tick? env a turn.2).getLast?.join

/-! ## What is remembered of ticks -/

/-- The account whose check a message is about. -/
def Message.check? : Message → Option Int
  | .checkRequested account _ => account
  | .checkProgress id _ _ _ _ => some id
  | .checkComplete id _ _ => some id
  | _ => none

namespace Message

variable (env : Surroundings ω) {a mailbox progress : Int} (error : Option Fault)
  {count : Option Int} (s : System ω)

theorem tick?_checkRequested (a : Int) (snapshot : Option Snapshot) :
    (checkRequested (some a) snapshot).tick? env a s = some none := if_pos rfl

theorem tick?_checkComplete (a : Int) (count : Option Int) :
    (checkComplete a count error).tick? env a s = some none := if_pos rfl

theorem tick?_checkProgress (hdone : progress = progressDone)
    (hinbox : inboxFound env a s = some mailbox) (hcount : count.getD 0 ≠ 0) :
    (checkProgress a mailbox progress error count).tick? env a s = some (some (count.getD 0)) :=
  if_pos ⟨rfl, hdone, hinbox, hcount⟩

theorem tick?_checkProgress_of_not (hno : ¬(progress = progressDone ∧
      inboxFound env a s = some mailbox ∧ count.getD 0 ≠ 0)) :
    (checkProgress a mailbox progress error count).tick? env a s = none :=
  if_neg fun htick => hno htick.2

end Message

theorem Message.tick?_of_check_ne {m : Message} {a : Int} (h : m.check? ≠ some a)
    (env : Surroundings ω) (s : System ω) : m.tick? env a s = none := by
  cases m with
  | checkRequested account snapshot => exact if_neg h
  | checkProgress id mailbox progress error count =>
    exact if_neg fun htick => h (congrArg some htick.1)
  | checkComplete id count error => exact if_neg fun hid => h (congrArg some hid)
  | _ => rfl

/-- Something is remembered of what was announced while checks are under way. -/
def Remembers (T : List (Int × Int) → Prop) (s : System ω) : Prop := T s.core.announced

/-- The count remembered of an account. -/
abbrev Remembered (a : Int) (x : Option Int) : System ω → Prop := Remembers (·.lookup a = x)

/-- Something holds of a system unless the action that led there has failed. -/
def UnlessFailed {α : Type} (Q : System ω → Prop) (r : Except Fault α) (s : System ω) : Prop :=
  r.isOk = true → Q s

namespace Surroundings.StaysOut

variable {env : Surroundings ω} (h : env.StaysOut)
include h

theorem respects_remembers (T : List (Int × Int) → Prop) : env.Respects (Remembers T) :=
  h.respects_core (R := fun c => T c.announced) fun _ _ hc => hc

theorem overlooks_remembers (T : List (Int × Int) → Prop) : env.Overlooks (Remembers T) where
  toAbides := (h.respects_remembers T).spares.abides
  tracked _ _ _ hs := hs

theorem announce_remembers (T : List (Int × Int) → Prop) (id : Int) :
    (announce env id).Keeps (Remembers T) := (h.respects_remembers T).announce id fun _ hs => hs

theorem armWatchdog_remembers (T : List (Int × Int) → Prop) (id : Int) :
    (armWatchdog env id).Keeps (Remembers T) :=
  (h.respects_remembers T).armWatchdog (fun _ _ hs => hs) id

theorem rearm_remembers (T : List (Int × Int) → Prop) :
    Act.Keeps (do let _ ← rearm env) (Remembers T) :=
  Act.Keeps.bind ((h.respects_remembers T).rearm (fun _ _ hs => hs)
    ((h.overlooks_remembers T).load .fillIfEmpty)) fun _ => .pure _

variable {a : Int}

/-- A message that is not about the check of an account leaves alone what is remembered of it. -/
theorem handle_other {m : Message} (hm : m.check? ≠ some a) (x : Option Int) :
    (handle env m).Keeps (Remembered a x) := by
  have hne : ∀ id, m.check? = some id → a ≠ id := by
    rintro id hid rfl
    exact hm hid
  have hsustains : env.Sustains m (Remembered a x) (Remembered a x) := {
    toAbides := (h.overlooks_remembers _).toAbides
    opened := fun id saved heq s hs => by
      show (s.core.openCheck id).announced.lookup a = x
      rw [Core.lookup_announced_openCheck, if_neg (hne id (by rw [heq]; rfl))]
      exact hs
    ended := fun id count error heq s hs => by
      show (s.core.endCheck id).announced.lookup a = x
      rw [Core.lookup_announced_endCheck, if_neg (hne id (by rw [heq]; rfl))]
      exact hs
    told := fun id mailbox progress error count heq s hs => by
      show (s.core.tell id (count.getD 0)).announced.lookup a = x
      rw [Core.lookup_announced_tell, if_neg (hne id (by rw [heq]; rfl))]
      exact hs
    fill := (h.overlooks_remembers _).load .fillIfEmpty
    restore := fun _ _ _ => (h.overlooks_remembers _).restore _
    refresh := fun _ _ => (h.overlooks_remembers _).refresh
    update := fun id unseen _ _ => (h.overlooks_remembers _).update id unseen
    armWatchdog := fun id _ _ => h.armWatchdog_remembers _ id
    disarm := fun _ => (h.respects_remembers _).spares.abides.disarm fun _ _ hs => hs
    announce := fun id _ => h.announce_remembers _ id
    silent := fun _ hs => hs
    rearmAfter :=
      (h.respects_remembers _).rearm (fun _ _ hs => hs) ((h.overlooks_remembers _).load .fillIfEmpty) }
  exact hsustains.handle

/-- What was announced is forgotten before a check is started. -/
theorem checkAccount_forgets :
    (checkAccount env a).Leads (fun _ => True) (Remembered a none) := by
  have hopened : (openCheck env a).Leads (fun _ => True) (Remembered a none) := by
    refine Act.Leads.bind (R := Remembered a none) (fun s _ => ?_) (fun _ hs => hs) fun _ =>
      (h.armWatchdog_remembers _ a).bind fun _ => .pure _
    show (s.core.openCheck a).announced.lookup a = none
    rw [Core.lookup_announced_openCheck, if_pos rfl]
  refine hopened.bind (fun _ hs => hs) fun _ => ?_
  exact ((h.respects_remembers _).spares.tryStart a).bind fun _ =>
    .ite (((h.overlooks_remembers _).update a none).bind fun _ => h.rearm_remembers _) (.pure _)

/-- It is forgotten when the check has ended, too. -/
theorem handleComplete_forgets (count : Option Int) (error : Option Fault) :
    (handleComplete env a count error).Leads (fun _ => True) (Remembered a none) := by
  refine Act.Yields.bind_leads (R := fun _ _ => True) (fun s _ => ⟨s.core, s, rfl, trivial⟩)
    fun _ => ?_
  refine Act.Yields.bind_leads (R := fun _ => Remembered a none) (fun s _ => ⟨(), _, rfl, ?_⟩)
    fun _ => ?_
  · show (s.core.endCheck a).announced.lookup a = none
    rw [Core.lookup_announced_endCheck, if_pos rfl]
  refine Act.Keeps.bind ((h.overlooks_remembers _).load .fillIfEmpty) fun _ => ?_
  cases error with
  | some e =>
    exact ((h.respects_remembers _).spares.note _).bind fun _ =>
      ((h.overlooks_remembers _).update a none).bind fun _ => h.rearm_remembers _
  | none =>
    cases count with
    | none => exact ((h.overlooks_remembers _).update a none).bind fun _ => h.rearm_remembers _
    | some n =>
      exact ((h.overlooks_remembers _).update a (some n)).bind fun _ =>
        .ite ((h.announce_remembers _ a).bind fun _ => h.rearm_remembers _) (h.rearm_remembers _)

/-- A tick is remembered, and other reports of progress are not. -/
theorem handleProgress_tick (mailbox progress : Int) (error : Option Fault) (count : Option Int)
    (s : System ω) :
    (handleProgress env a mailbox progress error count).Ends (· = s) (UnlessFailed (Remembered a
      (((Message.checkProgress a mailbox progress error count).tick? env a s).getD
        (s.core.announced.lookup a)))) := by
  -- Where there is no tick the count is the one that was remembered before.
  have hnone (hno : ¬(progress = progressDone ∧ inboxFound env a s = some mailbox ∧
      count.getD 0 ≠ 0)) : ((Message.checkProgress a mailbox progress error count).tick? env a
        s).getD (s.core.announced.lookup a) = s.core.announced.lookup a := by
    rw [Message.tick?_checkProgress_of_not env error s hno, Option.getD_none]
  refine .ite (fun hskip => ?_) fun _ => ?_
  · have hdone : progress ≠ progressDone := by
      rintro rfl
      simp at hskip
    rw [hnone fun htick => hdone htick.1]
    intro _ hs _
    rw [hs]
    rfl
  intro s' hs
  rw [hs, Act.run_bind]
  have hasked := (h.respects_remembers (·.lookup a = s.core.announced.lookup a)).spares.findInbox a
    s rfl
  rcases hr : (findInbox env a).run s with ⟨_ | inbox, s'⟩
  · exact nofun
  rw [hr] at hasked
  have hfound : inboxFound env a s = inbox := by
    unfold inboxFound
    rw [hr]
  refine (show Act.Ends _ (Remembered a (s.core.announced.lookup a)) _ from ?_) s' hasked
  refine .ite (fun hother => ?_) fun hinbox => .ite (fun hdone => ?_) fun hdone => ?_
  · rw [hnone fun htick => bne_iff_ne.1 hother (hfound.symm.trans htick.2.1)]
    exact fun _ hs _ => hs
  · refine .bind ((h.overlooks_remembers _).update a count) (fun _ _ _ => nofun) fun _ => .ite (fun hsome => ?_)
      fun hzero => ?_
    · refine .bind (h.announce_remembers _ a) (fun _ _ _ => nofun) fun _ s'' _ _ => ?_
      rw [Message.tick?_checkProgress env error s hdone (hfound.trans (by simpa using hinbox))
        (bne_iff_ne.1 hsome)]
      show (s''.core.tell a (count.getD 0)).announced.lookup a = _
      rw [Core.lookup_announced_tell, if_pos rfl, Option.getD_some]
    · rw [hnone fun htick => hzero (bne_iff_ne.2 htick.2.2)]
      exact fun _ hs _ => hs
  · rw [hnone fun htick => hdone htick.1]
    exact .bind ((h.overlooks_remembers _).update a none) (fun _ _ _ => nofun) fun _ _ hs _ => hs

end Surroundings.StaysOut

/-! ## Courses of events -/

namespace Surroundings.Dependable

variable {env : Surroundings ω} {I : ω → Prop} (h : env.Dependable I)
include h

/-- What was announced is forgotten when a check is requested, as nothing fails before. -/
theorem handleCheck_forgets {t a : Int} (snapshot : Option Snapshot) :
    (MailSchedule.handleCheck env (some a) snapshot).Leads (Steady I (fun _ _ _ => True) t)
      (Remembered a none) := by
  rw [handleCheck_eq]
  exact (h.catchUp snapshot (X := fun _ _ => True)).bind_leads fun _ s _ =>
    h.staysOut.checkAccount_forgets s trivial

/-- Handling a message remembers what the message tells. -/
theorem handle_tick {t : Int} (a : Int) (m : Message) {s : System ω}
    (hs : Steady I (fun _ _ _ => True) t s) :
    Remembered a ((m.tick? env a s).getD (s.core.announced.lookup a))
      ((MailSchedule.handle env m).run s).2 := by
  by_cases hcheck : m.check? = some a
  · cases m with
    | checkRequested account snapshot =>
      cases hcheck
      rw [Message.tick?_checkRequested, Option.getD_some]
      exact h.handleCheck_forgets snapshot s hs
    | checkProgress id mailbox progress error count =>
      cases hcheck
      obtain ⟨_, s', hr, -⟩ := h.handleProgress a mailbox progress error count s
        ⟨hs.world, hs.clock, rfl, rfl⟩
      exact h.staysOut.handleProgress_tick mailbox progress error count s s rfl (by rw [hr]; rfl)
    | checkComplete id count error =>
      cases hcheck
      rw [Message.tick?_checkComplete, Option.getD_some]
      exact h.staysOut.handleComplete_forgets count error s trivial
    | _ => cases hcheck
  · rw [Message.tick?_of_check_ne hcheck, Option.getD_none]
    exact h.staysOut.handle_other hcheck _ s rfl

/-- Whatever happens, the poller remembers the count that was announced last while the check of an
account is under way. -/
theorem after_tick {s : System ω} (hs : I s.world) (o : Occurrence ω) (a : Int) :
    (o.after env s).core.announced.lookup a =
      ((o.turn? env s).bind fun turn => turn.1.tick? env a turn.2).getD
        (s.core.announced.lookup a) := by
  have hrespects := h.staysOut.respects_remembers (·.lookup a = s.core.announced.lookup a)
  cases o with
  | submit m => exact hrespects.spares.submit (fun _ hs => hs) s rfl
  | wake payload => exact hrespects.spares.wake (fun _ _ _ hs => hs) s rfl
  | resetCounts target => exact hrespects.spares.resetCounts target (fun _ hs => hs) s rfl
  | elapse clock world => rfl
  | next =>
    unfold Occurrence.turn? System.turn?
    cases hqueue : s.core.queue with
    | nil =>
      rw [after_next_nil env hqueue]
      rfl
    | cons m rest =>
      rw [after_next_cons env hqueue]
      let taken : System ω := { s with core := { s.core with queue := rest } }
      have hbegun : Remembered a (s.core.announced.lookup a) (taken.begun env m) :=
        hrespects.spares.reconcile taken rfl
      have htick := h.handle_tick a m
        (h.begun (t := s.clock) (s := taken) ⟨hs, Int.le_refl _, trivial⟩ m)
      obtain ⟨j, hj⟩ := process_snd env m taken
      rw [hj]
      show _ = (m.tick? env a (taken.begun env m)).getD _
      rw [← show (taken.begun env m).core.announced.lookup a = s.core.announced.lookup a from
        hbegun]
      exact htick

/-- The poller remembers exactly the count that was announced last while the check of an account is
under way.  The induction is on the course of events. -/
theorem announced_course {os : List (Occurrence ω)} (hos : ∀ o ∈ os, o.Within I) {s : System ω}
    (hs : I s.world) (a : Int) :
    I (Occurrence.course env s os).world ∧
      (Occurrence.course env s os).core.announced.lookup a =
        ((Occurrence.turns env s os).filterMap
          fun turn => turn.1.tick? env a turn.2).getLast?.getD (s.core.announced.lookup a) := by
  induction os generalizing s with
  | nil => exact ⟨hs, rfl⟩
  | cons o os ih =>
    have hafter := h.after_completed (hos o List.mem_cons_self) hs
    have hrest := ih (fun p hp => hos p (List.mem_cons_of_mem o hp)) hafter.1
    have hturn : ((o.turn? env s).toList.filterMap
        fun turn => turn.1.tick? env a turn.2).getLast? =
        (o.turn? env s).bind fun turn => turn.1.tick? env a turn.2 := by
      cases o.turn? env s with
      | none => rfl
      | some turn => cases htick : turn.1.tick? env a turn.2 <;> simp [htick]
    refine ⟨hrest.1, ?_⟩
    show (Occurrence.course env (o.after env s) os).core.announced.lookup a = _
    unfold Occurrence.turns
    rw [hrest.2, h.after_tick hs o a, List.filterMap_append, List.getLast?_append, hturn,
      Option.getD_or]

end Surroundings.Dependable

/-! ## The end of a check -/

/-- The system when the accounts were loaded that the end of a check needs. -/
def System.loadedFor (env : Surroundings ω) (a : Int) (s : System ω) : System ω :=
  (Act.run (do load env .fillIfEmpty; load env (.one a))
    { s with core := s.core.endCheck a }).2

/-- The report of an account has a count if it is tracked, and it is tracked unless the count is
zero. -/
structure Registry.Counts (r : Registry) (a k : Int) : Prop where
  tracked : k ≠ 0 → r.contains a = true
  unseen : ∀ report, r.find? a = some report → report.unseen = k

namespace Registry.Counts

variable {r : Registry} {a k : Int}

/-- What is filled in when nothing is tracked has no messages counted. -/
theorem published {c : Core} (h : c.registry.Counts a k) {built : Registry}
    (hbuilt : built.Unchecked) : (c.published .fillIfEmpty built).registry.Counts a k := by
  unfold Core.published
  dsimp only
  split
  · rename_i hempty
    have hk : k = 0 := by
      by_contra hne
      obtain ⟨report, hreport⟩ := Option.isSome_iff_exists.1 (h.tracked hne)
      rw [find?_of_isEmpty hempty] at hreport
      cases hreport
    rw [hk]
    exact ⟨fun hne => absurd rfl hne, fun report hfind =>
      (hbuilt.uncounted _ (mem_of_find? hfind)).1⟩
  · exact h

/-- Announcing changes no count. -/
theorem announced (h : r.Counts a k) :
    (r.modify a fun report => { report with lastUnseen := report.unseen }).Counts a k where
  tracked hne := by
    rw [contains, find?_modify, if_pos rfl, Option.isSome_map]
    exact h.tracked hne
  unseen report hfind := by
    rw [find?_modify, if_pos rfl] at hfind
    obtain ⟨old, hold, rfl⟩ := Option.map_eq_some_iff.1 hfind
    exact h.unseen old hold

end Registry.Counts

/-- An account that is recorded as checked has the count that was given, if it is tracked. -/
theorem System.counts_checkedNow (s : System ω) (a n : Int) :
    (s.checkedNow a (some n)).core.registry.Counts a
      (if s.core.registry.contains a = true then n else 0) := by
  constructor
  · intro hne
    unfold Registry.contains
    rw [System.find?_checkedNow, Option.isSome_map]
    by_contra hno
    exact hne (if_neg hno)
  · intro report hreport
    rw [System.find?_checkedNow] at hreport
    obtain ⟨old, hold, rfl⟩ := Option.map_eq_some_iff.1 hreport
    rw [if_pos (Registry.contains_of_find? hold)]
    rfl

/-- Its new mail can be announced if it is tracked and wants that. -/
theorem System.newMail?_checkedNow (s : System ω) (a : Int) {n : Int} (hn : n ≠ 0) :
    (s.checkedNow a (some n)).core.registry.newMail? a ≠ none ↔
      ∃ report, s.core.registry.find? a = some report ∧ report.notify = true := by
  unfold Registry.newMail?
  rw [System.find?_checkedNow]
  cases s.core.registry.find? a with
  | none => simp
  | some report => simp [Report.checked, hn]

/-- Once the accounts are loaded, the end of a check records its count, announces it unless it was
announced before, and sets the wake timer. -/
theorem run_handleComplete {env : Surroundings ω} {a n : Int} {s : System ω}
    (hload : (Act.run (do load env .fillIfEmpty; load env (.one a))
      { s with core := s.core.endCheck a }).1 = .ok ()) :
    (handleComplete env a (some n) none).run s =
      Act.run (if 0 < n && s.core.announced.lookup a != some n then do
          let _ ← announce env a
          let _ ← rearm env
        else do let _ ← rearm env) ((s.loadedFor env a).checkedNow a (some n)) := by
  have hstart : (handleComplete env a (some n) none).run s = Act.run (do
      load env .fillIfEmpty
      let _ ← update env a (some n)
      if 0 < n && s.core.announced.lookup a != some n then do
        let _ ← announce env a
        let _ ← rearm env
      else do let _ ← rearm env) { s with core := s.core.endCheck a } := rfl
  rw [hstart]
  unfold System.loadedFor
  rw [Act.run_bind] at hload
  rw [Act.run_bind, Act.run_bind]
  rcases hfill : (load env .fillIfEmpty).run { s with core := s.core.endCheck a } with ⟨_ | _, s1⟩
  · rw [hfill] at hload
    cases hload
  rw [hfill] at hload
  dsimp only at hload ⊢
  rw [Act.run_bind, run_update]
  rcases hone : (load env (.one a)).run s1 with ⟨_ | _, s2⟩
  · rw [hone] at hload
    cases hload
  rfl

namespace Surroundings.Discreet

variable {env : Surroundings ω} (h : env.Discreet) {a k : Int} {l : List NewMail}
include h

theorem rearm_counts :
    (MailSchedule.rearm env).Keeps (Posted fun r l' => r.Counts a k ∧ l' = l) := by
  refine (h.spares _).abides.rearm (fun _ _ => h.call _ nofun) (fun _ _ hs => hs) ?_
  exact (h.spares _).abides.load .fillIfEmpty fun s _ hs hbuilt =>
    ⟨hs.1.published (c := s.core) hbuilt, hs.2⟩

/-- What there is to announce is announced under a condition, and then the wake timer is set. -/
theorem posted_announce_rearm (c : Bool) {s : System ω} (hs : s.core.registry.Counts a k) :
    Posted (fun r l' => r.Counts a k ∧
        l' = (if c then (s.core.registry.newMail? a).toList else []) ++ announcements s.journal)
      (Act.run (if c then do
          let _ ← MailSchedule.announce env a
          let _ ← MailSchedule.rearm env
        else do let _ ← MailSchedule.rearm env) s).2 := by
  have hrearm : ∀ l, Act.Keeps (do let _ ← MailSchedule.rearm env)
      (Posted fun r l' => r.Counts a k ∧ l' = l) := fun l =>
    h.rearm_counts.bind fun _ => .pure _
  cases c with
  | false => exact hrearm _ s ⟨hs, rfl⟩
  | true =>
    refine Act.Leads.bind (P := (· = s)) ?_ (fun _ hs => hs) (fun _ => hrearm _) s rfl
    rintro _ rfl
    refine h.posted_announce (fun hnone => ?_) fun mail hmail => ?_
    · rw [if_pos rfl, hnone]
      exact ⟨hs, rfl⟩
    · rw [if_pos rfl, hmail]
      exact ⟨hs.announced, rfl⟩

/-- Loading for the end of a check announces nothing. -/
theorem announcements_loadedFor (a : Int) (s : System ω) :
    announcements (s.loadedFor env a).journal = announcements s.journal := by
  have hload : ∀ mode, (MailSchedule.load env mode).Keeps
      (Posted fun _ l => l = announcements s.journal) := fun mode =>
    (h.spares _).abides.load mode fun _ _ hs _ => hs
  exact (hload .fillIfEmpty).bind (fun _ => hload (.one a))
    { s with core := s.core.endCheck a } rfl

end Surroundings.Discreet

/-- Among dependable collaborators it does not fail. -/
theorem Surroundings.Dependable.load_endCheck {env : Surroundings ω} {I : ω → Prop}
    (h : env.Dependable I) {s : System ω} (hs : I s.world) (a : Int) :
    (Act.run (do MailSchedule.load env .fillIfEmpty; MailSchedule.load env (.one a))
      { s with core := s.core.endCheck a }).1 = .ok () := by
  obtain ⟨_, s1, hr1, h1⟩ := h.load_aside .fillIfEmpty (X := fun _ _ => True) (t := s.clock)
    { s with core := s.core.endCheck a } ⟨hs, Int.le_refl _, trivial⟩
  obtain ⟨_, s2, hr2, -⟩ := h.load_aside (.one a) s1 h1
  rw [Act.run_bind, hr1]
  dsimp only
  rw [hr2]

/-! ## The result -/

/-- The end of a check with a count that is not zero is handled in a course of events that begins
with nothing remembered.  New mail of the account is announced if and only if, once what is needed
is loaded, the account is tracked and wants that, and the count was not announced last while its
check was under way; nothing else is announced.  Announced or not, an account that was tracked then
has this count afterwards.  One that has come to be tracked only when the wake timer was set has
none. -/
theorem completion_announced_iff {env : Surroundings ω} {I : ω → Prop} (h : env.Dependable I)
    (hdiscreet : env.Discreet) {s : System ω} (hs : I s.world) (hcore : s.core = {})
    {os : List (Occurrence ω)} (hos : ∀ o ∈ os, o.Within I) {a n : Int} (hn : 0 < n)
    {begun : System ω}
    (hturn : (Occurrence.course env s os).turn? env =
      some (.checkComplete a (some n) none, begun)) :
    let before := Occurrence.course env s os
    let loaded := begun.loadedFor env a
    let after := Occurrence.next.after env before
    ∃ shown, announcements after.journal = shown ++ announcements before.journal ∧
      (∀ mail ∈ shown, mail.account = a ∧ mail.unseen = n) ∧
      (shown ≠ [] ↔
        (∃ report, loaded.core.registry.find? a = some report ∧ report.notify = true) ∧
          latestTick env s os a ≠ some n) ∧
      ∀ report, after.core.registry.find? a = some report →
        report.unseen = if loaded.core.registry.contains a = true then n else 0 := by
  intro before loaded after
  obtain ⟨hworld, htold⟩ := h.announced_course hos hs a
  obtain ⟨rest, hqueue, rfl⟩ := System.turn?_eq_some hturn
  let taken : System ω := { before with core := { before.core with queue := rest } }
  let m : Message := .checkComplete a (some n) none
  have hlatest : (taken.begun env m).core.announced.lookup a = latestTick env s os a := by
    have hreconciled : Remembered a (before.core.announced.lookup a) (taken.begun env m) :=
      (h.staysOut.respects_remembers (·.lookup a = _)).spares.reconcile taken rfl
    refine hreconciled.trans (htold.trans ?_)
    rw [hcore]
    unfold latestTick
    cases ((Occurrence.turns env s os).filterMap _).getLast? <;> rfl
  have hbegun : I (taken.begun env m).world := (h.begun (t := taken.clock)
    (X := fun _ _ _ => True) (s := taken) ⟨hworld, Int.le_refl _, trivial⟩ m).world
  have hsilent : announcements loaded.journal = announcements before.journal :=
    (hdiscreet.announcements_loadedFor a _).trans
      (hdiscreet.begun (R := fun _ l => l = announcements before.journal) (s := taken) rfl m)
  have hcounts := loaded.counts_checkedNow a n
  have hposted := hdiscreet.posted_announce_rearm
    (0 < n && (taken.begun env m).core.announced.lookup a != some n) hcounts
  rw [← run_handleComplete (h.load_endCheck hbegun a), hlatest] at hposted
  obtain ⟨hafter, hshown⟩ := Surroundings.Discreet.process (m := m) (s := taken) hposted
  rw [← after_next_cons env hqueue] at hafter hshown
  refine ⟨_, hshown.trans (congrArg _ hsilent), ?_, ?_, hafter.unseen⟩
  · intro mail hmail
    split at hmail
    · obtain ⟨report, hfind, -, hunseen, rfl⟩ :=
        Registry.newMail?_eq_some (Option.mem_toList.1 hmail)
      have hcount := hcounts.unseen report hfind
      refine ⟨rfl, hcount.trans (if_pos ?_)⟩
      by_contra hno
      exact hunseen (hcount.trans (if_neg hno))
    · cases hmail
  · have hwanted : (0 < n && latestTick env s os a != some n) = true ↔
        latestTick env s os a ≠ some n := by simp [hn]
    rw [← loaded.newMail?_checkedNow a (Int.ne_of_gt hn)]
    split
    · rename_i hyes
      rw [and_iff_left (hwanted.1 hyes)]
      exact not_congr Option.toList_eq_nil_iff
    · rename_i hno
      exact iff_of_false (fun hne => hne rfl) fun hboth => hno (hwanted.2 hboth.2)

/-! ## Counts that differ, and an account that is listed late -/

namespace Rehearsal

/-- Five messages were announced while a check was under way, and its end reports seven. -/
def fiveThenSevenAtEnd : List (Occurrence World) :=
  [.submit (.checkRequested (some 1) none), .next,
    .submit (.checkProgress 1 usualInbox 100 none (some 5)), .next,
    .submit (.checkComplete 1 (some 7) none)]

/-- The seven messages are announced, as five of them were announced last. -/
theorem completion_announced_fiveThenSeven :
    latestTick inMemory freshPoller fiveThenSevenAtEnd 1 = some 5 ∧
      ∃ shown, shown ≠ [] ∧ (∀ mail ∈ shown, mail.account = 1 ∧ mail.unseen = 7) ∧
        announcements (Occurrence.next.after inMemory (Occurrence.course inMemory freshPoller
            fiveThenSevenAtEnd)).journal =
          shown ++ announcements (Occurrence.course inMemory freshPoller
            fiveThenSevenAtEnd).journal := by
  have hqueue : (Occurrence.course inMemory freshPoller fiveThenSevenAtEnd).core.queue =
      [.checkComplete 1 (some 7) none] := by decide +kernel
  have hwithin : ∀ o ∈ fiveThenSevenAtEnd, o.Within OfTwoAccounts := by
    intro o ho
    simp only [fiveThenSevenAtEnd, List.mem_cons, List.not_mem_nil, or_false] at ho
    rcases ho with rfl | rfl | rfl | rfl | rfl <;> exact trivial
  have hlatest : latestTick inMemory freshPoller fiveThenSevenAtEnd 1 = some 5 := by
    decide +kernel
  obtain ⟨begun, hturn⟩ : ∃ begun, (Occurrence.course inMemory freshPoller
      fiveThenSevenAtEnd).turn? inMemory = some (.checkComplete 1 (some 7) none, begun) :=
    ⟨_, System.turn?_of_queue inMemory hqueue⟩
  have hnotify : ((Occurrence.course inMemory freshPoller fiveThenSevenAtEnd).turn?
      inMemory).bind (fun turn => ((turn.2.loadedFor inMemory 1).core.registry.find? 1).map
        (·.notify)) = some true := by decide +kernel
  rw [hturn] at hnotify
  obtain ⟨shown, hshown, hmail, hiff, -⟩ := completion_announced_iff dependable_inMemory
    (discreet_surroundings {} 1) ofTwoAccounts_twoAccountsWorld rfl hwithin (by decide) hturn
  refine ⟨hlatest, shown, hiff.2 ⟨Option.map_eq_some_iff.1 hnotify, ?_⟩, hmail, hshown⟩
  rw [hlatest]
  decide

/-- Lists of accounts that can be loaded. -/
def Loadable (listings : List (List Account.Draft)) : Prop := ∀ rows ∈ listings, Complete rows

theorem dependable_fickle : fickle.Dependable Loadable where
  staysOut c s := Untouched.refl s
  time t c s hs := hs
  during c s hs := hs
  succeeds c s _ _ := rfl
  list w hw := by
    refine ⟨_, _, rfl, fun rows hrows => hw rows (List.mem_of_mem_tail hrows), ?_⟩
    cases w with
    | nil => exact fun d hd => absurd hd List.not_mem_nil
    | cons rows w => exact hw rows List.mem_cons_self
  get id w hw := ⟨none, w, rfl, hw, fun d hd => absurd hd List.not_mem_nil⟩
  isSyncEnabled email w hw := ⟨true, w, rfl, hw, trivial⟩
  count id w hw := ⟨none, w, rfl, hw, trivial⟩
  resetCount target w hw := ⟨(), w, rfl, hw, trivial⟩
  idsWithProtocol protocol w hw := ⟨[], w, rfl, hw, trivial⟩
  delete id w hw := ⟨(), w, rfl, hw, trivial⟩

theorem discreet_fickle : fickle.Discreet where
  core c s := ⟨[], by rw [List.append_nil]; rfl⟩
  silent c s := rfl

/-- A check ends before any account is listed.  The accounts will be listed twice: the first time
there is none, and the second time there are two. -/
def endBeforeListing : System (List (List Account.Draft)) :=
  Occurrence.course fickle { clock := 1000000, world := [[], twoAccounts.accounts] }
    [.submit (.checkComplete 1 (some 3) none)]

/-- The account is tracked in the end, without the count. -/
theorem count_lost_at_end :
    fickle.Dependable Loadable ∧ fickle.Discreet ∧ Loadable endBeforeListing.world ∧
      endBeforeListing.core.queue = [.checkComplete 1 (some 3) none] ∧
      ¬∀ report, (Occurrence.next.after fickle endBeforeListing).core.registry.find? 1 =
        some report → report.unseen = 3 := by
  refine ⟨dependable_fickle, discreet_fickle, fun rows hrows => ?_, rfl, fun hall => ?_⟩
  · change rows ∈ [[], twoAccounts.accounts] at hrows
    simp only [List.mem_cons, List.not_mem_nil, or_false] at hrows
    rcases hrows with rfl | rfl
    · exact fun d hd => absurd hd List.not_mem_nil
    · unfold Complete
      decide
  · have hcount : ((Occurrence.next.after fickle endBeforeListing).core.registry.find? 1).map
        (·.unseen) = some 0 := by decide +kernel
    obtain ⟨report, hfind, hzero⟩ := Option.map_eq_some_iff.1 hcount
    have hthree := hall report hfind
    omega

end Rehearsal

end MailSchedule
