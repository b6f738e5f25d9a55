import MailSchedule.Proofs.Loading

/-!
# What every course of events keeps

A poller is used through its entry points, through its loop, and through the operations on what it
consists of.  A property of systems that the elementary changes keep is kept by all of them, however
their calls end.

Results:

* `rebuild`, `handle_of_rebuild`: the messages that have the registry rebuilt.
* `leadUp`, `handle_eq`: handling a message ends with setting the wake timer for the account that is
  due next, if that is done at all.
* `Surroundings.LeadsUp`, `Surroundings.Sustains`, `Surroundings.Sustains.handle`: a property that
  the operations keep of which the handling of a message consists, and where announcing new mail
  leads from it.
* `Surroundings.Operates`: the same for whatever messages do not have the registry rebuilt.
* `Surroundings.Upholds`: a property that the elementary changes keep.
* `Surroundings.Upholds.handle`, `.drain`, `.serve`: it is kept by what handles messages.
* `Use`, `Surroundings.Upholds.use`: it is kept by every use of the poller.
* `Reachable`, `Reachable.induct`: it holds after every course of events.
* `System.Coherent`, `Reachable.coherent`: readings of the clock are positive, and the registry is
  sound.
-/

namespace MailSchedule

variable {ω : Type}

/-! ## Rebuilding the registry -/

/-- What a message that has the registry rebuilt comes to before the wake timer is set. -/
def rebuild (env : Surroundings ω) : Message → Option (Act ω Unit)
  | .rescheduleRequested => some do
    env.call (.cancelNotification none)
    refresh env
  | .deleteProtocolRequested protocol => some do
    env.call (.idsWithProtocol protocol)
    deleteAccounts env (← answer (env.source.idsWithProtocol protocol))
    refresh env
  | _ => none

theorem handle_of_rebuild {env : Surroundings ω} {m : Message} {act : Act ω Unit}
    (h : rebuild env m = some act) : handle env m = (do act; let _ ← rearm env) := by
  cases m with
  | rescheduleRequested =>
    cases h
    unfold handle handleReschedule
    rw [bind_assoc]
  | deleteProtocolRequested protocol =>
    cases h
    unfold handle handleDeleteProtocol
    simp only [bind_assoc]
  | _ => cases h

/-- Before the registry is rebuilt collaborators are asked, and nothing else. -/
theorem Surroundings.Spares.rebuild {env : Surroundings ω} {P : System ω → Prop}
    {R : Except Fault Unit → System ω → Prop} (h : env.Spares P)
    (hfails : ∀ e s, P s → R (.error e) s) (hrefresh : (refresh env).Ends P R) {m : Message}
    {act : Act ω Unit} (hact : rebuild env m = some act) : act.Ends P R := by
  cases m with
  | rescheduleRequested =>
    cases hact
    exact .bind (h.call (.cancelNotification none) ⟨nofun, nofun⟩) hfails fun _ => hrefresh
  | deleteProtocolRequested protocol =>
    cases hact
    refine .bind (h.call (.idsWithProtocol protocol) ⟨nofun, nofun⟩) hfails fun _ => ?_
    refine .bind (h.idsWithProtocol protocol) hfails fun ids => ?_
    exact .bind (h.deleteAccounts ids) hfails fun _ => hrefresh
  | _ => cases hact

/-! ## Handling a message -/

/-- The account that a message names. -/
def Message.account? : Message → Option Int
  | .checkRequested account _ => account
  | .watchdogFired id => some id
  | .rescheduleRequested => none
  | .cancelRequested => none
  | .notifyRequested id => some id
  | .sendPendingRequested id => some id
  | .deleteProtocolRequested _ => none
  | .checkProgress id _ _ _ _ => some id
  | .checkComplete id _ _ => some id

/-- What was remembered of the check of an account is forgotten. -/
def Core.openCheck (c : Core) (id : Int) : Core :=
  { c with
    completed := c.completed.filter (· ≠ id)
    announced := c.announced.filter (·.1 ≠ id) }

/-- It is noted down that the check of an account has ended. -/
def Core.endCheck (c : Core) (id : Int) : Core :=
  { c with
    completed := c.completed.insert id
    announced := c.announced.filter (·.1 ≠ id) }

/-- It is noted down which count was announced while the check of an account is under way. -/
def Core.tell (c : Core) (id count : Int) : Core :=
  { c with announced := (id, count) :: c.announced.filter (·.1 ≠ id) }

/-- Entries under another number stay when those under one number are dropped. -/
theorem lookup_filter_ne (l : List (Int × Int)) (id x : Int) :
    (l.filter (·.1 ≠ id)).lookup x = if x = id then none else l.lookup x := by
  induction l with
  | nil => simp
  | cons e l ih =>
    obtain ⟨key, count⟩ := e
    by_cases hkey : key = id
    · rw [List.filter_cons_of_neg (by simp [hkey]), ih, hkey]
      split
      · rfl
      · rename_i hx
        rw [List.lookup_cons, beq_eq_false_iff_ne.2 hx]
    · rw [List.filter_cons_of_pos (by simp [hkey]), List.lookup_cons, List.lookup_cons, ih]
      by_cases hx : x = key
      · subst hx
        simp [hkey]
      · rw [beq_eq_false_iff_ne.2 hx]

namespace Core

theorem lookup_announced_openCheck (c : Core) (id x : Int) :
    (c.openCheck id).announced.lookup x = if x = id then none else c.announced.lookup x :=
  lookup_filter_ne ..

theorem lookup_announced_endCheck (c : Core) (id x : Int) :
    (c.endCheck id).announced.lookup x = if x = id then none else c.announced.lookup x :=
  lookup_filter_ne ..

theorem lookup_announced_tell (c : Core) (id count x : Int) :
    (c.tell id count).announced.lookup x = if x = id then some count else c.announced.lookup x := by
  unfold tell
  rw [List.lookup_cons, lookup_filter_ne]
  by_cases hx : x = id
  · simp [hx]
  · rw [beq_eq_false_iff_ne.2 hx, if_neg hx, if_neg hx]

theorem mem_completed_openCheck (c : Core) (id x : Int) :
    x ∈ (c.openCheck id).completed ↔ x ∈ c.completed ∧ x ≠ id := by
  unfold openCheck
  simp

theorem mem_completed_endCheck (c : Core) (id x : Int) :
    x ∈ (c.endCheck id).completed ↔ x = id ∨ x ∈ c.completed := List.mem_insert_iff

end Core

/-! ## Up to the wake timer -/

/-- Has the registry filled, and what a snapshot tells of earlier checks filled in. -/
def catchUp (env : Surroundings ω) : Option Snapshot → Act ω Unit
  | some saved => restore env saved
  | none => load env .fillIfEmpty

theorem Surroundings.Overlooks.catchUp {env : Surroundings ω} {P : System ω → Prop}
    (h : env.Overlooks P) (snapshot : Option Snapshot) : (catchUp env snapshot).Keeps P := by
  cases snapshot with
  | none => exact h.load .fillIfEmpty
  | some saved => exact h.restore saved

/-- A check of an account that is started if it may be.  Otherwise the account counts as checked,
and the answer is that the wake timer is to be set for another one. -/
def tryCheck (env : Surroundings ω) (id : Int) : Act ω Bool := do
  openCheck env id
  let started ← tryStart env id
  if !started then
    let _ ← update env id none
  return !started

/-- What a message leads to before the wake timer is set for the account that is due next.  The
answer is whether it is to be set. -/
def leadUp (env : Surroundings ω) : Message → Act ω Bool
  | .checkRequested account snapshot => do
    catchUp env snapshot
    match account with
    | none => return true
    | some id => tryCheck env id
  | .watchdogFired id => do
    if !(← core).completed.contains id then
      note (.watchdogFired id)
      load env .fillIfEmpty
      let _ ← update env id none
    return true
  | .rescheduleRequested => do
    env.call (.cancelNotification none)
    refresh env
    return true
  | .cancelRequested => do
    disarm env
    return false
  | .notifyRequested id => do
    env.call (.newMessageCount id)
    match ← answer (env.source.count id) with
    | none => pure ()
    | some count =>
      if (← update env id (some count)).isSome then
        let _ ← announce env id
    return true
  | .sendPendingRequested id => do
    env.call (.sendPending id)
    return true
  | .deleteProtocolRequested protocol => do
    env.call (.idsWithProtocol protocol)
    deleteAccounts env (← answer (env.source.idsWithProtocol protocol))
    refresh env
    return true
  | .checkProgress id mailbox progress error count => do
    handleProgress env id mailbox progress error count
    return false
  | .checkComplete id count error => do
    let announced := (← core).announced.lookup id
    modifyCore fun c => c.endCheck id
    load env .fillIfEmpty
    match error, count with
    | some e, _ => do
      note (.checkFailed id e)
      let _ ← update env id none
    | none, none => do let _ ← update env id none
    | none, some n => do
      let _ ← update env id (some n)
      if 0 < n && announced != some n then
        let _ ← announce env id
    return true

theorem checkAccount_eq (env : Surroundings ω) (id : Int) :
    checkAccount env id = (do if ← tryCheck env id then let _ ← rearm env) := by
  unfold checkAccount tryCheck
  simp only [bind_assoc]
  congr 1
  funext _
  congr 1
  funext started
  cases started with
  | true => rfl
  | false => simp only [bind_assoc, pure_bind, Bool.not_false, if_true]

/-- Setting the wake timer for the account that is due next is the last thing that is done about a
message. -/
theorem handle_eq (env : Surroundings ω) (m : Message) :
    handle env m = (do if ← leadUp env m then let _ ← rearm env) := by
  cases m with
  | checkRequested account snapshot =>
    unfold handle leadUp handleCheck catchUp
    cases account with
    | none => cases snapshot <;> simp only [bind_assoc, pure_bind, if_true]
    | some id => cases snapshot <;> simp only [checkAccount_eq, bind_assoc]
  | watchdogFired id =>
    unfold handle leadUp handleWatchdog
    simp only [bind_assoc, Act.ite_bind, pure_bind, if_true]
  | rescheduleRequested =>
    unfold handle leadUp handleReschedule
    simp only [bind_assoc, pure_bind, if_true]
  | cancelRequested =>
    unfold handle leadUp
    simp only [bind_assoc, pure_bind, Bool.false_eq_true, if_false, bind_pure_unit]
  | notifyRequested id =>
    unfold handle leadUp handleNotify
    simp only [bind_assoc]
    congr 1
    funext _
    congr 1
    funext count
    cases count with
    | none => rfl
    | some count => simp only [bind_assoc, Act.ite_bind, pure_bind, if_true]
  | sendPendingRequested id =>
    unfold handle leadUp handleSendPending
    simp only [bind_assoc, pure_bind, if_true]
  | deleteProtocolRequested protocol =>
    unfold handle leadUp handleDeleteProtocol
    simp only [bind_assoc, pure_bind, if_true]
  | checkProgress id mailbox progress error count =>
    unfold handle leadUp
    simp only [bind_assoc, pure_bind, Bool.false_eq_true, if_false, bind_pure_unit]
  | checkComplete id count error =>
    unfold handle leadUp handleComplete Core.endCheck
    cases error <;> cases count <;> simp only [bind_assoc, Act.ite_bind, pure_bind, if_true]

/-- The counts of unseen messages that a message may have recorded: the one that it tells, or the one
that is answered where a property holds. -/
def Message.Brings (env : Surroundings ω) (P : System ω → Prop) (n : Int) : Message → Prop
  | .notifyRequested id => ∃ s, P s ∧ (env.source.count id s.world).1 = .ok (some n)
  | .checkProgress _ _ _ _ count => count = some n
  | .checkComplete _ count _ => count = some n
  | _ => False

/-- The operations of which consists what a message leads up to keep a property of systems, and
another one holds once new mail was announced.  Both may depend on the message, and operations that
it does not lead to do not matter. -/
structure Surroundings.LeadsUp (env : Surroundings ω) (m : Message) (P Q : System ω → Prop) : Prop
    extends env.Abides P where
  opened : ∀ id saved, m = .checkRequested (some id) saved →
    ∀ s, P s → P { s with core := s.core.openCheck id }
  ended : ∀ id count error, m = .checkComplete id count error →
    ∀ s, P s → P { s with core := s.core.endCheck id }
  told : ∀ id mailbox progress error count, m = .checkProgress id mailbox progress error count →
    ∀ s, Q s → Q { s with core := s.core.tell id (count.getD 0) }
  fill : (load env .fillIfEmpty).Keeps P
  restore : ∀ account saved, m = .checkRequested account (some saved) → (restore env saved).Keeps P
  refresh : ∀ act, rebuild env m = some act → (refresh env).Keeps P
  update : ∀ id unseen, m.account? = some id → (∀ n ∈ unseen, m.Brings env P n) →
    (update env id unseen).Keeps P
  armWatchdog : ∀ id saved, m = .checkRequested (some id) saved → (armWatchdog env id).Keeps P
  disarm : m = .cancelRequested → (disarm env).Keeps P
  announce : ∀ id, m.account? = some id → (announce env id).Leads P Q
  /-- Nothing need be announced. -/
  silent : ∀ s, P s → Q s

namespace Surroundings.LeadsUp

variable {env : Surroundings ω} {m : Message} {P Q : System ω → Prop}

/-- What keeps the one property leads to the other one. -/
theorem silently (h : env.LeadsUp m P Q) {α : Type} {act : Act ω α} (hact : act.Keeps P) :
    act.Leads P Q := .of_keeps hact h.silent

/-- A message about an account may lead to an announcement of its new mail. -/
theorem announces (h : env.LeadsUp m P Q) {id : Int} (hid : m.account? = some id) {α : Type}
    (a : α) : Act.Leads (do
      let _ ← MailSchedule.announce env id
      return a) P Q :=
  (h.announce id hid).bind (fun _ hs => hs) fun _ _ hs => hs

theorem catchUp {account : Option Int} {snapshot : Option Snapshot}
    (h : env.LeadsUp (.checkRequested account snapshot) P Q) : (catchUp env snapshot).Keeps P := by
  cases snapshot with
  | none => exact h.fill
  | some saved => exact h.restore account saved rfl

theorem tryCheck {id : Int} {snapshot : Option Snapshot}
    (h : env.LeadsUp (.checkRequested (some id) snapshot) P Q) : (tryCheck env id).Keeps P := by
  have hopen : (openCheck env id).Keeps P :=
    Act.Keeps.bind (h.opened id snapshot rfl) fun _ =>
      (h.armWatchdog id snapshot rfl).bind fun _ => .pure _
  exact hopen.bind fun _ => (h.tryStart id).bind fun _ =>
    .ite ((h.update id none rfl nofun).bind fun _ => .pure _) (.pure _)

theorem notify {id : Int} (h : env.LeadsUp (.notifyRequested id) P Q) :
    (leadUp env (.notifyRequested id)).Leads P Q := by
  refine .bind (h.call (.newMessageCount id) ⟨nofun, nofun, nofun⟩) h.silent fun _ s hs => ?_
  -- The count that is recorded is the one that was answered, so the answer has to be at hand.
  have hanswered := h.count id s hs
  have hanswer := run_answer_fst s (env.source.count id)
  rw [Act.run_bind]
  rcases hr : Act.run (answer (env.source.count id)) s with ⟨_ | count, s'⟩
  · rw [hr] at hanswered
    exact h.silent s' hanswered
  rw [hr] at hanswered hanswer
  cases count with
  | none => exact h.silent s' hanswered
  | some count =>
    have hbrings : ∀ n ∈ some count, (Message.notifyRequested id).Brings env P n := by
      rintro _ ⟨rfl⟩
      exact ⟨s, hs, hanswer.symm⟩
    exact Act.Leads.bind (h.update id (some count) rfl hbrings) h.silent (fun _ =>
      .ite (h.announces rfl true) (h.silently (.pure _))) s' hanswered

theorem progress {id mailbox progress : Int} {error : Option Fault} {count : Option Int}
    (h : env.LeadsUp (.checkProgress id mailbox progress error count) P Q) :
    (handleProgress env id mailbox progress error count).Leads P Q := by
  refine .ite (h.silently (.pure _)) (.bind (h.findInbox id) h.silent fun inbox =>
    .ite (h.silently (.pure _)) (.ite ?_ ?_))
  · refine .bind (h.update id count rfl fun _ hn => hn) h.silent fun _ => .ite ?_ (h.silently (.pure _))
    exact (h.announce id rfl).bind (fun _ hs => hs) fun _ =>
      h.told id mailbox progress error count rfl
  · exact h.silently ((h.update id none rfl nofun).bind fun _ => .pure _)

theorem complete {id : Int} {count : Option Int} {error : Option Fault}
    (h : env.LeadsUp (.checkComplete id count error) P Q) :
    (leadUp env (.checkComplete id count error)).Leads P Q := by
  refine .bind Act.Keeps.core h.silent fun _ =>
    Act.Leads.bind (h.ended id count error rfl) h.silent fun _ => .bind h.fill h.silent fun _ => ?_
  cases error with
  | some e =>
    exact h.silently ((h.note _).bind fun _ => (h.update id none rfl nofun).bind fun _ => .pure _)
  | none =>
    cases count with
    | none => exact h.silently ((h.update id none rfl nofun).bind fun _ => .pure _)
    | some n =>
      exact .bind (h.update id (some n) rfl fun _ hn => hn) h.silent fun _ =>
        .ite (h.announces rfl true) (h.silently (.pure _))

/-- What a message leads up to leads where announcing new mail leads. -/
theorem leadUp (h : env.LeadsUp m P Q) : (leadUp env m).Leads P Q := by
  cases m with
  | checkRequested account snapshot =>
    refine h.silently (h.catchUp.bind fun _ => ?_)
    cases account with
    | none => exact .pure _
    | some id => exact h.tryCheck
  | watchdogFired id =>
    exact h.silently (Act.Keeps.core.bind fun _ => .ite ((h.note _).bind fun _ =>
      h.fill.bind fun _ => (h.update id none rfl nofun).bind fun _ => .pure _) (.pure _))
  | rescheduleRequested =>
    exact h.silently ((h.call (.cancelNotification none) ⟨nofun, nofun, nofun⟩).bind fun _ =>
      (h.refresh _ rfl).bind fun _ => .pure _)
  | cancelRequested => exact h.silently ((h.disarm rfl).bind fun _ => .pure _)
  | notifyRequested id => exact h.notify
  | sendPendingRequested id =>
    exact h.silently ((h.call (.sendPending id) ⟨nofun, nofun, nofun⟩).bind fun _ => .pure _)
  | deleteProtocolRequested protocol =>
    exact h.silently ((h.call (.idsWithProtocol protocol) ⟨nofun, nofun, nofun⟩).bind fun _ =>
      (h.idsWithProtocol protocol).bind fun ids => (h.deleteAccounts ids).bind fun _ =>
        (h.refresh _ rfl).bind fun _ => .pure _)
  | checkProgress id mailbox progress error count =>
    exact h.progress.bind (fun _ hs => hs) fun _ _ hs => hs
  | checkComplete id count error => exact h.complete

end Surroundings.LeadsUp

/-- The operations of which the handling of a message consists keep a property of systems, and
another one holds once new mail was announced and is kept by setting the wake timer. -/
structure Surroundings.Sustains (env : Surroundings ω) (m : Message) (P Q : System ω → Prop) : Prop
    extends env.LeadsUp m P Q where
  rearmAfter : (MailSchedule.rearm env).Keeps Q

/-- Handling a message leads where announcing new mail leads. -/
theorem Surroundings.Sustains.handle {env : Surroundings ω} {m : Message} {P Q : System ω → Prop}
    (h : env.Sustains m P Q) : (handle env m).Leads P Q := by
  have hrearm : ∀ go : Bool, Act.Keeps (do if go then let _ ← rearm env) Q := fun _ =>
    .ite (h.rearmAfter.bind fun _ => .pure _) (.pure _)
  rw [handle_eq]
  exact h.leadUp.bind (fun _ hs => hs) hrearm

/-! ## Operations -/

/-- A property of systems that the operations keep of which the handling of messages consists, apart
from rebuilding the registry, and another one that holds once new mail was announced.  Snapshots may
have to be of a kind for that. -/
structure Surroundings.Operates (env : Surroundings ω) (allowed : Snapshot → Prop)
    (P Q : System ω → Prop) : Prop extends env.Spares P where
  /-- Which checks have ended and what was announced may be noted down. -/
  remembered : ∀ s c, P s → c.registry = s.core.registry → c.queue = s.core.queue →
    P { s with core := c }
  fill : (load env .fillIfEmpty).Keeps P
  update : ∀ id unseen, (update env id unseen).Keeps P
  restore : ∀ snapshot, allowed snapshot → (restore env snapshot).Keeps P
  disarm : (disarm env).Keeps P
  armWatchdog : ∀ id, (armWatchdog env id).Keeps P
  rearm : (rearm env).Keeps P
  announce : ∀ id, (announce env id).Leads P Q
  /-- Nothing need be announced. -/
  silent : ∀ s, P s → Q s
  rememberedAfter : ∀ s c, Q s → c.registry = s.core.registry → c.queue = s.core.queue →
    Q { s with core := c }
  rearmAfter : (MailSchedule.rearm env).Keeps Q

namespace Surroundings.Operates

variable {env : Surroundings ω} {allowed : Snapshot → Prop} {P Q : System ω → Prop}
  (h : env.Operates allowed P Q)
include h

/-- Rearming, whatever was selected. -/
theorem rearm_unit : Act.Keeps (do let _ ← MailSchedule.rearm env) P :=
  h.rearm.bind fun _ => .pure _

/-- These are all the operations that a message leads to which does not have the registry
rebuilt. -/
theorem sustains {m : Message} (hm : rebuild env m = none)
    (hallowed : ∀ account saved, m = .checkRequested account (some saved) → allowed saved) :
    env.Sustains m P Q where
  toAbides := h.toSpares.abides
  opened _ _ _ s hs := h.remembered s _ hs rfl rfl
  ended _ _ _ _ s hs := h.remembered s _ hs rfl rfl
  told _ _ _ _ _ _ s hs := h.rememberedAfter s _ hs rfl rfl
  fill := h.fill
  restore account saved heq := h.restore saved (hallowed account saved heq)
  refresh act hact := by
    rw [hm] at hact
    cases hact
  update id unseen _ _ := h.update id unseen
  armWatchdog id _ _ := h.armWatchdog id
  disarm _ := h.disarm
  announce id _ := h.announce id
  silent := h.silent
  rearmAfter := h.rearmAfter

/-- Handling a message that does not have the registry rebuilt leads where announcing new mail
leads. -/
theorem handle {m : Message} (hm : rebuild env m = none)
    (hallowed : ∀ account saved, m = .checkRequested account (some saved) → allowed saved) :
    (handle env m).Leads P Q := (h.sustains hm hallowed).handle

/-- Handling a message that has it rebuilt keeps what rebuilding keeps. -/
theorem handle_rebuild (hrefresh : (refresh env).Keeps P) {m : Message} {act : Act ω Unit}
    (hact : rebuild env m = some act) : (MailSchedule.handle env m).Keeps P := by
  rw [handle_of_rebuild hact]
  exact Act.Keeps.bind (h.toSpares.rebuild (R := fun _ => P) (fun _ _ hs => hs) hrefresh hact)
    fun _ => h.rearm_unit

end Surroundings.Operates

/-! ## Elementary changes -/

/-- A property of systems that neither collaborators nor the elementary changes break.  It tells
nothing about what the poller remembers besides its registry. -/
structure Surroundings.Upholds (env : Surroundings ω) (P : System ω → Prop) : Prop
    extends env.Respects P where
  aside : ∀ s c, P s → c.registry = s.core.registry → P { s with core := c }
  timer : ∀ s w, P s → P { s with timer := w }
  published : ∀ mode s (built : Registry), P s → built.Unchecked →
    P { s with core := s.core.published mode built }
  /-- The accounts that were tracked before a registry is rebuilt pass on the times of their
  checks. -/
  carried : ∀ s (built earlier : Registry), P s → built.Unchecked →
    P { s with core := { s.core with registry := built.carryForward earlier } }
  restored : ∀ s pairs, P s →
    P { s with core := { s.core with registry := s.core.registry.restore pairs } }
  checked : ∀ id unseen s, P s → P (s.checkedNow id unseen)
  announced : ∀ s id, P s → P { s with core := { s.core with
    registry := s.core.registry.modify id fun r => { r with lastUnseen := r.unseen } } }
  countsCleared : ∀ s target, P s →
    P { s with core := { s.core with registry := s.core.registry.clearCounts target } }
  cleared : ∀ s, P s → P { s with core := s.core.replaceRegistry .empty }

namespace Surroundings.Upholds

variable {env : Surroundings ω} {P : System ω → Prop} (h : env.Upholds P)
include h

/-- What is remembered besides the registry may change in any way. -/
theorem modifyCore (f : Core → Core) (hf : ∀ c, (f c).registry = c.registry) :
    Act.Keeps (modifyCore f) P := fun s hs => h.aside s (f s.core) hs (hf s.core)

theorem load (mode : LoadMode) : (load env mode).Keeps P :=
  h.spares.abides.load mode (h.published mode)

theorem refresh : (refresh env).Keeps P := by
  intro s hs
  obtain ⟨s', hs', ⟨e, hr⟩ | ⟨built, hbuilt, hr⟩⟩ :=
    refresh_cases h.spares.abides (h.aside s _ hs rfl)
  · rw [hr]
    exact h.aside s' _ hs' rfl
  · rw [hr]
    exact h.aside { s' with core := { s'.core with registry := built.carryForward _ } } _
      (h.carried s' built _ hs' hbuilt) rfl

theorem clear : Act.Keeps clear P := h.cleared

theorem resetCounts (target : Option Int) : (resetCounts env target).Keeps P :=
  h.spares.resetCounts target fun s hs => h.countsCleared s target hs

theorem submit (m : Message) : Act.Keeps (submit m) P :=
  h.spares.submit fun s hs => h.aside s _ hs rfl

theorem wake (payload : Option Payload) : Act.Keeps (wake payload) P :=
  h.spares.wake fun _ _ s hs => h.aside s _ hs rfl

/-- What the elementary changes keep is kept by the operations on which messages rest. -/
theorem operates : env.Operates (fun _ => True) P P where
  toSpares := h.spares
  remembered s c hs hc _ := h.aside s c hs hc
  fill := h.load _
  update id unseen := h.spares.abides.update (h.published _) (h.checked id unseen)
  restore snapshot _ := (h.load _).bind fun _ => fun s hs => h.restored s snapshot.prevSyncTimes hs
  disarm := h.spares.abides.disarm h.timer
  armWatchdog id := h.toRespects.armWatchdog h.timer id
  rearm := h.toRespects.rearm h.timer (h.load _)
  announce id := h.toRespects.announce id fun s hs => h.announced s id hs
  silent _ hs := hs
  rememberedAfter s c hs hc _ := h.aside s c hs hc
  rearmAfter := h.toRespects.rearm h.timer (h.load _)

/-! ## Working off the queue -/

/-- Handling a message keeps what the elementary changes keep. -/
theorem handle (m : Message) : (handle env m).Keeps P := by
  cases hm : rebuild env m with
  | none => exact h.operates.handle hm fun _ _ _ => trivial
  | some act => exact h.operates.handle_rebuild h.refresh hm

theorem nextMessage : Act.Keeps nextMessage P := by
  refine Act.Keeps.core.bind fun c => ?_
  cases c.queue with
  | nil => exact .pure _
  | cons m rest => exact (h.modifyCore _ (by intro c; rfl)).bind fun _ => .pure _

theorem drain (limit : Nat) : (drain env limit).Keeps P := by
  induction limit with
  | zero => exact .pure _
  | succ limit ih =>
    refine h.nextMessage.bind fun next => ?_
    cases next with
    | none => exact .pure _
    | some m => exact (h.spares.process (h.handle m)).bind fun _ => ih.bind fun _ => .pure _

theorem serve (turns : Nat) : (serve env turns).Keeps P := by
  induction turns with
  | zero => exact .pure _
  | succ turns ih =>
    refine Act.Keeps.core.bind fun c => .ite (h.nextMessage.bind fun next => ?_) (.pure _)
    cases next with
    | none => exact ih
    | some m => exact (h.spares.process (h.handle m)).bind fun _ => ih

theorem close : Act.Keeps close P :=
  (h.modifyCore _ (by intro c; rfl)).bind fun _ => h.clear.bind fun _ =>
    h.modifyCore _ (by intro c; rfl)

end Surroundings.Upholds

/-! ## Courses of events -/

/-- The ways in which a poller is used: its entry points, its loop, and the operations on its
registry, on the wake timer and on notifications. -/
inductive Use
  | submit (m : Message)
  | wake (payload : Option Payload)
  | resetCounts (target : Option Int)
  | drain (limit : Nat)
  | serve (turns : Nat)
  | close
  | load (mode : LoadMode)
  | refresh
  | restore (snapshot : Snapshot)
  | update (id : Int) (unseen : Option Int)
  | clear
  | rearm
  | disarm
  | armWatchdog (id : Int)
  | announce (id : Int)

/-- What a use does. -/
def Use.act (env : Surroundings ω) : Use → Act ω Unit
  | .submit m => MailSchedule.submit m
  | .wake payload => MailSchedule.wake payload
  | .resetCounts target => MailSchedule.resetCounts env target
  | .drain limit => do let _ ← MailSchedule.drain env limit
  | .serve turns => MailSchedule.serve env turns
  | .close => MailSchedule.close
  | .load mode => MailSchedule.load env mode
  | .refresh => MailSchedule.refresh env
  | .restore snapshot => MailSchedule.restore env snapshot
  | .update id unseen => do let _ ← MailSchedule.update env id unseen
  | .clear => MailSchedule.clear
  | .rearm => do let _ ← MailSchedule.rearm env
  | .disarm => MailSchedule.disarm env
  | .armWatchdog id => do let _ ← MailSchedule.armWatchdog env id
  | .announce id => do let _ ← MailSchedule.announce env id

/-- Every use of a poller keeps what the elementary changes keep. -/
theorem Surroundings.Upholds.use {env : Surroundings ω} {P : System ω → Prop}
    (h : env.Upholds P) (u : Use) : (u.act env).Keeps P := by
  cases u with
  | submit m => exact h.submit m
  | wake payload => exact h.wake payload
  | resetCounts target => exact h.resetCounts target
  | drain limit => exact (h.drain limit).bind fun _ => .pure _
  | serve turns => exact h.serve turns
  | close => exact h.close
  | load mode => exact h.load mode
  | refresh => exact h.refresh
  | restore snapshot => exact h.operates.restore snapshot trivial
  | update id unseen => exact (h.operates.update id unseen).bind fun _ => .pure _
  | clear => exact h.clear
  | rearm => exact h.operates.rearm_unit
  | disarm => exact h.operates.disarm
  | armWatchdog id => exact (h.operates.armWatchdog id).bind fun _ => .pure _
  | announce id => exact Act.Keeps.bind (h.operates.announce id) fun _ => .pure _

/-- A system that a course of events leads to.  Pollers start with nothing remembered, and between
their uses time passes and the world changes.  The clock always shows a positive reading. -/
inductive Reachable (env : Surroundings ω) : System ω → Prop
  | start (timer : Option Wake) (clock : Int) (journal : List Event) (world : ω) :
    1 ≤ clock → Reachable env { timer, clock, journal, world }
  | elapse {s : System ω} (clock : Int) (world : ω) :
    Reachable env s → 1 ≤ clock → Reachable env { s with clock, world }
  | use {s : System ω} (u : Use) : Reachable env s → Reachable env ((u.act env).run s).2

/-- What holds of pollers that start and does not depend on the moment holds after every course of
events, if the elementary changes keep it. -/
theorem Reachable.induct {env : Surroundings ω} {P : System ω → Prop} (h : env.Upholds P)
    (hstart : ∀ timer clock journal world, 1 ≤ clock → P { timer, clock, journal, world })
    (helapse : ∀ s clock world, P s → 1 ≤ clock → P { s with clock, world }) {s : System ω}
    (hs : Reachable env s) : P s := by
  induction hs with
  | start timer clock journal world hclock => exact hstart timer clock journal world hclock
  | elapse clock world _ hclock ih => exact helapse _ clock world ih hclock
  | use u _ ih => exact h.use u _ ih

/-! ## Proper registries -/

theorem Core.proper_published {c : Core} (h : c.registry.Proper) (mode : LoadMode)
    {built : Registry} (hbuilt : built.Unchecked) : (c.published mode built).registry.Proper := by
  unfold published
  cases mode with
  | forceReset => exact hbuilt.toProper
  | one id => exact h.addMissing hbuilt.toProper
  | fillIfEmpty =>
    dsimp only
    split
    · exact hbuilt.toProper
    · exact h

/-- Every change leaves each account tracked once, under its number. -/
theorem upholds_proper {env : Surroundings ω}
    (h : env.Respects fun s => s.core.registry.Proper) :
    env.Upholds fun s => s.core.registry.Proper where
  toRespects := h
  aside s c hs hc := by dsimp only; rw [hc]; exact hs
  timer s w hs := hs
  published mode s built hs hbuilt := Core.proper_published hs mode hbuilt
  carried s built earlier hs hbuilt := hbuilt.toProper.carryForward earlier
  restored s pairs hs := hs.restore pairs
  checked id unseen s hs :=
    Registry.Proper.modify hs id (f := fun r => r.checked s.clock unseen)
      fun _ => Report.scheduleFrom_account ..
  announced s id hs :=
    Registry.Proper.modify hs id (f := fun r => { r with lastUnseen := r.unseen }) fun _ => rfl
  countsCleared s target hs := by
    refine Registry.Proper.of_entries hs
      (g := fun e => if covers target e.2.account then e.2.clearCounts else e.2) rfl fun e _ => ?_
    split
    · rfl
    · rfl
  cleared s hs := Registry.sound_empty.toProper

/-- Every account is tracked once, under its number, after every course of events. -/
theorem Reachable.proper {env : Surroundings ω}
    (h : env.Respects fun s => s.core.registry.Proper) {s : System ω} (hs : Reachable env s) :
    s.core.registry.Proper :=
  hs.induct (upholds_proper h) (fun _ _ _ _ _ => Registry.sound_empty.toProper)
    fun _ _ _ hs _ => hs

theorem Surroundings.StaysOut.respects_proper {env : Surroundings ω} (h : env.StaysOut) :
    env.Respects fun s => s.core.registry.Proper :=
  h.respects_core (R := fun c => c.registry.Proper) fun _ _ hc => hc

/-! ## Coherence -/

/-- The clock shows a positive reading, and the registry is sound. -/
def System.Coherent (s : System ω) : Prop := 1 ≤ s.clock ∧ s.core.registry.Sound

theorem Core.sound_published {c : Core} (h : c.registry.Sound) (mode : LoadMode) {built : Registry}
    (hbuilt : built.Unchecked) : (c.published mode built).registry.Sound := by
  unfold published
  cases mode with
  | forceReset => exact hbuilt.toSound
  | one id => exact h.addMissing hbuilt.toSound
  | fillIfEmpty =>
    dsimp only
    split
    · exact hbuilt.toSound
    · exact h

/-- Every change leaves the registry sound; for checks this is because zero is no reading of the
clock. -/
theorem upholds_coherent {env : Surroundings ω} (h : env.Respects System.Coherent) :
    env.Upholds System.Coherent where
  toRespects := h
  aside s c hs hc := ⟨hs.1, by dsimp only; rw [hc]; exact hs.2⟩
  timer s w hs := hs
  published mode s built hs hbuilt := ⟨hs.1, Core.sound_published hs.2 mode hbuilt⟩
  carried s built earlier hs hbuilt := ⟨hs.1, hbuilt.toSound.carryForward hbuilt.never earlier⟩
  restored s pairs hs := ⟨hs.1, hs.2.restore pairs⟩
  checked id unseen s hs := by
    have hclock : s.clock ≠ neverChecked := by
      have hpos := hs.1
      unfold neverChecked
      omega
    refine ⟨hs.1, hs.2.modify id (f := fun r => r.checked s.clock unseen) ?_⟩
    intro report hreport
    exact ⟨Report.scheduleFrom_account .., hreport.scheduleFrom (Or.inr hclock)⟩
  announced s id hs := by
    refine ⟨hs.1, hs.2.modify id (f := fun r => { r with lastUnseen := r.unseen }) ?_⟩
    exact fun report hreport => ⟨rfl, hreport⟩
  countsCleared s target hs := by
    refine ⟨hs.1, hs.2.map
      (f := fun r => if covers target r.account then r.clearCounts else r) ?_⟩
    intro report hreport
    split
    · exact ⟨rfl, hreport⟩
    · exact ⟨rfl, hreport⟩
  cleared s hs := ⟨hs.1, Registry.sound_empty⟩

end MailSchedule
