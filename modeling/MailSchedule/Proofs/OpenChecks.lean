import MailSchedule.Proofs.Dependable

/-!
# Watchdogs and open checks

A watchdog that goes off moves its account on if the check is still open: if the latest message that
tells about it, among requests to check the account and reports that its check has ended, is no such
report.  Otherwise nothing that is tracked changes.  In either case the timer is then set for the
account that is due next, if the wake can be written.

Results:

* `hasEnded`: whether the check of an account has ended, as the messages handled so far have it.
* `Surroundings.Dependable.completed_course`: the poller remembers exactly the checks that have
  ended.
* `Surroundings.Dependable.handleWatchdog_open`, `.handleWatchdog_ended`: what a watchdog does.
* `watchdog_moves_open_checks`: all of this for a watchdog handled in a course of events.
-/

namespace MailSchedule

variable {ω : Type}

/-! ## Checks that have ended -/

/-- Whether the check of an account has ended, if a message tells. -/
def Message.ended? (id : Int) : Message → Option Bool
  | .checkRequested (some account) _ => if account = id then some false else none
  | .checkComplete account _ _ => if account = id then some true else none
  | _ => none

/-- Whether the latest message that tells about the check of an account tells that it has ended. -/
def hasEnded (id : Int) (ms : List Message) : Bool :=
  (ms.filterMap (·.ended? id)).getLast?.getD false

theorem hasEnded_snoc (id : Int) (ms : List Message) (m : Message) :
    hasEnded id (ms ++ [m]) = (m.ended? id).getD (hasEnded id ms) := by
  unfold hasEnded
  rw [List.filterMap_append]
  cases h : m.ended? id with
  | none => simp [h]
  | some ended => simp [h]

theorem Message.mem_completedAfter (m : Message) (completed : List Int) (id : Int) :
    id ∈ m.completedAfter completed ↔
      m.ended? id = some true ∨ m.ended? id = none ∧ id ∈ completed := by
  unfold completedAfter ended?
  cases m with
  | checkRequested account snapshot =>
    cases account with
    | none => simp
    | some account => by_cases h : account = id <;> simp [h, Ne.symm]
  | checkComplete account count error => by_cases h : account = id <;> simp [h, Ne.symm]
  | _ => simp

namespace Surroundings.Dependable

variable {env : Surroundings ω} {I : ω → Prop} (h : env.Dependable I)
include h

theorem after_completed {o : Occurrence ω} (ho : o.Within I) {s : System ω} (hs : I s.world) :
    I (o.after env s).world ∧ (o.after env s).core.completed =
      (o.message? s).elim s.core.completed (·.completedAfter s.core.completed) := by
  cases o with
  | next =>
    unfold Occurrence.message?
    cases hqueue : s.core.queue with
    | nil =>
      rw [after_next_nil env hqueue]
      exact ⟨hs, rfl⟩
    | cons m rest =>
      have hafter := h.after_next hs hqueue
      exact ⟨hafter.world, hafter.holds.1⟩
  | _ =>
    exact h.after_aside ho nofun (X := fun _ c _ => c = s.core.completed) (fun _ _ _ _ hc => hc) hs
      rfl

/-- The poller remembers exactly the checks that have ended.  The induction is on the course of
events, with the messages handled before it. -/
theorem completed_course {os : List (Occurrence ω)} (hos : ∀ o ∈ os, o.Within I) {s : System ω}
    (hs : I s.world) (before : List Message)
    (hbefore : ∀ id, id ∈ s.core.completed ↔ hasEnded id before = true) :
    I (Occurrence.course env s os).world ∧
      ∀ id, id ∈ (Occurrence.course env s os).core.completed ↔
        hasEnded id (before ++ Occurrence.handled env s os) = true := by
  induction os generalizing s before with
  | nil =>
    refine ⟨hs, fun id => ?_⟩
    unfold Occurrence.handled
    rw [List.append_nil]
    exact hbefore id
  | cons o os ih =>
    obtain ⟨hafter, hcompleted⟩ := h.after_completed (hos o List.mem_cons_self) hs
    have hrest := ih (fun p hp => hos p (List.mem_cons_of_mem _ hp)) hafter
      (before ++ (o.message? s).toList) fun id => ?_
    · unfold Occurrence.handled
      rw [← List.append_assoc]
      exact hrest
    · rw [hcompleted]
      cases o.message? s with
      | none =>
        rw [Option.toList_none, List.append_nil]
        exact hbefore id
      | some m =>
        show id ∈ m.completedAfter s.core.completed ↔ hasEnded id (before ++ [m]) = true
        rw [hasEnded_snoc, Message.mem_completedAfter, hbefore id]
        cases m.ended? id <;> simp

/-! ## When a watchdog goes off -/

variable {id : Int} {c₀ : List Int} {t : Int}

/-- The watchdog of a check that has ended only has the timer set. -/
theorem handleWatchdog_ended (r₀ : Registry) (w₀ : Option Wake) (hended : id ∈ c₀) :
    (MailSchedule.handleWatchdog env id).Leads
      (Steady I (fun r c w => r = r₀ ∧ c = c₀ ∧ w = w₀) t) fun s => ∃ t', t ≤ t' ∧
        Steady I (fun r _ w => r₀.Extended r ∧ w = r.timerAt t' w₀) t' s := by
  intro s hs
  have hcond : ¬(!s.core.completed.contains id) = true := by
    rw [hs.holds.2.1]
    simpa using hended
  have hrun : (MailSchedule.handleWatchdog env id).run s =
      Act.run (do let _ ← MailSchedule.rearm env) s := by
    unfold MailSchedule.handleWatchdog
    simp only [Act.run_bind, run_core, if_neg hcond]
  obtain ⟨t', ht, hs'⟩ := h.rearm r₀ w₀ (C := (· = c₀)) s hs
  rw [hrun]
  exact ⟨t', ht, hs'.mono fun _ _ _ hx => ⟨hx.1, hx.2.2⟩⟩

/-- The watchdog of a check that is open records the account as checked before it has the timer
set. -/
theorem handleWatchdog_open (r₀ : Registry) (w₀ : Option Wake) (hopen : id ∉ c₀) :
    (MailSchedule.handleWatchdog env id).Leads
      (Steady I (fun r c w => r = r₀ ∧ c = c₀ ∧ w = w₀) t) fun s =>
        ∃ t₁ t₂ r₁, t ≤ t₁ ∧ t₁ ≤ t₂ ∧ r₀.Extended r₁ ∧ (env.Offers I id → id ∈ r₁.ids) ∧
          Steady I (fun r _ w => (r₁.modify id (·.checked t₁ none)).Extended r ∧
            w = r.timerAt t₂ w₀) t₂ s := by
  intro s hs
  have hcond : (!s.core.completed.contains id) = true := by
    rw [hs.holds.2.1]
    simpa using hopen
  obtain ⟨_, s1, hr1, h1⟩ := h.load .fillIfEmpty r₀ (X := fun c w => c = c₀ ∧ w = w₀)
    { s with journal := .noted (.watchdogFired id) :: s.journal } ⟨hs.world, hs.clock, hs.holds⟩
  obtain ⟨_, s2, hr2, t₁, ht₁, h2⟩ := h.update id none _ (X := fun c w => c = c₀ ∧ w = w₀) s1
    ⟨h1.world, h1.clock, rfl, h1.holds.2⟩
  obtain ⟨⟨r₁, hextended, hoffers, hregistry⟩, hrest⟩ := h2.holds
  have hrun : (MailSchedule.handleWatchdog env id).run s =
      Act.run (do let _ ← MailSchedule.rearm env) s2 := by
    unfold MailSchedule.handleWatchdog
    simp only [Act.run_bind, run_core, if_pos hcond, run_note, hr1, hr2]
  obtain ⟨t₂, ht₂, h3⟩ := h.rearm _ w₀ (C := (· = c₀)) s2 ⟨h2.world, h2.clock, hregistry, hrest⟩
  rw [hrun]
  exact ⟨t₁, t₂, r₁, ht₁, ht₂, (h1.holds.1.1 nofun).trans hextended, hoffers,
    h3.mono fun _ _ _ hx => ⟨hx.1, hx.2.2⟩⟩

/-- A message is processed as it is handled. -/
theorem processWatchdog_ended {s : System ω} (hs : I s.world) (hended : id ∈ s.core.completed) :
    ∃ t, s.clock ≤ t ∧
      Steady I (fun r _ w => s.core.registry.Extended r ∧ w = r.timerAt t s.timer) t
        ((MailSchedule.process env (.watchdogFired id)).run s).2 := by
  have hhandle : (MailSchedule.handle env (.watchdogFired id)).Leads _ _ :=
    h.handleWatchdog_ended s.core.registry s.timer hended (t := s.clock)
  refine h.process hhandle ?_ s ⟨hs, Int.le_refl _, rfl, rfl, rfl⟩
  rintro s' j ⟨t, ht, hs'⟩
  exact ⟨t, ht, hs'.world, hs'.clock, hs'.holds⟩

theorem processWatchdog_open {s : System ω} (hs : I s.world) (hopen : id ∉ s.core.completed) :
    ∃ t t' r, s.clock ≤ t ∧ t ≤ t' ∧ s.core.registry.Extended r ∧
      (env.Offers I id → id ∈ r.ids) ∧
      Steady I (fun r' _ w => (r.modify id (·.checked t none)).Extended r' ∧
        w = r'.timerAt t' s.timer) t'
        ((MailSchedule.process env (.watchdogFired id)).run s).2 := by
  have hhandle : (MailSchedule.handle env (.watchdogFired id)).Leads _ _ :=
    h.handleWatchdog_open s.core.registry s.timer hopen (t := s.clock)
  refine h.process hhandle ?_ s ⟨hs, Int.le_refl _, rfl, rfl, rfl⟩
  rintro s' j ⟨t, t', r, ht, ht', hr, hoffers, hs'⟩
  exact ⟨t, t', r, ht, ht', hr, hoffers, hs'.world, hs'.clock, hs'.holds⟩

end Surroundings.Dependable

/-- A check without a count leaves both counts alone. -/
theorem Report.checked_counts (r : Report) (time : Int) :
    (r.checked time none).unseen = r.unseen ∧ (r.checked time none).lastUnseen = r.lastUnseen :=
  ⟨scheduleFrom_unseen r time, scheduleFrom_lastUnseen r time⟩

/-- An account is recorded as checked between two times when accounts may be added. -/
theorem Registry.Extended.checked {r₀ r r' : Registry} {id time : Int} (h : r₀.Extended r)
    (hid : id ∈ r.ids) (h' : (r.modify id (·.checked time none)).Extended r') :
    (∃ report, r'.find? id = some report ∧ report.prevSync = time ∧
      ∀ old, r₀.find? id = some old →
        report.unseen = old.unseen ∧ report.lastUnseen = old.lastUnseen) ∧
    ∀ x report, x ≠ id → r₀.find? x = some report → r'.find? x = some report := by
  constructor
  · obtain ⟨report, hreport⟩ := Option.isSome_iff_exists.1 ((mem_ids_iff r id).1 hid)
    refine ⟨report.checked time none, h'.kept id _ ?_, report.checked_prevSync time none,
      fun old hold => ?_⟩
    · rw [find?_modify, if_pos rfl, hreport, Option.map_some]
    · have hsame : report = old := Option.some.inj (hreport.symm.trans (h.kept id old hold))
      rw [← hsame]
      exact report.checked_counts time
  · intro x report hx hreport
    refine h'.kept x report ?_
    rw [find?_modify, if_neg hx]
    exact h.kept x report hreport

/-- A watchdog that is handled in a course of events that begins with nothing remembered, for an
account that is tracked or live, records the account as checked if its check is open, and leaves
alone everything that is tracked if its check has ended; then the timer is set for the registry,
unless the wake for it cannot be written. -/
theorem watchdog_moves_open_checks {env : Surroundings ω} {I J : ω → Prop} (h : env.Dependable I)
    (hJ : env.Dependable J) {s : System ω} (hs : I s.world) (hcore : s.core = {})
    {os : List (Occurrence ω)} (hos : ∀ o ∈ os, o.Within I) {id : Int} {rest : List Message}
    (hqueue : (Occurrence.course env s os).core.queue = .watchdogFired id :: rest)
    (hworld : J (Occurrence.course env s os).world)
    (hknown : id ∈ (Occurrence.course env s os).core.registry.ids ∨ env.Offers J id) :
    let before := Occurrence.course env s os
    let after := Occurrence.next.after env before
    ∃ t t', before.clock ≤ t ∧ t ≤ t' ∧ t' ≤ after.clock ∧
      after.timer = after.core.registry.timerAt t' before.timer ∧
      (hasEnded id (Occurrence.handled env s os) = false →
        (∃ report, after.core.registry.find? id = some report ∧ report.prevSync = t ∧
          ∀ old, before.core.registry.find? id = some old →
            report.unseen = old.unseen ∧ report.lastUnseen = old.lastUnseen) ∧
        ∀ x report, x ≠ id → before.core.registry.find? x = some report →
          after.core.registry.find? x = some report) ∧
      (hasEnded id (Occurrence.handled env s os) = true →
        before.core.registry.Extended after.core.registry) := by
  intro before after
  have hended : id ∈ before.core.completed ↔ hasEnded id (Occurrence.handled env s os) = true := by
    refine (h.completed_course hos hs [] fun id => ?_).2 id
    rw [hcore]
    exact iff_of_false List.not_mem_nil Bool.false_ne_true
  have hafter : after = ((process env (.watchdogFired id)).run
      { before with core := { before.core with queue := rest } }).2 := after_next_cons env hqueue
  by_cases hopen : id ∈ before.core.completed
  · obtain ⟨t, ht, hpost⟩ := hJ.processWatchdog_ended
      (s := { before with core := { before.core with queue := rest } }) hworld hopen
    rw [← hafter] at hpost
    refine ⟨t, t, ht, Int.le_refl t, hpost.clock, hpost.holds.2, fun hfalse => ?_, fun _ =>
      hpost.holds.1⟩
    rw [hended.1 hopen] at hfalse
    cases hfalse
  · obtain ⟨t, t', r, ht, ht', hr, hoffers, hpost⟩ := hJ.processWatchdog_open
      (s := { before with core := { before.core with queue := rest } }) hworld hopen
    rw [← hafter] at hpost
    exact ⟨t, t', ht, ht', hpost.clock, hpost.holds.2,
      fun _ => hr.checked (hknown.elim hr.ids hoffers) hpost.holds.1,
      fun htrue => absurd (hended.2 htrue) hopen⟩

/-! ## A check that never reports its end -/

namespace Rehearsal

/-- A check was requested, ten minutes have passed, and its watchdog has gone off. -/
def silentCheck : List (Occurrence World) :=
  [.submit (.checkRequested (some 1) none), .next, .elapse 1600000 twoAccountsWorld,
    .submit (.watchdogFired 1)]

/-- The account counts as checked when the watchdog has gone off. -/
theorem watchdog_moves_silentCheck :
    hasEnded 1 (Occurrence.handled inMemory freshPoller silentCheck) = false ∧
      ∃ t report, 1600000 ≤ t ∧ (Occurrence.next.after inMemory (Occurrence.course inMemory
          freshPoller silentCheck)).core.registry.find? 1 = some report ∧ report.prevSync = t := by
  have hopen : hasEnded 1 (Occurrence.handled inMemory freshPoller silentCheck) = false := by
    decide +kernel
  have hqueue : (Occurrence.course inMemory freshPoller silentCheck).core.queue =
      [.watchdogFired 1] := by
    decide +kernel
  have htracked : (1 : Int) ∈
      (Occurrence.course inMemory freshPoller silentCheck).core.registry.ids := by
    decide +kernel
  have hwithin : ∀ o ∈ silentCheck, o.Within OfTwoAccounts := by
    intro o ho
    simp only [silentCheck, List.mem_cons, List.not_mem_nil, or_false] at ho
    rcases ho with rfl | rfl | rfl | rfl
    · exact trivial
    · exact trivial
    · exact ofTwoAccounts_twoAccountsWorld
    · exact trivial
  have hclock : (Occurrence.course inMemory freshPoller silentCheck).clock = 1600000 := by
    decide +kernel
  obtain ⟨t, t', ht, -, -, -, hmoved, -⟩ := watchdog_moves_open_checks dependable_inMemory
    dependable_inMemory ofTwoAccounts_twoAccountsWorld rfl hwithin hqueue
    (dependable_inMemory.completed_course hwithin ofTwoAccounts_twoAccountsWorld []
      fun _ => iff_of_false List.not_mem_nil Bool.false_ne_true).1 (Or.inl htracked)
  obtain ⟨⟨report, hreport, hprev, -⟩, -⟩ := hmoved hopen
  rw [hclock] at ht
  exact ⟨hopen, t, report, ht, hreport, hprev⟩

end Rehearsal

end MailSchedule
