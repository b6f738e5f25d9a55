import MailSchedule.Proofs.Occurrences
import MailSchedule.Proofs.SteadyStore

/-!
# Registries that are wholly loaded

While the accounts of the store stay the same, the registry is empty or tracks exactly the live
accounts, with one exception: a notification and a progress report have their account loaded by
itself, and while nothing is tracked nobody loads the others before.

Results:

* `LoadsAlone`: the messages that have one account loaded and leave the others out.
* `process_whole_iff`: after handling a message the registry is whole unless it is one of these.
* `whole_iff_no_gap`: the registry is whole throughout a course of events unless one of these is
  handled in it.
-/

namespace MailSchedule

variable {ω : Type}

/-! ## Accounts that are added -/

/-- One account of several is to be tracked by itself. -/
def SetsApart (rows : List Account.Draft) (ids : List Int) (id : Int) : Prop :=
  ids = [] ∧ id ∈ liveIds rows ∧ ∃ other ∈ liveIds rows, other ≠ id

/-- A registry that has one account added, if it is live, stays whole unless the account is one of
several and the only one tracked. -/
theorem Whole.add_iff {rows : List Account.Draft} {ids ids' : List Int} (h : Whole rows ids)
    {id : Int} (hadd : ∀ x, x ∈ ids' ↔ x ∈ ids ∨ (x = id ∧ x ∈ liveIds rows)) :
    Whole rows ids' ↔ ¬SetsApart rows ids id := by
  constructor
  · rintro hwhole ⟨rfl, hlive, other, hother, hne⟩
    have hid : id ∈ ids' := (hadd id).2 (Or.inr ⟨rfl, hlive⟩)
    rcases hwhole with rfl | hfull
    · cases hid
    · rcases (hadd other).1 ((hfull other).2 hother) with hmem | ⟨heq, -⟩
      · cases hmem
      · exact hne heq
  · intro hgap
    rcases h with rfl | hfull
    · by_cases hlive : id ∈ liveIds rows
      · refine Or.inr fun x => ⟨fun hx => ?_, fun hx => ?_⟩
        · rcases (hadd x).1 hx with hmem | ⟨-, hx⟩
          · cases hmem
          · exact hx
        · refine (hadd x).2 (Or.inr ⟨?_, hx⟩)
          exact Decidable.byContradiction fun hne => hgap ⟨rfl, hlive, x, hx, hne⟩
      · left
        refine List.eq_nil_iff_forall_not_mem.2 fun x hx => ?_
        rcases (hadd x).1 hx with hmem | ⟨rfl, hx⟩
        · cases hmem
        · exact hlive hx
    · refine Or.inr fun x => ⟨fun hx => ?_, fun hx => (hadd x).2 (Or.inl ((hfull x).2 hx))⟩
      rcases (hadd x).1 hx with hx | ⟨-, hx⟩
      · exact (hfull x).1 hx
      · exact hx

/-! ## Actions that load nothing by itself -/

/-- An action leaves a whole registry whole, and as long as anything is tracked it leaves alone
which accounts are. -/
structure Act.Neutral {α : Type} (act : Act ω α) (I : ω → Prop) (rows : List Account.Draft) :
    Prop where
  whole : act.Keeps (Tracks I (Whole rows))
  same : ∀ l, l ≠ [] → act.Keeps (Tracks I (· = l))

namespace Act.Neutral

variable {α β : Type} {I : ω → Prop} {rows : List Account.Draft}

theorem of_keeps {act : Act ω α} (h : ∀ X, act.Keeps (Tracks I X)) : act.Neutral I rows :=
  ⟨h _, fun _ _ => h _⟩

theorem pure (a : α) : Act.Neutral (Pure.pure a : Act ω α) I rows := of_keeps fun _ => .pure a

theorem bind {act : Act ω α} {next : α → Act ω β} (h : act.Neutral I rows)
    (hnext : ∀ a, (next a).Neutral I rows) : (act >>= next).Neutral I rows where
  whole := h.whole.bind fun a => (hnext a).whole
  same l hl := (h.same l hl).bind fun a => (hnext a).same l hl

theorem ite {c : Prop} [Decidable c] {act act' : Act ω α} (h : act.Neutral I rows)
    (h' : act'.Neutral I rows) : Act.Neutral (if c then act else act') I rows := by
  split
  · exact h
  · exact h'

/-- After such an action the registry is whole if and only if it was before. -/
theorem whole_iff {act : Act ω α} (h : act.Neutral I rows) {s : System ω} (hs : I s.world) :
    I (act.run s).2.world ∧ (Whole rows (act.run s).2.core.registry.ids ↔
      Whole rows s.core.registry.ids) := by
  by_cases hids : s.core.registry.ids = []
  · have hwhole : Whole rows s.core.registry.ids := Or.inl hids
    have h1 := h.whole s ⟨hs, hwhole⟩
    exact ⟨h1.1, iff_of_true h1.2 hwhole⟩
  · have h1 := h.same _ hids s ⟨hs, rfl⟩
    exact ⟨h1.1, by rw [h1.2]⟩

end Act.Neutral

namespace Surroundings.Fixed

variable {env : Surroundings ω} {I : ω → Prop} {rows : List Account.Draft}
  {enabled : Text → Bool} {counted : Int → Bool} {withProtocol : Text → List Int}
  (h : env.Fixed I rows enabled counted withProtocol)
include h

theorem announce_keeps (id : Int) (X : List Int → Prop) :
    (announce env id).Keeps (Tracks I X) :=
  (h.respects X).announce id fun s hs => ⟨hs.1, by
    dsimp only
    rw [Registry.ids_modify]
    exact hs.2⟩

theorem resetCounts_keeps (target : Option Int) (X : List Int → Prop) :
    (resetCounts env target).Keeps (Tracks I X) :=
  (h.spares X).resetCounts target fun s hs => ⟨hs.1, by
    dsimp only
    unfold Registry.clearCounts
    rw [Registry.ids_map]
    exact hs.2⟩

theorem rearm_leads : (rearm env).Leads (Tracks I (Whole rows)) (Tracks I (Full rows)) :=
  (h.respects _).rearm (fun _ _ hs => hs) h.load_fillIfEmpty

theorem rearm_full : Act.Keeps (do let _ ← rearm env) (Tracks I (Full rows)) :=
  Act.Keeps.bind (fun s hs => h.rearm_leads s hs.whole) fun _ => .pure _

/-- Rearming fills an empty registry with all accounts. -/
theorem rearm_neutral : Act.Neutral (do let _ ← rearm env) I rows := by
  refine Act.Neutral.bind ⟨fun s hs => (h.rearm_leads s hs).whole, fun l hl => ?_⟩ fun _ => .pure _
  refine (h.respects _).rearm (fun _ _ hs => hs) fun s hs => ?_
  rw [load_fillIfEmpty_of_ids env (by rw [hs.2]; exact hl)]
  exact hs

/-! ## Messages that load everything -/

theorem checkAccount_full (id : Int) : (checkAccount env id).Keeps (Tracks I (Full rows)) :=
  (Act.Keeps.openCheck (fun _ _ hs hc _ => hs.aside hc)
    ((h.respects _).armWatchdog (fun _ _ hs => hs) id)).bind fun _ =>
    ((h.spares _).tryStart id).bind fun _ =>
      .ite ((h.update_full id none).bind fun _ => h.rearm_full) (.pure _)

theorem handleCheck_leads (account : Option Int) (snapshot : Option Snapshot) :
    (handleCheck env account snapshot).Leads (Tracks I (Whole rows)) (Tracks I (Full rows)) := by
  have hload := h.load_fillIfEmpty
  have hrestore : ∀ saved, (restore env saved).Leads (Tracks I (Whole rows))
      (Tracks I (Full rows)) := by
    intro saved
    refine hload.bind (fun _ hs => hs) fun _ s hs => ⟨hs.1, ?_⟩
    rw [run_modifyRegistry]
    dsimp only
    rw [Registry.ids_restore]
    exact hs.2
  cases snapshot with
  | none =>
    cases account with
    | none => exact hload.bind (fun _ hs => hs) fun _ => h.rearm_full
    | some id => exact hload.bind (fun _ hs => hs) fun _ => h.checkAccount_full id
  | some saved =>
    cases account with
    | none => exact (hrestore saved).bind (fun _ hs => hs) fun _ => h.rearm_full
    | some id => exact (hrestore saved).bind (fun _ hs => hs) fun _ => h.checkAccount_full id

theorem handleWatchdog_leads (id : Int) :
    (handleWatchdog env id).Leads (Tracks I (Whole rows)) (Tracks I (Whole rows)) := by
  refine Act.Leads.bind (R := Tracks I (Whole rows)) (fun s hs => hs) (fun _ hs => hs)
    fun c => ?_
  split
  · refine Act.Leads.bind ((h.spares _).note _) (fun _ hs => hs) fun _ => ?_
    refine h.load_fillIfEmpty.bind (fun _ => Tracks.whole) fun _ => ?_
    exact .of_keeps ((h.update_full id none).bind fun _ => h.rearm_full) fun _ => Tracks.whole
  · exact h.rearm_neutral.whole

/-- Rebuilding the registry and rearming. -/
theorem rebuild_leads : Act.Leads (do
    MailSchedule.refresh env
    let _ ← rearm env) (Tracks I (Whole rows)) (Tracks I (Whole rows)) :=
  h.refresh.bind (fun _ => Tracks.whole) fun _ =>
    .of_keeps h.rearm_full fun _ => Tracks.whole

theorem handleComplete_leads (id : Int) (unseen : Option Int) (error : Option Fault) :
    (handleComplete env id unseen error).Leads (Tracks I (Whole rows)) (Tracks I (Whole rows)) := by
  refine Act.Leads.bind (R := Tracks I (Whole rows)) (fun s hs => hs) (fun _ hs => hs) fun c => ?_
  refine Act.Leads.bind (R := Tracks I (Whole rows)) (fun s hs => hs) (fun _ hs => hs) fun _ => ?_
  refine h.load_fillIfEmpty.bind (fun _ => Tracks.whole) fun _ => ?_
  refine .of_keeps ?_ fun _ => Tracks.whole
  cases error with
  | some e =>
    exact ((h.spares _).note _).bind fun _ => (h.update_full id none).bind fun _ => h.rearm_full
  | none =>
    cases unseen with
    | none => exact (h.update_full id none).bind fun _ => h.rearm_full
    | some n =>
      exact (h.update_full id (some n)).bind fun _ =>
        .ite ((h.announce_keeps id _).bind fun _ => h.rearm_full) h.rearm_full

/-! ## Messages that load one account -/

/-- What a message whose check is recorded does afterwards changes nothing about whether the
registry is whole. -/
theorem whole_update_iff (id : Int) (unseen : Option Int) {next : Option Report → Act ω Unit}
    (hnext : ∀ report, (next report).Neutral I rows) {s : System ω}
    (hs : Tracks I (Whole rows) s) :
    I (Act.run (MailSchedule.update env id unseen >>= next) s).2.world ∧
      (Whole rows (Act.run (MailSchedule.update env id unseen >>= next) s).2.core.registry.ids ↔
        ¬SetsApart rows s.core.registry.ids id) := by
  obtain ⟨report, s', hr, hs', hadd⟩ := h.update id unseen hs.1
  rw [Act.run_bind, hr]
  have h1 := (hnext report).whole_iff hs'
  exact ⟨h1.1, h1.2.trans (hs.2.add_iff hadd)⟩

theorem whole_handleNotify_iff (id : Int) {s : System ω} (hs : Tracks I (Whole rows) s) :
    I ((handleNotify env id).run s).2.world ∧
      (Whole rows ((handleNotify env id).run s).2.core.registry.ids ↔
        ¬(counted id = true ∧ SetsApart rows s.core.registry.ids id)) := by
  have hrearm := h.rearm_neutral
  unfold handleNotify
  obtain ⟨s1, h1, hr1⟩ := (h.call (c := .newMessageCount id) rfl
    (· = s.core.registry.ids)).run_bind ⟨hs.1, rfl⟩ _
  rw [hr1]
  obtain ⟨c, w, hanswer, hw, hcounted⟩ := h.count id s1.world h1.1
  rw [Act.run_bind, run_answer_ok s1 hanswer]
  have hs2 : Tracks I (Whole rows) { s1 with world := w } :=
    ⟨hw, by dsimp only; rw [h1.2]; exact hs.2⟩
  cases c with
  | none =>
    have h3 := hrearm.whole_iff hs2.1
    refine ⟨h3.1, h3.2.trans (iff_of_true hs2.2 fun hgap => ?_)⟩
    rw [← hcounted] at hgap
    cases hgap.1
  | some n =>
    have hnext : ∀ report : Option Report, Act.Neutral (if report.isSome = true then do
          let _ ← announce env id
          let _ ← rearm env
        else do let _ ← rearm env) I rows := fun report =>
      .ite ((Act.Neutral.of_keeps (h.announce_keeps id)).bind fun _ => hrearm) hrearm
    have h3 := h.whole_update_iff id (some n) hnext hs2
    dsimp only at h3
    rw [h1.2] at h3
    exact ⟨h3.1, h3.2.trans (not_congr (by simp [← hcounted]))⟩

theorem whole_handleProgress_iff (id mailbox progress : Int) (error : Option Fault)
    (unseen : Option Int) {s : System ω} (hs : Tracks I (Whole rows) s) :
    I ((handleProgress env id mailbox progress error unseen).run s).2.world ∧
      (Whole rows
          ((handleProgress env id mailbox progress error unseen).run s).2.core.registry.ids ↔
        ¬(((error.isSome ∨ progress = progressDone) ∧
          ((findInbox env id).run s).1 = .ok (some mailbox)) ∧
          SetsApart rows s.core.registry.ids id)) := by
  unfold handleProgress
  by_cases hearly : (error.isNone && progress != progressDone) = true
  · rw [if_pos hearly]
    refine ⟨hs.1, iff_of_true hs.2 ?_⟩
    rintro ⟨⟨hcounts, -⟩, -⟩
    cases error <;> simp_all
  rw [if_neg hearly, Act.run_bind]
  have hcounts : error.isSome ∨ progress = progressDone := by
    cases error <;> simp_all
  have h1 := (h.spares (· = s.core.registry.ids)).findInbox id s ⟨hs.1, rfl⟩
  rcases hr1 : (findInbox env id).run s with ⟨_ | inbox, s1⟩
  · rw [hr1] at h1
    dsimp only
    rw [h1.2]
    exact ⟨h1.1, iff_of_true hs.2 fun hgap => by cases hgap.1.2⟩
  rw [hr1] at h1
  have hs1 : Tracks I (Whole rows) s1 := ⟨h1.1, by rw [h1.2]; exact hs.2⟩
  dsimp only
  by_cases hother : (inbox != some mailbox) = true
  · rw [if_pos hother]
    refine ⟨hs1.1, iff_of_true hs1.2 ?_⟩
    rintro ⟨⟨-, heq⟩, -⟩
    rw [Except.ok.inj heq] at hother
    simp at hother
  rw [if_neg hother]
  have hinbox : inbox = some mailbox := by simpa using hother
  have hiff : ¬SetsApart rows s1.core.registry.ids id ↔
      ¬(((error.isSome ∨ progress = progressDone) ∧
        (Except.ok inbox : Except Fault (Option Int)) = .ok (some mailbox)) ∧
        SetsApart rows s.core.registry.ids id) := by
    rw [h1.2, hinbox]
    simp [hcounts]
  by_cases hdone : progress = progressDone
  · rw [if_pos hdone]
    have hnext : ∀ _ : Option Report, Act.Neutral (if (unseen.getD 0 != 0) = true then do
          let _ ← announce env id
          modifyCore fun c => { c with
            announced := (id, unseen.getD 0) :: c.announced.filter (·.1 ≠ id) }
        else pure ()) I rows := fun _ =>
      .ite ((Act.Neutral.of_keeps (h.announce_keeps id)).bind fun _ =>
        .of_keeps fun X s hs => hs) (.pure _)
    have h3 := h.whole_update_iff id unseen hnext hs1
    exact ⟨h3.1, h3.2.trans hiff⟩
  · rw [if_neg hdone]
    have hnext : ∀ _ : Option Report, Act.Neutral (pure () : Act ω Unit) I rows :=
      fun _ => .pure ()
    have h3 := h.whole_update_iff id none hnext hs1
    exact ⟨h3.1, h3.2.trans hiff⟩

end Surroundings.Fixed

/-- The messages that have one account loaded by itself: the notification of an account with a
stored count, and a progress report that counts, about the inbox of an account. -/
def LoadsAlone (env : Surroundings ω) (counted : Int → Bool) (s : System ω) :
    Message → Int → Prop
  | .notifyRequested id, x => x = id ∧ counted id = true
  | .checkProgress id mailbox progress error _, x =>
    x = id ∧ (error.isSome ∨ progress = progressDone) ∧
      ((findInbox env id).run s).1 = .ok (some mailbox)
  | _, _ => False

/-- Handling a message has one live account of several loaded by itself, while none is tracked. -/
def Gap (env : Surroundings ω) (rows : List Account.Draft) (counted : Int → Bool)
    (s : System ω) (m : Message) : Prop :=
  ∃ id, LoadsAlone env counted (s.begun env m) m id ∧ SetsApart rows s.core.registry.ids id

namespace Surroundings.Fixed

variable {env : Surroundings ω} {I : ω → Prop} {rows : List Account.Draft}
  {enabled : Text → Bool} {counted : Int → Bool} {withProtocol : Text → List Int}
  (h : env.Fixed I rows enabled counted withProtocol)
include h

theorem deleteProtocol_leads (protocol : Text) :
    (handleDeleteProtocol env protocol).Leads (Tracks I (Whole rows)) (Tracks I (Whole rows)) := by
  refine Act.Leads.bind ((h.respects _).call _) (fun _ hs => hs) fun _ => ?_
  refine Act.Leads.bind ((h.respects _).idsWithProtocol _) (fun _ hs => hs) fun ids => ?_
  exact Act.Leads.bind ((h.spares _).deleteAccounts ids) (fun _ hs => hs) fun _ =>
    h.rebuild_leads

/-- Handling a message leaves a whole registry whole, unless it opens a gap. -/
theorem whole_handle_iff (m : Message) {s : System ω} (hs : Tracks I (Whole rows) s) :
    I ((handle env m).run s).2.world ∧ (Whole rows ((handle env m).run s).2.core.registry.ids ↔
      ¬∃ id, LoadsAlone env counted s m id ∧ SetsApart rows s.core.registry.ids id) := by
  have hleads : (handle env m).Leads (Tracks I (Whole rows)) (Tracks I (Whole rows)) →
      (∀ id, ¬LoadsAlone env counted s m id) →
      I ((handle env m).run s).2.world ∧ (Whole rows ((handle env m).run s).2.core.registry.ids ↔
        ¬∃ id, LoadsAlone env counted s m id ∧ SetsApart rows s.core.registry.ids id) := by
    intro hwhole hnot
    have h1 := hwhole s hs
    exact ⟨h1.1, iff_of_true h1.2 fun ⟨id, hid, _⟩ => hnot id hid⟩
  cases m with
  | checkRequested account snapshot =>
    refine hleads (fun s hs => ?_) fun _ => not_false
    exact (h.handleCheck_leads account snapshot s hs).whole
  | watchdogFired id => exact hleads (h.handleWatchdog_leads id) fun _ => not_false
  | rescheduleRequested =>
    exact hleads (Act.Leads.bind ((h.respects _).call _) (fun _ hs => hs) fun _ =>
      h.rebuild_leads) fun _ => not_false
  | cancelRequested =>
    exact hleads ((h.spares _).abides.disarm fun _ _ hs => hs) fun _ => not_false
  | notifyRequested id =>
    have h1 := h.whole_handleNotify_iff id hs
    exact ⟨h1.1, h1.2.trans (not_congr (by simp [LoadsAlone]))⟩
  | sendPendingRequested id =>
    exact hleads (((h.respects _).call _).bind fun _ => h.rearm_neutral.whole) fun _ => not_false
  | deleteProtocolRequested protocol =>
    exact hleads (h.deleteProtocol_leads protocol) fun _ => not_false
  | checkProgress id mailbox progress error unseen =>
    have h1 := h.whole_handleProgress_iff id mailbox progress error unseen hs
    exact ⟨h1.1, h1.2.trans (not_congr (by simp [LoadsAlone]))⟩
  | checkComplete id unseen error =>
    exact hleads (h.handleComplete_leads id unseen error) fun _ => not_false

theorem process_whole_iff (m : Message) {s : System ω} (hs : Tracks I (Whole rows) s) :
    I ((process env m).run s).2.world ∧ (Whole rows ((process env m).run s).2.core.registry.ids ↔
      ¬Gap env rows counted s m) := by
  have hbegun : ∀ X, Tracks I X s → Tracks I X (s.begun env m) := fun X hX =>
    (h.spares X).reconcile s hX
  obtain ⟨j, hj⟩ := process_snd env m s
  rw [hj]
  have h1 := h.whole_handle_iff m (hbegun _ hs)
  rw [(hbegun (· = s.core.registry.ids) ⟨hs.1, rfl⟩).2] at h1
  exact h1

end Surroundings.Fixed

/-! ## Courses of events -/

namespace Occurrence

/-- The next message that waits opens a gap. -/
def OpensGap (env : Surroundings ω) (rows : List Account.Draft) (counted : Int → Bool)
    (s : System ω) : Occurrence ω → Prop
  | next => ∃ m rest, s.core.queue = m :: rest ∧
    Gap env rows counted { s with core := { s.core with queue := rest } } m
  | _ => False

end Occurrence

namespace Surroundings.Fixed

variable {env : Surroundings ω} {I : ω → Prop} {rows : List Account.Draft}
  {enabled : Text → Bool} {counted : Int → Bool} {withProtocol : Text → List Int}
  (h : env.Fixed I rows enabled counted withProtocol)
include h

/-- An occurrence leaves a whole registry whole, unless it opens a gap. -/
theorem after_whole_iff {o : Occurrence ω} (ho : o.Within I) {s : System ω}
    (hs : Tracks I (Whole rows) s) :
    I (o.after env s).world ∧
      (Whole rows (o.after env s).core.registry.ids ↔ ¬o.OpensGap env rows counted s) := by
  have hkeeps : ∀ act : Act ω Unit, act.Keeps (Tracks I (Whole rows)) →
      I (act.run s).2.world ∧
        (Whole rows (act.run s).2.core.registry.ids ↔ ¬False) := fun act hact =>
    ⟨(hact s hs).1, iff_of_true (hact s hs).2 not_false⟩
  cases o with
  | submit m => exact hkeeps _ ((h.spares _).submit fun _ hs => hs.aside rfl)
  | wake payload => exact hkeeps _ ((h.spares _).wake fun _ _ _ hs => hs.aside rfl)
  | resetCounts target => exact hkeeps _ (h.resetCounts_keeps target _)
  | next =>
    cases hqueue : s.core.queue with
    | nil =>
      rw [after_next_nil env hqueue]
      refine ⟨hs.1, iff_of_true hs.2 ?_⟩
      rintro ⟨m, rest, hcons, -⟩
      rw [hqueue] at hcons
      cases hcons
    | cons m rest =>
      rw [after_next_cons env hqueue]
      have h1 := h.process_whole_iff m (s := { s with core := { s.core with queue := rest } }) hs
      refine ⟨h1.1, h1.2.trans (not_congr ⟨fun hgap => ⟨m, rest, hqueue, hgap⟩, ?_⟩)⟩
      rintro ⟨m', rest', hcons, hgap⟩
      rw [hqueue] at hcons
      obtain ⟨rfl, rfl⟩ := List.cons.inj hcons
      exact hgap
  | elapse clock world => exact ⟨ho, iff_of_true hs.2 not_false⟩

end Surroundings.Fixed

/-- Throughout a course of events that begins with nothing remembered the registry is empty or
tracks exactly the live accounts, if and only if no message opens a gap in it. -/
theorem whole_iff_no_gap {env : Surroundings ω} {I : ω → Prop} {rows : List Account.Draft}
    {enabled : Text → Bool} {counted : Int → Bool} {withProtocol : Text → List Int}
    (h : env.Fixed I rows enabled counted withProtocol) {s : System ω} (hs : I s.world)
    (hcore : s.core = {}) {os : List (Occurrence ω)} (hos : ∀ o ∈ os, o.Within I) :
    (∀ n, Whole rows (Occurrence.course env s (os.take n)).core.registry.ids) ↔
      ∀ (n : Nat) (o : Occurrence ω), os[n]? = some o →
        ¬o.OpensGap env rows counted (Occurrence.course env s (os.take n)) := by
  have hwhole : Tracks I (Whole rows) s := ⟨hs, Or.inl (by rw [hcore]; rfl)⟩
  clear hcore hs
  induction os generalizing s with
  | nil =>
    refine iff_of_true (fun n => ?_) fun n o ho => by cases ho
    rw [List.take_nil]
    exact hwhole.2
  | cons o os ih =>
    have h1 := h.after_whole_iff (hos o List.mem_cons_self) hwhole
    have hstep : ∀ n, Occurrence.course env s ((o :: os).take (n + 1)) =
        Occurrence.course env (o.after env s) (os.take n) := fun n => rfl
    constructor
    · intro hall n p hp
      have hrest := (ih (fun o ho => hos o (List.mem_cons_of_mem _ ho))
        (s := o.after env s) ⟨h1.1, hall 1⟩).1 fun n => hall (n + 1)
      cases n with
      | zero =>
        cases hp
        exact h1.2.1 (hall 1)
      | succ n => exact hrest n p hp
    · intro hall n
      have hfirst := h1.2.2 (hall 0 o rfl)
      cases n with
      | zero => exact hwhole.2
      | succ n =>
        exact (ih (fun o ho => hos o (List.mem_cons_of_mem _ ho)) (s := o.after env s)
          ⟨h1.1, hfirst⟩).2 (fun n p hp => hall (n + 1) p hp) n

/-! ## Two accounts, one of them named -/

namespace Rehearsal

/-- A check of whichever account is due has all accounts loaded, and a notification after it finds
them tracked. -/
theorem whole_after_check :
    inMemory.Fixed OfTwoAccounts twoAccounts.accounts (fun _ => true)
      (fun id => (twoAccounts.find? id).isSome) twoAccounts.idsWithProtocol ∧
    ∀ n, Whole twoAccounts.accounts (Occurrence.course inMemory freshPoller
      ([.submit (.checkRequested none none), .next, .submit (.notifyRequested 1),
        .next].take n)).core.registry.ids := by
  refine ⟨fixed_inMemory,
    (whole_iff_no_gap fixed_inMemory ofTwoAccounts_twoAccountsWorld rfl ?_).2 ?_⟩
  · intro o ho
    simp only [List.mem_cons, List.not_mem_nil, or_false] at ho
    rcases ho with rfl | rfl | rfl | rfl <;> exact trivial
  · intro n o ho
    match n, ho with
    | 0, rfl => exact not_false
    | 1, rfl =>
      rintro ⟨m, rest, hqueue, id, halone, -⟩
      cases hqueue
      exact halone
    | 2, rfl => exact not_false
    | 3, rfl =>
      rintro ⟨m, rest, -, id, -, hids, -⟩
      cases hids
    | n + 4, ho => cases ho

/-- The notification of one of two accounts, when it comes first, leaves the other one out. -/
theorem not_whole_after_notify :
    inMemory.Fixed OfTwoAccounts twoAccounts.accounts (fun _ => true)
      (fun id => (twoAccounts.find? id).isSome) twoAccounts.idsWithProtocol ∧
    ¬∀ n, Whole twoAccounts.accounts (Occurrence.course inMemory freshPoller
      ([.submit (.notifyRequested 1), .next].take n)).core.registry.ids := by
  refine ⟨fixed_inMemory, fun hall => ?_⟩
  have hids : (Occurrence.course inMemory freshPoller
      ([.submit (.notifyRequested 1), .next].take 2)).core.registry.ids = [1] := rfl
  have hwhole := hall 2
  rw [hids] at hwhole
  rcases hwhole with hnil | hfull
  · cases hnil
  · have htwo : (2 : Int) ∈ [1] := (hfull 2).2 (by decide)
    exact absurd htwo (by decide)

end Rehearsal

end MailSchedule
