import MailSchedule.Proofs.Course
import MailSchedule.Proofs.Occurrences

/-!
# The queue is worked off

Collaborators may fail at every call, and while they are being called they may submit further
messages.  As long as these come to an end, working off the queue handles each message once, in the
order in which they were submitted and one after the other, with one reconciliation before each.  It
raises nothing, counts the messages and leaves no one waiting.

Results:

* `marks`, `markedBy`: the events that show which messages were handled, and in which order.
* `Surroundings.Submits`: collaborators that submit messages, of which a log is kept.
* `Surroundings.Submits.after_next`: what handling the next message does to the queue.
* `drain_handles_all`: working off the queue.
-/

namespace MailSchedule

variable {ω : Type}

/-! ## Marks -/

/-- Whether an event shows that the handling of a message begins or has ended, or that the accounts
are reconciled. -/
def Event.isMark : Event → Bool
  | .called .reconcile => true
  | .began _ => true
  | .ended _ => true
  | _ => false

/-- The events that show which messages were handled. -/
def marks (events : List Event) : List Event := events.filter (·.isMark)

theorem marks_reverse (events : List Event) : marks events.reverse = (marks events).reverse :=
  List.filter_reverse ..

/-- What the handling of one message shows: one reconciliation if anyone reconciles, then that it
begins, and then that it has ended. -/
def markedBy (env : Surroundings ω) (m : Message) : List Event :=
  (if env.reconciles then [.called .reconcile] else []) ++ [.began m, .ended m]

/-! ## Collaborators that submit messages -/

/-- Collaborators may submit messages to an open poller while they are being called, and a log of
these is kept in the world.  They do not handle messages themselves. -/
structure Surroundings.Submits (env : Surroundings ω) (sent : ω → List Message) : Prop where
  queue : ∀ c s, s.core.closed = false → ∃ ms,
    ((env.during c).run s).2.core.queue = s.core.queue ++ ms ∧
      sent ((env.during c).run s).2.world = sent s.world ++ ms
  closed : ∀ c s, s.core.closed = false → ((env.during c).run s).2.core.closed = false
  marks : ∀ c s, marks ((env.during c).run s).2.journal = marks s.journal
  list : ∀ w, sent (env.source.list w).2 = sent w
  get : ∀ id w, sent (env.source.get id w).2 = sent w
  isSyncEnabled : ∀ email w, sent (env.source.isSyncEnabled email w).2 = sent w
  count : ∀ id w, sent (env.source.count id w).2 = sent w
  idsWithProtocol : ∀ protocol w, sent (env.source.idsWithProtocol protocol w).2 = sent w
  delete : ∀ id w, sent (env.checker.delete id w).2 = sent w

/-- The poller is open, the messages that were submitted since wait behind those that waited before,
and the events show that the same messages were handled. -/
structure Awaits (sent : ω → List Message) (waiting submitted : List Message) (marked : List Event)
    (s : System ω) : Prop where
  isOpen : s.core.closed = false
  queue : ∃ ms, s.core.queue = waiting ++ ms ∧ sent s.world = submitted ++ ms
  marks : marks s.journal = marked

namespace Awaits

variable {sent : ω → List Message} {q l : List Message} {k : List Event} {s : System ω}

/-- What is remembered besides the queue does not matter. -/
theorem aside (h : Awaits sent q l k s) {c : Core} (hqueue : c.queue = s.core.queue)
    (hclosed : c.closed = s.core.closed) : Awaits sent q l k { s with core := c } where
  isOpen := hclosed.trans h.isOpen
  queue := by
    dsimp only
    rw [hqueue]
    exact h.queue
  marks := h.marks

theorem set_timer (h : Awaits sent q l k s) (w : Option Wake) :
    Awaits sent q l k { s with timer := w } := ⟨h.isOpen, h.queue, h.marks⟩

theorem record (h : Awaits sent q l k s) {e : Event} (he : e.isMark = false) :
    Awaits sent q l k { s with journal := e :: s.journal } where
  isOpen := h.isOpen
  queue := h.queue
  marks := by
    unfold MailSchedule.marks
    rw [List.filter_cons_of_neg (Bool.eq_false_iff.1 he)]
    exact h.marks

theorem mark (h : Awaits sent q l k s) {e : Event} (he : e.isMark = true) :
    Awaits sent q l (e :: k) { s with journal := e :: s.journal } where
  isOpen := h.isOpen
  queue := h.queue
  marks := by
    unfold MailSchedule.marks
    rw [List.filter_cons_of_pos he]
    exact congrArg (e :: ·) h.marks

theorem keeps_note (n : Notice) : Act.Keeps (note n) (Awaits sent q l k) :=
  fun _ hs => hs.record rfl

theorem keeps_answer {α : Type} {reply : Reply ω α} (h : ∀ w, sent (reply w).2 = sent w) :
    (answer reply).Keeps (Awaits sent q l k) := by
  refine .answer reply keeps_note fun s hs => ⟨hs.isOpen, ?_, hs.marks⟩
  dsimp only
  rw [h]
  exact hs.queue

end Awaits

/-! ## Handling messages -/

namespace Surroundings.Submits

variable {env : Surroundings ω} {sent : ω → List Message} (h : env.Submits sent)
  {q l : List Message} {k : List Event}
include h

theorem during (c : Call) : (env.during c).Keeps (Awaits sent q l k) := by
  intro s hs
  obtain ⟨ms, hqueue, hsent⟩ := hs.queue
  obtain ⟨ms', hqueue', hsent'⟩ := h.queue c s hs.isOpen
  refine ⟨h.closed c s hs.isOpen, ⟨ms ++ ms', ?_, ?_⟩, (h.marks c s).trans hs.marks⟩
  · rw [hqueue', hqueue, List.append_assoc]
  · rw [hsent', hsent, List.append_assoc]

theorem call {c : Call} (hc : c.kind ≠ .reconcile) : (env.call c).Keeps (Awaits sent q l k) := by
  refine Act.Keeps.bind (fun s hs => hs.record ?_) fun _ => h.during c
  cases c with
  | reconcile => exact absurd rfl hc
  | _ => rfl

theorem abides : env.Abides (Awaits sent q l k) where
  note := Awaits.keeps_note
  call _ hc := h.call hc.2.2
  list := Awaits.keeps_answer h.list
  get id := Awaits.keeps_answer (h.get id)
  isSyncEnabled email := Awaits.keeps_answer (h.isSyncEnabled email)
  count id := Awaits.keeps_answer (h.count id)
  idsWithProtocol protocol := Awaits.keeps_answer (h.idsWithProtocol protocol)
  delete id := Awaits.keeps_answer (h.delete id)

theorem overlooks : env.Overlooks (Awaits sent q l k) where
  toAbides := h.abides
  tracked _ _ _ hs := hs.aside rfl rfl

theorem rearm : (rearm env).Keeps (Awaits sent q l k) :=
  h.abides.rearm (fun _ _ => h.call nofun) (fun _ w hs => hs.set_timer w)
    (h.overlooks.load .fillIfEmpty)

/-- None of the operations of which the handling of a message consists takes a message from the
queue, or shows that one is handled. -/
theorem sustains (m : Message) : env.Sustains m (Awaits sent q l k) (Awaits sent q l k) where
  toAbides := h.abides
  opened _ _ _ _ hs := hs.aside rfl rfl
  ended _ _ _ _ _ hs := hs.aside rfl rfl
  told _ _ _ _ _ _ _ hs := hs.aside rfl rfl
  fill := h.overlooks.load .fillIfEmpty
  restore _ saved _ := h.overlooks.restore saved
  refresh _ _ := h.overlooks.refresh
  update id unseen _ _ := h.overlooks.update id unseen
  armWatchdog id _ _ := .armWatchdog (fun _ _ => h.call nofun) (fun _ w hs => hs.set_timer w) id
  disarm _ := h.abides.disarm fun _ w hs => hs.set_timer w
  announce id _ := Act.Keeps.announce id (fun _ _ _ => h.call nofun)
    fun _ hs => hs.aside rfl rfl
  silent _ hs := hs
  rearmAfter := h.rearm

/-- Reconciling shows itself once, whether or not it fails. -/
theorem reconcile : (reconcile env).Leads (Awaits sent q l k)
    (Awaits sent q l ((if env.reconciles then [.called .reconcile] else []) ++ k)) := by
  intro s hs
  unfold MailSchedule.reconcile
  cases env.reconciles with
  | false => exact hs
  | true =>
    have hduring : (env.during .reconcile).Keeps
      (Awaits sent q l (.called .reconcile :: k)) := h.during .reconcile
    exact hduring.tryCatch (fun e => Awaits.keeps_note (.reconciliationFailed e)) _ (hs.mark rfl)

/-- Processing a message shows itself as it should, and nothing else is processed meanwhile. -/
theorem process (m : Message) : (process env m).Leads (Awaits sent q l k)
    (Awaits sent q l ((markedBy env m).reverse ++ k)) := by
  intro s hs
  have hreconciled := h.reconcile s hs
  have hbegun := hreconciled.mark (e := .began m) rfl
  have hhandled := (h.sustains m).handle (s.begun env m) hbegun
  have hmarks : (markedBy env m).reverse ++ k = .ended m :: .began m ::
      ((if env.reconciles then [.called .reconcile] else []) ++ k) := by
    unfold markedBy
    split
    · rfl
    · rfl
  rw [hmarks, run_process]
  revert hhandled
  rcases (handle env m).run (s.begun env m) with ⟨_ | _, s'⟩
  · exact fun hhandled => (hhandled.record rfl).mark rfl
  · exact fun hhandled => hhandled.mark rfl

/-- Handling the next message takes it from the queue, and what is submitted meanwhile waits behind
the others. -/
theorem after_next {s : System ω} (hopen : s.core.closed = false) {m : Message}
    {rest : List Message} (hqueue : s.core.queue = m :: rest) :
    Awaits sent rest (sent s.world) ((markedBy env m).reverse ++ MailSchedule.marks s.journal)
      (Occurrence.next.after env s) := by
  rw [after_next_cons env hqueue]
  refine h.process m _ ⟨hopen, ⟨[], ?_, ?_⟩, rfl⟩
  · exact (List.append_nil _).symm
  · exact (List.append_nil _).symm

end Surroundings.Submits

/-! ## The result -/

/-- If collaborators submit no more than a certain number of messages altogether while an open queue
is worked off, then this raises nothing and leaves the queue empty.  Each message that waited or was
submitted meanwhile is handled once, in order and one after the other, after one reconciliation, and
the answer is their number.  What is left is what handling them leaves. -/
theorem drain_handles_all {env : Surroundings ω} {sent : ω → List Message} (h : env.Submits sent)
    {s : System ω} (hopen : s.core.closed = false) {bound : Nat}
    (hfinite : ∀ n,
      (sent (Occurrence.course env s (List.replicate n .next)).world).length ≤ bound) :
    ∃ new s',
      (∀ limit, (s.core.queue ++ new).length ≤ limit →
        (drain env limit).run s = (.ok (s.core.queue ++ new).length, s')) ∧
      Handles env s (s.core.queue ++ new) s' ∧
      s'.core.queue = [] ∧ sent s'.world = sent s.world ++ new ∧
      marks s'.journal.reverse =
        marks s.journal.reverse ++ (s.core.queue ++ new).flatMap (markedBy env) := by
  -- Messages that wait and messages that may still be submitted become fewer with every turn.
  generalize hmeasure : s.core.queue.length + (bound - (sent s.world).length) = todo
  induction todo using Nat.strongRecOn generalizing s with
  | ind todo ih =>
    cases hqueue : s.core.queue with
    | nil =>
      refine ⟨[], s, fun limit _ => run_drain_nil env limit hqueue, .nil s, hqueue, ?_, ?_⟩
      · exact (List.append_nil _).symm
      · exact (List.append_nil _).symm
    | cons m rest =>
      have hafter := h.after_next hopen hqueue
      obtain ⟨ms, hqueue', hsent'⟩ := hafter.queue
      have hbound := hfinite 1
      change (sent (Occurrence.next.after env s).world).length ≤ bound at hbound
      have hless : (Occurrence.next.after env s).core.queue.length +
          (bound - (sent (Occurrence.next.after env s).world).length) < todo := by
        rw [hsent', List.length_append] at hbound ⊢
        rw [hqueue', List.length_append, ← hmeasure, hqueue, List.length_cons]
        omega
      obtain ⟨new, s', hdrain, hhandles, hempty, hsent, hmarks⟩ :=
        ih _ hless hafter.isOpen (fun n => hfinite (n + 1)) rfl
      rw [hqueue'] at hdrain hhandles hmarks
      refine ⟨ms ++ new, s', fun limit hlimit => ?_, ?_, hempty, ?_, ?_⟩
      · cases limit with
        | zero => exact absurd hlimit (Nat.not_succ_le_zero _)
        | succ limit =>
          have hrest : (rest ++ ms ++ new).length ≤ limit := by
            rw [List.append_assoc]
            exact Nat.le_of_succ_le_succ hlimit
          rw [run_drain_cons env limit hqueue, ← after_next_cons env hqueue, Act.run_bind,
            hdrain limit hrest, List.append_assoc]
          rfl
      · rw [after_next_cons env hqueue, List.append_assoc] at hhandles
        exact .cons hqueue hhandles
      · rw [hsent, hsent', List.append_assoc]
      · rw [hmarks, marks_reverse, hafter.marks, marks_reverse, List.reverse_append,
          List.reverse_reverse, List.append_assoc, List.append_assoc rest, List.cons_append,
          List.flatMap_cons]

/-! ## Collaborators that always fail -/

namespace Rehearsal

/-- What these collaborators fail with. -/
def refusal : Fault := ⟨.other "RuntimeError", "no answer"⟩

/-- Every call fails.  Whoever is to send what waits submits a message before, and the world is the
log of these messages. -/
def refusing : Surroundings (List Message) where
  policy := {}
  source := {
    list w := (.error refusal, w)
    get _ w := (.error refusal, w)
    isSyncEnabled _ w := (.error refusal, w)
    count _ w := (.error refusal, w)
    resetCount _ w := (.error refusal, w)
    idsWithProtocol _ w := (.error refusal, w) }
  checker := {
    inbox _ _ := none
    delete _ w := (.error refusal, w) }
  reconciles := true
  backgroundData := none
  during
    | .sendPending id => do
      submit (.notifyRequested id)
      modify fun s => { s with world := s.world ++ [.notifyRequested id] }
      throw refusal
    | _ => throw refusal

theorem submits_refusing : refusing.Submits id where
  queue c s hopen := by
    cases c with
    | sendPending a =>
      refine ⟨[.notifyRequested a], ?_, ?_⟩
      · simp [refusing, submit, Act.run_bind, hopen]
      · simp [refusing, submit, Act.run_bind, hopen]
    | _ => exact ⟨[], (List.append_nil _).symm, (List.append_nil _).symm⟩
  closed c s hopen := by
    cases c with
    | sendPending a => simp [refusing, submit, Act.run_bind, hopen]
    | _ => exact hopen
  marks c s := by
    cases c with
    | sendPending a =>
      cases hclosed : s.core.closed with
      | true => simp [refusing, submit, Act.run_bind, hclosed, MailSchedule.marks, Event.isMark]
      | false => simp [refusing, submit, Act.run_bind, hclosed]
    | _ => rfl
  list _ := rfl
  get _ _ := rfl
  isSyncEnabled _ _ := rfl
  count _ _ := rfl
  idsWithProtocol _ _ := rfl
  delete _ _ := rfl

/-- Two messages wait. -/
def twoWaiting : System (List Message) :=
  { core := { queue := [.sendPendingRequested 1, .checkRequested none none] }, clock := 1000000,
    world := [] }

/-- The message that is submitted meanwhile is handled last. -/
theorem drain_handles_all_twoWaiting :
    ∃ s', (drain refusing 3).run twoWaiting = (.ok 3, s') ∧
      Handles refusing twoWaiting
        [.sendPendingRequested 1, .checkRequested none none, .notifyRequested 1] s' ∧
      s'.core.queue = [] ∧
      marks s'.journal.reverse =
        [.called .reconcile, .began (.sendPendingRequested 1), .ended (.sendPendingRequested 1),
          .called .reconcile, .began (.checkRequested none none),
          .ended (.checkRequested none none),
          .called .reconcile, .began (.notifyRequested 1), .ended (.notifyRequested 1)] := by
  have hfinite : ∀ n, (id (Occurrence.course refusing twoWaiting
      (List.replicate n .next)).world).length ≤ 1 := by
    -- After three turns nobody waits any more.
    intro n
    match n with
    | 0 => decide +kernel
    | 1 => decide +kernel
    | 2 => decide +kernel
    | n + 3 =>
      show (id (Occurrence.course refusing (Occurrence.course refusing twoWaiting
        [.next, .next, .next]) (List.replicate n .next)).world).length ≤ 1
      rw [course_next_nil refusing (by decide +kernel) n]
      decide +kernel
  obtain ⟨new, s', hdrain, hhandles, hempty, hsent, hmarks⟩ :=
    drain_handles_all submits_refusing (s := twoWaiting) rfl hfinite
  have hfew : (twoWaiting.core.queue ++ new).length ≤ 3 := by
    have hdrained := congrArg Prod.snd (hdrain _ (Nat.le_refl _))
    rw [drain_snd] at hdrained
    have hone := hfinite (twoWaiting.core.queue ++ new).length
    rw [hdrained, hsent] at hone
    change new.length ≤ 1 at hone
    rw [List.length_append]
    exact Nat.add_le_add_left hone 2
  have hnew : new = [.notifyRequested 1] := by
    have hworld : ((drain refusing 3).run twoWaiting).2.world = [.notifyRequested 1] := by
      decide +kernel
    rw [hdrain 3 hfew] at hworld
    exact hsent.symm.trans hworld
  rw [hnew] at hdrain hhandles hmarks
  exact ⟨s', hdrain 3 (Nat.le_refl 3), hhandles, hempty, hmarks⟩

end Rehearsal

end MailSchedule
