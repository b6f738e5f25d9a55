import MailSchedule.Proofs.Collaborators

/-!
# Courses of events

A poller lives through a course of events: messages enter its queue, and are handled one after the
other while time passes and the world changes.

Results:

* `Occurrence`, `Occurrence.after`, `Occurrence.course`: what happens to a poller, and what comes of
  it.
* `Occurrence.handled`: the messages handled in a course of events.
* `after_next_nil`, `after_next_cons`: the next message that waits is handled, if there is one.
* `Surroundings.Spares.after`: what is kept whatever happens.
* `drain_snd`: working off the queue is such a course.
* `Handles`: handling messages in the order in which they wait.
* `Occurrence.forall_course_iff`: what holds throughout a course unless a step breaks it.
-/

namespace MailSchedule

variable {ω : Type}

/-- What happens to a poller: something enters its queue, the next message that waits is handled,
counts are forgotten, or time passes and the world changes. -/
inductive Occurrence (ω : Type)
  | submit (m : Message)
  | wake (payload : Option Payload)
  | resetCounts (target : Option Int)
  | next
  | elapse (clock : Int) (world : ω)

namespace Occurrence

/-- The system after an occurrence. -/
def after (env : Surroundings ω) (s : System ω) : Occurrence ω → System ω
  | submit m => ((MailSchedule.submit m).run s).2
  | wake payload => ((MailSchedule.wake payload).run s).2
  | resetCounts target => ((MailSchedule.resetCounts env target).run s).2
  | next => ((drain env 1).run s).2
  | elapse clock world => { s with clock, world }

/-- The system after several occurrences. -/
def course (env : Surroundings ω) (s : System ω) (os : List (Occurrence ω)) : System ω :=
  os.foldl (after env) s

/-- The message that is handled, if one is. -/
def message? (s : System ω) : Occurrence ω → Option Message
  | next => s.core.queue.head?
  | _ => none

/-- The messages handled in a course of events, in order. -/
def handled (env : Surroundings ω) (s : System ω) : List (Occurrence ω) → List Message
  | [] => []
  | o :: os => (o.message? s).toList ++ handled env (o.after env s) os

/-- The world changes within a set. -/
def Within (I : ω → Prop) : Occurrence ω → Prop
  | elapse _ world => I world
  | _ => True

end Occurrence

theorem after_next_nil (env : Surroundings ω) {s : System ω} (h : s.core.queue = []) :
    Occurrence.next.after env s = s := by
  show ((drain env 1).run s).2 = s
  rw [run_drain_nil env 1 h]

theorem after_next_cons (env : Surroundings ω) {s : System ω} {m : Message} {rest : List Message}
    (h : s.core.queue = m :: rest) :
    Occurrence.next.after env s =
      ((process env m).run { s with core := { s.core with queue := rest } }).2 := by
  show ((drain env 1).run s).2 = _
  rw [run_drain_cons env 0 h]
  rfl

/-- Working off a queue means to handle the messages that wait one after the other. -/
theorem drain_snd (env : Surroundings ω) (limit : Nat) (s : System ω) :
    ((drain env limit).run s).2 = Occurrence.course env s (List.replicate limit .next) := by
  induction limit generalizing s with
  | zero => rfl
  | succ limit ih =>
    show _ = Occurrence.course env (Occurrence.next.after env s) (List.replicate limit .next)
    rw [← ih]
    cases hqueue : s.core.queue with
    | nil =>
      rw [after_next_nil env hqueue, run_drain_nil env _ hqueue, run_drain_nil env _ hqueue]
    | cons m rest =>
      rw [after_next_cons env hqueue, run_drain_cons env limit hqueue, Act.run_bind]
      generalize ((process env m).run _).2 = s'
      rcases (drain env limit).run s' with ⟨r, s''⟩
      cases r <;> rfl

/-- Turns that find the queue empty pass without effect. -/
theorem course_next_nil (env : Surroundings ω) {s : System ω} (h : s.core.queue = []) (n : Nat) :
    Occurrence.course env s (List.replicate n .next) = s := by
  rw [← drain_snd, run_drain_nil env n h]

/-- Whatever happens to a poller keeps a property that its collaborators spare and that tells
nothing about its queue and the moment, if forgetting counts and handling the next message keep
it. -/
theorem Surroundings.Spares.after {env : Surroundings ω} {P : System ω → Prop} (h : env.Spares P)
    (hqueue : ∀ s q, P s → P { s with core := { s.core with queue := q } })
    (helapse : ∀ s clock world, P s → P { s with clock, world }) {o : Occurrence ω}
    (hreset : ∀ target, o = .resetCounts target → ∀ s, P s → P { s with core := { s.core with
      registry := s.core.registry.clearCounts target } }) {s : System ω}
    (hhandle : ∀ m ∈ o.message? s, (handle env m).Keeps P) (hs : P s) : P (o.after env s) := by
  cases o with
  | submit m => exact h.submit (fun s hs => hqueue s _ hs) s hs
  | wake payload => exact h.wake (fun _ _ s hs => hqueue s _ hs) s hs
  | resetCounts target => exact h.resetCounts target (hreset target rfl) s hs
  | next =>
    cases hmessages : s.core.queue with
    | nil =>
      rw [after_next_nil env hmessages]
      exact hs
    | cons m rest =>
      have hm : m ∈ Occurrence.next.message? s := by
        show s.core.queue.head? = some m
        rw [hmessages]
        rfl
      rw [after_next_cons env hmessages]
      exact h.process (hhandle m hm) _ (hqueue s rest hs)
  | elapse clock world => exact helapse s clock world hs

/-- If every step is known to break a property or to keep it, the property holds throughout a course
of events if and only if no step in it breaks it.  What the steps keep in any case, and what is
known of the systems met, may be used to tell. -/
theorem Occurrence.forall_course_iff {env : Surroundings ω} {os : List (Occurrence ω)}
    (J Q P : System ω → Prop) (Breaks : Occurrence ω → System ω → Prop)
    (hstep : ∀ o ∈ os, ∀ s, Q s → P s → J (o.after env s) →
      Q (o.after env s) ∧ (P (o.after env s) ↔ ¬Breaks o s))
    {s : System ω} (hQ : Q s) (hP : P s) (hJ : ∀ n, J (course env s (os.take n))) :
    (∀ n, P (course env s (os.take n))) ↔
      ∀ (n : Nat) (o : Occurrence ω), os[n]? = some o →
        ¬Breaks o (course env s (os.take n)) := by
  induction os generalizing s with
  | nil =>
    refine iff_of_true (fun n => ?_) fun n o ho => by cases ho
    rw [List.take_nil]
    exact hP
  | cons o os ih =>
    have hfirst := hstep o List.mem_cons_self s hQ hP (hJ 1)
    have hrest : P (o.after env s) → ((∀ n, P (course env (o.after env s) (os.take n))) ↔
        ∀ (n : Nat) (p : Occurrence ω), os[n]? = some p →
          ¬Breaks p (course env (o.after env s) (os.take n))) := fun hafter =>
      ih (fun p hp => hstep p (List.mem_cons_of_mem _ hp)) hfirst.1 hafter fun n => hJ (n + 1)
    constructor
    · intro hall n p hp
      have hafter : P (o.after env s) := hall 1
      cases n with
      | zero =>
        cases hp
        exact hfirst.2.1 hafter
      | succ n => exact (hrest hafter).1 (fun n => hall (n + 1)) n p hp
    · intro hnone n
      cases n with
      | zero => exact hP
      | succ n =>
        exact (hrest (hfirst.2.2 (hnone 0 o rfl))).2 (fun n p hp => hnone (n + 1) p hp) n

/-! ## Handling messages in order -/

/-- Messages are handled one after the other, and each of them is the first one that waits when its
turn comes. -/
inductive Handles (env : Surroundings ω) : System ω → List Message → System ω → Prop
  | nil (s : System ω) : Handles env s [] s
  | cons {s s' : System ω} {m : Message} {rest ms : List Message} :
    s.core.queue = m :: rest →
    Handles env ((process env m).run { s with core := { s.core with queue := rest } }).2 ms s' →
    Handles env s (m :: ms) s'

namespace Handles

variable {env : Surroundings ω} {s s₁ s₂ : System ω}

theorem split {before after : List Message} (h : Handles env s (before ++ after) s₂) :
    ∃ moment, Handles env s before moment ∧ Handles env moment after s₂ := by
  induction before generalizing s with
  | nil => exact ⟨s, .nil s, h⟩
  | cons m before ih =>
    cases h with
    | cons hqueue hrest =>
      obtain ⟨moment, hbefore, hafter⟩ := ih hrest
      exact ⟨moment, .cons hqueue hbefore, hafter⟩

/-- There is one way of handling a number of messages. -/
theorem unique {ms₁ ms₂ : List Message} (h₁ : Handles env s ms₁ s₁) (h₂ : Handles env s ms₂ s₂)
    (hlength : ms₁.length = ms₂.length) : ms₁ = ms₂ ∧ s₁ = s₂ := by
  induction h₁ generalizing ms₂ with
  | nil s =>
    obtain rfl := List.eq_nil_of_length_eq_zero hlength.symm
    cases h₂
    exact ⟨rfl, rfl⟩
  | cons hqueue _ ih =>
    cases h₂ with
    | nil => simp at hlength
    | cons hqueue' hrest' =>
      obtain ⟨rfl, rfl⟩ := List.cons.inj (hqueue.symm.trans hqueue')
      obtain ⟨rfl, hsame⟩ := ih hrest' (by simpa using hlength)
      exact ⟨rfl, hsame⟩

/-- Of two runs the shorter one is the beginning of the longer one. -/
theorem take {ms₁ ms₂ : List Message} (h₁ : Handles env s ms₁ s₁) (h₂ : Handles env s ms₂ s₂)
    (hlength : ms₁.length ≤ ms₂.length) :
    ms₁ = ms₂.take ms₁.length ∧ Handles env s₁ (ms₂.drop ms₁.length) s₂ := by
  rw [← List.take_append_drop ms₁.length ms₂] at h₂
  obtain ⟨moment, hfirst, hrest⟩ := h₂.split
  obtain ⟨hsame, rfl⟩ := h₁.unique hfirst (by simp [hlength])
  exact ⟨hsame, hrest⟩

/-- Nothing is handled while nobody waits. -/
theorem of_nil {ms : List Message} (h : Handles env s ms s₁) (hqueue : s.core.queue = []) :
    ms = [] ∧ s₁ = s := by
  cases h with
  | nil => exact ⟨rfl, rfl⟩
  | cons hcons _ => simp [hqueue] at hcons

/-- A run that ends with nobody waiting is no shorter than any other one. -/
theorem length_le {ms₁ ms₂ : List Message} (h₁ : Handles env s ms₁ s₁) (h₂ : Handles env s ms₂ s₂)
    (hqueue : s₁.core.queue = []) : ms₂.length ≤ ms₁.length := by
  rcases Nat.le_total ms₁.length ms₂.length with hle | hle
  · obtain ⟨hrest, -⟩ := (h₁.take h₂ hle).2.of_nil hqueue
    exact List.drop_eq_nil_iff.1 hrest
  · exact hle

/-- What each message keeps, and what does not depend on who waits, is kept by all of them. -/
theorem keeps {P : System ω → Prop} (hprocess : ∀ m, (process env m).Keeps P)
    (hqueue : ∀ s q, P s → P { s with core := { s.core with queue := q } }) {ms : List Message}
    (h : Handles env s ms s₁) (hs : P s) : P s₁ := by
  induction h with
  | nil => exact hs
  | cons _ _ ih => exact ih (hprocess _ _ (hqueue _ _ hs))

end Handles

end MailSchedule
