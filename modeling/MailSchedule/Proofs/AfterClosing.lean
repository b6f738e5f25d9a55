import MailSchedule.Proofs.Course
import MailSchedule.Proofs.Rehearsing

/-!
# After closing

A poller that was closed refuses every message, and its loop ends at once.  Nothing else of what is
asked of it has an effect either, except for one thing: whoever works off its queue has the messages
handled that were waiting when it was closed.  So a poller that was closed stays at rest if no
message was waiting then, or if nobody works off the queue.

Results:

* `Belated`, `Belated.after`, `Belated.course`: what may come after closing, and what comes of it.
* `AtRest`: no account is tracked, no message was handled and no collaborator was called.
* `Shut.after`: what keeps a closed poller as it is.
* `began_after_drain`: what happens otherwise.
* `at_rest_iff_nothing_left`: when a closed poller stays at rest.
-/

namespace MailSchedule

variable {ω : Type}

/-! ## What comes after closing -/

/-- What is asked of a poller that may be closed: it gets a message or is woken, someone works off
its queue or has its loop run.  In between time passes and the world changes. -/
inductive Belated (ω : Type)
  | submit (m : Message)
  | wake (payload : Option Payload)
  | drain (limit : Nat)
  | serve (turns : Nat)
  | elapse (clock : Int) (world : ω)

namespace Belated

/-- The system afterwards. -/
def after (env : Surroundings ω) (s : System ω) : Belated ω → System ω
  | submit m => ((MailSchedule.submit m).run s).2
  | wake payload => ((MailSchedule.wake payload).run s).2
  | drain limit => ((MailSchedule.drain env limit).run s).2
  | serve turns => ((MailSchedule.serve env turns).run s).2
  | elapse clock world => { s with clock, world }

/-- The system after several of them. -/
def course (env : Surroundings ω) (s : System ω) (bs : List (Belated ω)) : System ω :=
  bs.foldl (after env) s

/-- Whether messages are taken from the queue without asking whether the poller is closed. -/
def Drains : Belated ω → Prop
  | drain limit => 0 < limit
  | _ => False

instance (b : Belated ω) : Decidable b.Drains := by
  cases b <;> unfold Drains <;> infer_instance

end Belated

/-- Since a moment no message was handled, no collaborator was called and the wake timer was not
set; and no account is tracked.  All that there may be is lines in the log. -/
structure AtRest (since s : System ω) : Prop where
  registry : s.core.registry = .empty
  timer : s.timer = since.timer
  journal : ∃ ns : List Notice, s.journal = ns.map .noted ++ since.journal

/-! ## What closing leaves -/

/-- The poller remembers what it did at a moment when it was closed and tracked nothing, and has
been at rest since. -/
structure Shut (since s : System ω) : Prop where
  core : s.core = since.core
  closed : since.core.closed = true
  empty : since.core.registry = .empty
  timer : s.timer = since.timer
  journal : ∃ ns : List Notice, s.journal = ns.map .noted ++ since.journal

theorem shut_close (s : System ω) : Shut (close.run s).2 (close.run s).2 where
  core := rfl
  closed := rfl
  empty := rfl
  timer := rfl
  journal := ⟨[], rfl⟩

namespace Shut

variable {since s : System ω}

theorem atRest (h : Shut since s) : AtRest since s where
  registry := by rw [h.core, h.empty]
  timer := h.timer
  journal := h.journal

theorem closed_now (h : Shut since s) : s.core.closed = true := by rw [h.core, h.closed]

theorem noted (h : Shut since s) (n : Notice) :
    Shut since { s with journal := .noted n :: s.journal } where
  core := h.core
  closed := h.closed
  empty := h.empty
  timer := h.timer
  journal := by
    obtain ⟨ns, hns⟩ := h.journal
    exact ⟨n :: ns, congrArg (Event.noted n :: ·) hns⟩

/-- A message is dropped. -/
theorem submit (h : Shut since s) (m : Message) :
    Shut since ((MailSchedule.submit m).run s).2 := by
  have hrun : (MailSchedule.submit m).run s =
      (.ok (), { s with journal := .noted (.closedDropping m) :: s.journal }) := by
    unfold MailSchedule.submit
    rw [Act.run_bind, run_core]
    dsimp only
    rw [if_pos h.closed_now, run_note]
  rw [hrun]
  exact h.noted _

/-- So is what a wake amounts to, if it amounts to anything. -/
theorem wake (h : Shut since s) (payload : Option Payload) :
    Shut since ((MailSchedule.wake payload).run s).2 := by
  unfold MailSchedule.wake
  cases Snapshot.decode payload with
  | ok saved => exact h.submit saved.message
  | error e =>
    dsimp only
    split
    · rw [Act.run_bind, run_note]
      exact (h.noted _).submit _
    · exact h

theorem serve (h : Shut since s) (env : Surroundings ω) (turns : Nat) :
    ((MailSchedule.serve env turns).run s).2 = s := by
  rw [run_serve_closed env turns h.closed_now]

/-- Nothing disturbs a closed poller, unless the queue is worked off in which messages wait. -/
theorem after (h : Shut since s) (env : Surroundings ω) {b : Belated ω}
    (hb : since.core.queue = [] ∨ ¬ b.Drains) : Shut since (b.after env s) := by
  cases b with
  | submit m => exact h.submit m
  | wake payload => exact h.wake payload
  | drain limit =>
    have hrun : ((drain env limit).run s).2 = s := by
      rcases hb with hempty | hlimit
      · rw [run_drain_nil env limit (by rw [h.core, hempty])]
      · cases limit with
        | zero => rfl
        | succ limit => exact absurd (Nat.succ_pos limit) hlimit
    show Shut since ((drain env limit).run s).2
    rw [hrun]
    exact h
  | serve turns =>
    show Shut since ((MailSchedule.serve env turns).run s).2
    rw [h.serve env turns]
    exact h
  | elapse clock world => exact { h with }

theorem course (h : Shut since s) (env : Surroundings ω) {bs : List (Belated ω)}
    (hbs : since.core.queue = [] ∨ ∀ b ∈ bs, ¬ b.Drains) :
    Shut since (Belated.course env s bs) := by
  induction bs generalizing s with
  | nil => exact h
  | cons b bs ih =>
    have hfirst : since.core.queue = [] ∨ ¬ b.Drains :=
      hbs.imp_right fun h => h b List.mem_cons_self
    have hrest : since.core.queue = [] ∨ ∀ c ∈ bs, ¬ c.Drains :=
      hbs.imp_right fun h c hc => h c (List.mem_cons_of_mem b hc)
    exact ih (h.after env hfirst) hrest

end Shut

/-! ## Messages that are left -/

/-- During calls nothing is taken out of the journal. -/
def Surroundings.KeepsJournal (env : Surroundings ω) : Prop :=
  ∀ c s, s.journal <:+ ((env.during c).run s).2.journal

/-- What the journal holds it goes on holding, whatever is done. -/
theorem Surroundings.KeepsJournal.upholds {env : Surroundings ω} (h : env.KeepsJournal)
    (j : List Event) : env.Upholds fun s => j <:+ s.journal := by
  have hrespects : env.Respects fun s => j <:+ s.journal :=
    .of_record (fun e s hs => hs.trans (List.suffix_cons e s.journal))
      (fun c s hs => hs.trans (h c s)) fun s w hs => hs
  exact { hrespects with
    aside := fun s c hs _ => hs
    timer := fun s w hs => hs
    published := fun mode s built hs _ => hs
    carried := fun s built earlier hs _ => hs
    restored := fun s pairs hs => hs
    checked := fun id unseen s hs => hs
    announced := fun s id hs => hs
    countsCleared := fun s target hs => hs
    cleared := fun s hs => hs }

/-- If messages wait and the queue is worked off, the first of them begins to be handled. -/
theorem began_after_drain {env : Surroundings ω} (h : env.KeepsJournal) {s : System ω}
    {m : Message} {rest : List Message} (hqueue : s.core.queue = m :: rest) (limit : Nat) :
    ∃ j, s.journal <:+ j ∧ .began m :: j <:+ ((drain env (limit + 1)).run s).2.journal := by
  let taken : System ω := { s with core := { s.core with queue := rest } }
  let begun := taken.begun env m
  obtain ⟨j, hj⟩ : ∃ j, begun.journal = .began m :: j := ⟨_, rfl⟩
  have hreconcile : s.journal <:+ j := by
    have hkept := (h.upholds s.journal).spares.reconcile taken List.suffix_rfl
    cases hj
    exact hkept
  have hbegun : .began m :: j <:+ begun.journal := ⟨[], hj.symm⟩
  have hhandled : .began m :: j <:+ ((handle env m).run begun).2.journal :=
    (h.upholds _).handle m begun hbegun
  have hprocessed : .began m :: j <:+ ((process env m).run taken).2.journal := by
    rw [run_process]
    revert hhandled
    rcases (handle env m).run begun with ⟨r, s'⟩
    intro hhandled
    cases r with
    | ok _ => exact hhandled.trans (List.suffix_cons _ _)
    | error e => exact hhandled.trans ((List.suffix_cons _ _).trans (List.suffix_cons _ _))
  refine ⟨j, hreconcile, ?_⟩
  rw [run_drain_cons env limit hqueue]
  exact (((h.upholds _).drain limit).bind fun _ => .pure _) _ hprocessed

/-- Whoever has begun to handle a message is not at rest. -/
theorem AtRest.not_began {since s : System ω} (h : AtRest since s) {m : Message} {j : List Event}
    (hj : since.journal <:+ j) : ¬ .began m :: j <:+ s.journal := by
  rintro ⟨later, hlater⟩
  obtain ⟨ns, hns⟩ := h.journal
  obtain ⟨earlier, rfl⟩ := hj
  have hsplit :
      (later ++ .began m :: earlier) ++ since.journal = ns.map .noted ++ since.journal := by
    rw [← hns, ← hlater, List.append_assoc, List.cons_append]
  have hnoted : later ++ .began m :: earlier = ns.map .noted := List.append_cancel_right hsplit
  have hmem : Event.began m ∈ ns.map .noted := by
    rw [← hnoted]
    exact List.mem_append_right later List.mem_cons_self
  obtain ⟨n, -, hn⟩ := List.mem_map.1 hmem
  cases hn

/-- If messages wait, the first one who works off the queue ends the rest. -/
theorem Shut.exists_disturbed {env : Surroundings ω} (henv : env.KeepsJournal)
    {since s : System ω} (h : Shut since s) (hqueue : since.core.queue ≠ []) {bs : List (Belated ω)}
    (hbs : ∃ b ∈ bs, b.Drains) : ∃ n, ¬ AtRest since (Belated.course env s (bs.take n)) := by
  induction bs generalizing s with
  | nil =>
    obtain ⟨b, hb, -⟩ := hbs
    cases hb
  | cons b bs ih =>
    by_cases hdrains : b.Drains
    · refine ⟨1, fun hrest => ?_⟩
      cases b with
      | drain limit =>
        obtain ⟨m, rest, hmessages⟩ := List.exists_cons_of_ne_nil hqueue
        obtain ⟨limit, rfl⟩ := Nat.exists_eq_succ_of_ne_zero (Nat.ne_of_gt hdrains)
        obtain ⟨j, hj, hbegan⟩ := began_after_drain henv (by rw [h.core, hmessages]) limit
        obtain ⟨ns, hns⟩ := h.journal
        have hsince : since.journal <:+ j := by
          rw [hns] at hj
          exact (List.suffix_append _ _).trans hj
        exact hrest.not_began hsince hbegan
      | _ => exact hdrains
    · have hrest : ∃ c ∈ bs, c.Drains := by
        obtain ⟨c, hc, hcdrains⟩ := hbs
        rcases List.mem_cons.1 hc with rfl | hc
        · exact absurd hcdrains hdrains
        · exact ⟨c, hc, hcdrains⟩
      obtain ⟨n, hn⟩ := ih (h.after env (Or.inr hdrains)) hrest
      exact ⟨n + 1, hn⟩

/-! ## The result -/

/-- A poller that was closed stays at rest, whatever comes after, if and only if no message was
waiting when it was closed or nobody works off its queue. -/
theorem at_rest_iff_nothing_left {env : Surroundings ω} (h : env.KeepsJournal) (s : System ω)
    (bs : List (Belated ω)) :
    (∀ n, AtRest (close.run s).2 (Belated.course env (close.run s).2 (bs.take n))) ↔
      s.core.queue = [] ∨ ∀ b ∈ bs, ¬ b.Drains := by
  constructor
  · intro hrest
    by_cases hqueue : s.core.queue = []
    · exact Or.inl hqueue
    · refine Or.inr fun b hb hdrains => ?_
      obtain ⟨n, hn⟩ := (shut_close s).exists_disturbed h hqueue ⟨b, hb, hdrains⟩
      exact hn (hrest n)
  · intro hcases n
    have htaken : s.core.queue = [] ∨ ∀ b ∈ bs.take n, ¬ b.Drains :=
      hcases.imp_right fun hnone b hb => hnone b (List.mem_of_mem_take hb)
    exact ((shut_close s).course env htaken).atRest

/-! ## A message that is left -/

namespace Rehearsal

theorem keepsJournal_surroundings (setup : Setup) (limit : Nat) :
    (surroundings setup limit 0).KeepsJournal := by
  intro c s
  simp only [run_during]
  exact List.suffix_rfl

/-- A poller in whose queue a message waits. -/
def waitingPoller : System World :=
  { freshPoller with core := { queue := [.checkRequested none none] } }

/-- The message that waits goes on waiting if the loop is run, and all that comes later is
dropped. -/
theorem at_rest_iff_nothing_left_loop :
    AtRest (close.run waitingPoller).2 (Belated.course inMemory (close.run waitingPoller).2
      [.submit (.notifyRequested 1), .wake none, .serve 3, .wake (some [0])]) := by
  have hnone : ∀ b ∈ ([.submit (.notifyRequested 1), .wake none, .serve 3, .wake (some [0])] :
      List (Belated World)), ¬ b.Drains := by decide
  exact (at_rest_iff_nothing_left (keepsJournal_surroundings {} 1) waitingPoller _).2
    (Or.inr hnone) 4

/-- If the queue is worked off after closing, the message is handled: the store is asked, accounts
are tracked again, and the wake timer is set. -/
theorem not_at_rest_drained :
    let closed := (close.run waitingPoller).2
    let drained := Belated.course inMemory closed [.drain 1]
    ¬ AtRest closed drained ∧ drained.core.registry.ids = [1, 2] ∧ closed.timer = none ∧
      drained.timer.isSome ∧ Event.called .listAccounts ∈ drained.journal := by
  refine ⟨fun hrest => ?_, by decide +kernel, rfl, by decide +kernel, by decide +kernel⟩
  have hids : ((Belated.course inMemory (close.run waitingPoller).2 [.drain 1]).core.registry).ids =
      [1, 2] := by decide +kernel
  rw [hrest.registry] at hids
  cases hids

end Rehearsal

end MailSchedule
