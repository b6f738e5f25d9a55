import MailSchedule.Proofs.AfterClosing
import MailSchedule.Proofs.WorkedOff

/-!
# The loop and the queue

Whoever works off the queue handles messages until none waits.  The loop handles messages for a
number of turns, and asks before each of them whether the poller is closed.  While it is open both
handle the same messages, so that a loop with enough turns leaves what working off leaves.

They part when the poller is closed.  If a collaborator closes it while a message is being handled,
this is the last message of the loop.  If it was closed before, the loop handles none at all.

Results:

* `drain_handles`, `serve_handles`: the messages that both handle, and where they stop.
* `Surroundings.Respects.process_keeps`: what is kept about whether the poller is closed.
* `serve_agrees_with_drain`: the loop handles the first messages that working off handles.
-/

namespace MailSchedule

variable {ω : Type}

/-! ## Both ways of handling messages -/

/-- Whoever works off the queue stops at the limit, or when nobody waits. -/
theorem drain_handles (env : Surroundings ω) (limit : Nat) (s : System ω) :
    ∃ ms s', (drain env limit).run s = (.ok ms.length, s') ∧ Handles env s ms s' ∧
      ms.length ≤ limit ∧ (ms.length < limit → s'.core.queue = []) := by
  induction limit generalizing s with
  | zero => exact ⟨[], s, rfl, .nil s, Nat.le_refl 0, fun h => absurd h (Nat.lt_irrefl 0)⟩
  | succ limit ih =>
    cases hqueue : s.core.queue with
    | nil => exact ⟨[], s, run_drain_nil env _ hqueue, .nil s, Nat.zero_le _, fun _ => hqueue⟩
    | cons m rest =>
      obtain ⟨ms, s', hdrain, hhandles, hle, hempty⟩ :=
        ih ((process env m).run { s with core := { s.core with queue := rest } }).2
      refine ⟨m :: ms, s', ?_, .cons hqueue hhandles, ?_, fun hlt => hempty ?_⟩
      · rw [run_drain_cons env limit hqueue, Act.run_bind, hdrain]
        rfl
      · simpa using hle
      · simpa using hlt

/-- The loop stops at the end of its turns, when nobody waits, or when the poller is closed.  It
goes on after no message that leaves the poller closed. -/
theorem serve_handles (env : Surroundings ω) (turns : Nat) (s : System ω) :
    ∃ ms s', (serve env turns).run s = (.ok (), s') ∧ Handles env s ms s' ∧ ms.length ≤ turns ∧
      (ms.length < turns → s'.core.queue = [] ∨ s'.core.closed = true) ∧
      ∀ before after moment, ms = before ++ after → Handles env s before moment →
        moment.core.closed = true → after = [] := by
  induction turns generalizing s with
  | zero =>
    refine ⟨[], s, rfl, .nil s, Nat.le_refl 0, fun h => absurd h (Nat.lt_irrefl 0), ?_⟩
    intro before after moment hms _ _
    exact (List.append_eq_nil_iff.1 hms.symm).2
  | succ turns ih =>
    have hnone : ∀ before after moment, [] = before ++ after → Handles env s before moment →
        moment.core.closed = true → after = [] := fun before after moment hms _ _ =>
      (List.append_eq_nil_iff.1 hms.symm).2
    by_cases hclosed : s.core.closed = true
    · exact ⟨[], s, run_serve_closed env _ hclosed, .nil s, Nat.zero_le _, fun _ => .inr hclosed,
        hnone⟩
    have hopen : s.core.closed = false := Bool.eq_false_iff.2 hclosed
    cases hqueue : s.core.queue with
    | nil =>
      exact ⟨[], s, run_serve_nil env _ hqueue, .nil s, Nat.zero_le _, fun _ => .inl hqueue, hnone⟩
    | cons m rest =>
      obtain ⟨ms, s', hserve, hhandles, hle, hstop, hlast⟩ :=
        ih ((process env m).run { s with core := { s.core with queue := rest } }).2
      refine ⟨m :: ms, s', ?_, .cons hqueue hhandles, ?_, fun hlt => hstop ?_, ?_⟩
      · rw [run_serve_cons env turns hopen hqueue, hserve]
      · simpa using hle
      · simpa using hlt
      · intro before after moment hms hbefore hmoment
        cases hbefore with
        | nil => exact absurd hmoment hclosed
        | cons hqueue' hrest =>
          rw [List.cons_append] at hms
          obtain ⟨rfl, hsame⟩ := List.cons.inj hms
          obtain ⟨-, rfl⟩ := List.cons.inj (hqueue.symm.trans hqueue')
          exact hlast _ after moment hsame hrest hmoment

/-! ## Whether the poller is closed -/

/-- No collaborator closes a poller that is open. -/
def Surroundings.KeepsOpen (env : Surroundings ω) : Prop :=
  ∀ c, (env.during c).Keeps fun s => s.core.closed = false

/-- The world tells whether a collaborator has closed the poller, and a poller that was closed is
not opened again. -/
def Surroundings.TellsClosing (env : Surroundings ω) (told : ω → Prop) : Prop :=
  env.Respects fun s => told s.world → s.core.closed = true

/-- Handling a message neither closes a poller nor opens it.  What is known of whether it is closed
and of the world is kept, as long as collaborators respect it. -/
theorem Surroundings.Respects.process_keeps {env : Surroundings ω} {R : Bool → ω → Prop}
    (h : env.Respects fun s => R s.core.closed s.world) (m : Message) :
    (process env m).Keeps fun s => R s.core.closed s.world := by
  have hoverlooks : env.Overlooks fun s => R s.core.closed s.world :=
    { h.spares.abides with tracked := fun _ _ _ hs => hs }
  have hrearm := h.rearm (fun _ _ hs => hs) (hoverlooks.load .fillIfEmpty)
  have hsustains : env.Sustains m (fun s => R s.core.closed s.world)
      fun s => R s.core.closed s.world := {
    h.spares.abides with
    opened := fun _ _ _ _ hs => hs
    ended := fun _ _ _ _ _ hs => hs
    told := fun _ _ _ _ _ _ _ hs => hs
    fill := hoverlooks.load .fillIfEmpty
    restore := fun _ saved _ => hoverlooks.restore saved
    refresh := fun _ _ => hoverlooks.refresh
    update := fun id unseen _ _ => hoverlooks.update id unseen
    armWatchdog := fun id _ _ => h.armWatchdog (fun _ _ hs => hs) id
    disarm := fun _ => h.spares.abides.disarm fun _ _ hs => hs
    announce := fun id _ => h.announce id fun _ hs => hs
    silent := fun _ hs => hs
    rearmAfter := hrearm }
  exact h.spares.process hsustains.handle

theorem Surroundings.KeepsOpen.process_keeps {env : Surroundings ω} (h : env.KeepsOpen)
    (m : Message) : (process env m).Keeps fun s => s.core.closed = false := by
  have hrespects : env.Respects fun s => s.core.closed = false :=
    .of_during (fun _ _ _ hs => hs) h
  exact Surroundings.Respects.process_keeps (R := fun closed _ => closed = false) hrespects m

theorem Surroundings.TellsClosing.process_keeps {env : Surroundings ω} {told : ω → Prop}
    (h : env.TellsClosing told) (m : Message) :
    (process env m).Keeps fun s => told s.world → s.core.closed = true :=
  Surroundings.Respects.process_keeps (R := fun closed w => told w → closed = true) h m

/-! ## The result -/

/-- The loop raises nothing and handles messages in the order in which they wait.  If the poller is
open and no collaborator closes it, these are the first messages that working off the queue
handles: as many as there are turns, or all of them.  If there are enough turns for all, both leave
the same behind.

If a collaborator closes the poller, the loop handles no message after the one during which this
happens.  If the poller is closed to begin with, the loop handles none. -/
theorem serve_agrees_with_drain (env : Surroundings ω) (s : System ω) (turns : Nat) :
    ∃ served s', (serve env turns).run s = (.ok (), s') ∧ Handles env s served s' ∧
      (s.core.closed = false → env.KeepsOpen →
        (∀ limit, turns ≤ limit → ∃ drained s'',
          (drain env limit).run s = (.ok drained.length, s'') ∧ Handles env s drained s'' ∧
          served = drained.take turns) ∧
        ∀ limit n s'', (drain env limit).run s = (.ok n, s'') → n < limit → n ≤ turns →
          s' = s'') ∧
      (∀ told, env.TellsClosing told → (told s.world → s.core.closed = true) →
        ∀ before after moment, served = before ++ after → Handles env s before moment →
          told moment.world → after = []) ∧
      (s.core.closed = true → served = [] ∧ s' = s) := by
  obtain ⟨served, s', hserve, hserved, hle, hstop, hlast⟩ := serve_handles env turns s
  refine ⟨served, s', hserve, hserved, fun hopen henv => ?_, ?_, ?_⟩
  · have hstill : s'.core.closed = false :=
      hserved.keeps henv.process_keeps (fun _ _ hs => hs) hopen
    have hempty : served.length < turns → s'.core.queue = [] := fun hlt =>
      (hstop hlt).resolve_right (by simp [hstill])
    refine ⟨fun limit hlimit => ?_, fun limit n s'' hdrain hlt hn => ?_⟩
    · obtain ⟨drained, s'', hdrain, hdrained, -, hdone⟩ := drain_handles env limit s
      have hmore : served.length ≤ drained.length := by
        by_cases hreached : drained.length < limit
        · exact hdrained.length_le hserved (hdone hreached)
        · omega
      have hfirst := (hserved.take hdrained hmore).1
      refine ⟨drained, s'', hdrain, hdrained, ?_⟩
      rcases Nat.lt_or_ge served.length turns with hfew | hmany
      · -- The loop has turns left, so there is nobody left whom working off could handle.
        have hnone := hserved.length_le hdrained (hempty hfew)
        rw [List.take_of_length_le (by omega)] at hfirst ⊢
        exact hfirst
      · have hturns : served.length = turns := by omega
        rw [← hturns]
        exact hfirst
    · obtain ⟨drained, s₂, hdrain', hdrained, -, hdone⟩ := drain_handles env limit s
      rw [hdrain] at hdrain'
      obtain ⟨hn', rfl⟩ := Prod.mk.inj hdrain'
      obtain rfl := Except.ok.inj hn'
      have hfewer := hdrained.length_le hserved (hdone hlt)
      rcases Nat.lt_or_ge served.length turns with hfew | hmany
      · have hmore := hserved.length_le hdrained (hempty hfew)
        exact (hserved.unique hdrained (by omega)).2
      · exact (hserved.unique hdrained (by omega)).2
  · intro told htells htold before after moment hms hbefore hmoment
    have hclosed := hbefore.keeps htells.process_keeps (fun _ _ hs => hs) htold
    exact hlast before after moment hms hbefore (hclosed hmoment)
  · intro hclosed
    have hnone : served = [] := hlast [] served s rfl (.nil s) hclosed
    subst hnone
    cases hserved
    exact ⟨rfl, rfl⟩

/-! ## Loops that go on and loops that end -/

namespace Rehearsal

theorem keepsOpen_refusing : refusing.KeepsOpen := submits_refusing.closed

/-- Whoever is to send what waits closes the poller, and the world remembers it. -/
def quitting : Surroundings Bool where
  policy := {}
  source := {
    list w := (.ok [], w)
    get _ w := (.ok none, w)
    isSyncEnabled _ w := (.ok true, w)
    count _ w := (.ok none, w)
    resetCount _ w := (.ok (), w)
    idsWithProtocol _ w := (.ok [], w) }
  checker := {
    inbox _ _ := none
    delete _ w := (.ok (), w) }
  reconciles := false
  backgroundData := none
  during
    | .sendPending _ => do
      close
      modify fun s => { s with world := true }
    | _ => pure ()

theorem tellsClosing_quitting : quitting.TellsClosing (· = true) where
  record _ _ hs := hs
  during c s hs := by
    cases c with
    | sendPending id => exact fun _ => rfl
    | _ => exact hs
  list := .answer _ (fun _ _ hs => hs) fun _ hs => hs
  get _ := .answer _ (fun _ _ hs => hs) fun _ hs => hs
  isSyncEnabled _ := .answer _ (fun _ _ hs => hs) fun _ hs => hs
  count _ := .answer _ (fun _ _ hs => hs) fun _ hs => hs
  resetCount _ := .answer _ (fun _ _ hs => hs) fun _ hs => hs
  idsWithProtocol _ := .answer _ (fun _ _ hs => hs) fun _ hs => hs
  delete _ := .answer _ (fun _ _ hs => hs) fun _ hs => hs

/-- The same two messages wait for a poller whose collaborators close it. -/
def twoWaitingToQuit : System Bool :=
  { core := twoWaiting.core, clock := 1000000, world := false }

/-- Two turns handle the two messages that wait, and a third one handles the message that was
submitted meanwhile, which is what working off comes to.  If the poller is closed during the first
message, the second one goes on waiting. -/
theorem serve_agrees_with_drain_twoWaiting :
    (∃ s₂ s₃, (serve refusing 2).run twoWaiting = (.ok (), s₂) ∧
      Handles refusing twoWaiting [.sendPendingRequested 1, .checkRequested none none] s₂ ∧
      (serve refusing 3).run twoWaiting = (.ok (), s₃) ∧
      (drain refusing 4).run twoWaiting = (.ok 3, s₃)) ∧
    ∃ s', (serve quitting 2).run twoWaitingToQuit = (.ok (), s') ∧
      Handles quitting twoWaitingToQuit [.sendPendingRequested 1] s' ∧
      s'.core.queue = [.checkRequested none none] := by
  refine ⟨?_, ?_⟩
  · obtain ⟨s₃, hdrain⟩ : ∃ s₃, (drain refusing 4).run twoWaiting = (.ok 3, s₃) :=
      ⟨_, Prod.ext (by decide +kernel) rfl⟩
    obtain ⟨served, s₂, hserve, hserved, hopen, -⟩ :=
      serve_agrees_with_drain refusing twoWaiting 2
    obtain ⟨_, s', hserve', _, hopen', -⟩ := serve_agrees_with_drain refusing twoWaiting 3
    obtain ⟨drained, _, hdrain', -, hfirst⟩ := (hopen rfl keepsOpen_refusing).1 4 (by decide)
    have hsame := (hopen' rfl keepsOpen_refusing).2 4 3 s₃ hdrain (by decide) (by decide)
    have hthree : drained.length = 3 := by
      rw [hdrain] at hdrain'
      exact (Except.ok.inj (Prod.mk.inj hdrain').1).symm
    have hqueue : ((process refusing (.sendPendingRequested 1)).run { twoWaiting with core :=
        { twoWaiting.core with queue := twoWaiting.core.queue.tail } }).2.core.queue =
        .checkRequested none none :: [.notifyRequested 1] := by decide +kernel
    have htwo : Handles refusing twoWaiting [.sendPendingRequested 1, .checkRequested none none] _ :=
      .cons rfl (.cons hqueue (.nil _))
    have hboth := (hserved.unique htwo (by simp [hfirst, hthree])).1
    subst hboth hsame
    exact ⟨s₂, s', hserve, hserved, hserve', hdrain⟩
  · obtain ⟨served, s', hserve, hserved, -, hclosing, -⟩ :=
      serve_agrees_with_drain quitting twoWaitingToQuit 2
    have hstate : ((serve quitting 2).run twoWaitingToQuit).2 = s' := by rw [hserve]
    have hworld : s'.world = true := by
      rw [← hstate]
      decide +kernel
    have hqueue : s'.core.queue = [.checkRequested none none] := by
      rw [← hstate]
      decide +kernel
    cases hserved with
    | nil => cases hworld
    | cons hfirst hrest =>
      obtain ⟨rfl, rfl⟩ := List.cons.inj hfirst
      have hlast := hclosing (· = true) tellsClosing_quitting (fun h => by cases h) [_] _ _ rfl
        (.cons hfirst (.nil _)) (by decide +kernel)
      subst hlast
      exact ⟨s', hserve, .cons hfirst hrest, hqueue⟩

/-- Nobody closes a poller here during a call.  But if it was closed before, while a message waited,
the loop leaves everything as it is, and whoever works off the queue handles the message. -/
theorem loop_passes_over_closed :
    let closed := (close.run waitingPoller).2
    inMemory.KeepsOpen ∧ (serve inMemory 1).run closed = (.ok (), closed) ∧
      ((drain inMemory 2).run closed).1 = .ok 1 ∧
      ((drain inMemory 2).run closed).2 ≠ closed ∧
      Event.began (.checkRequested none none) ∈ ((drain inMemory 2).run closed).2.journal ∧
      Event.began (.checkRequested none none) ∉ closed.journal := by
  intro closed
  have hopen : inMemory.KeepsOpen := by
    intro c s hs
    show (((surroundings {} 1 0).during c).run s).2.core.closed = false
    rw [run_during]
    exact hs
  have hbegan : Event.began (.checkRequested none none) ∈
      ((drain inMemory 2).run closed).2.journal := by decide +kernel
  have hnot : Event.began (.checkRequested none none) ∉ closed.journal := by decide +kernel
  refine ⟨hopen, rfl, by decide +kernel, fun hsame => ?_, hbegan, hnot⟩
  rw [hsame] at hbegan
  exact hnot hbegan

end Rehearsal

end MailSchedule
