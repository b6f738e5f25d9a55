import MailSchedule.Poller

/-!
# Reasoning about actions

An action is spoken of in three ways: by its run from a given system, by what it keeps whether or
not it fails, and by what it answers where it cannot fail.

Results:

* `run_call`, `run_answer` and the like: runs of the elementary actions.
* `Act.Keeps`, `Act.Leads`, `Act.Ends`: a property of systems that an action keeps, or leads to.
* `Act.Yields`, `Act.Gives`: an action that does not fail, with what holds of its result.
* `run_process`, `process_ok`, `process_snd`: handling a message raises nothing, and comes to what
  its handler comes to.
* `run_drain_nil`, `run_drain_cons`: working off the queue message by message.
* `run_serve_closed`, `run_serve_nil`, `run_serve_cons`: the loop, turn by turn.
-/

namespace MailSchedule

variable {ω α β : Type}

/-! ## Runs of elementary actions -/

section Runs

variable (s : System ω)

@[simp]
theorem run_core : Act.run core s = (.ok s.core, s) := rfl

@[simp]
theorem run_registry : Act.run registry s = (.ok s.core.registry, s) := rfl

@[simp]
theorem run_now : Act.run now s = (.ok s.clock, s) := rfl

@[simp]
theorem run_modifyCore (f : Core → Core) :
    Act.run (modifyCore f) s = (.ok (), { s with core := f s.core }) := rfl

@[simp]
theorem run_modifyRegistry (f : Registry → Registry) :
    Act.run (modifyRegistry f) s =
      (.ok (), { s with core := { s.core with registry := f s.core.registry } }) := rfl

@[simp]
theorem run_record (e : Event) :
    Act.run (record e) s = (.ok (), { s with journal := e :: s.journal }) := rfl

@[simp]
theorem run_note (n : Notice) :
    Act.run (note n) s = (.ok (), { s with journal := .noted n :: s.journal }) := rfl

theorem run_call (env : Surroundings ω) (c : Call) :
    Act.run (env.call c) s =
      Act.run (env.during c) { s with journal := .called c :: s.journal } := rfl

theorem run_resultOf (r : Except Fault α) : Act.run (resultOf r) s = (r, s) := by
  cases r <;> rfl

/-- An answer that is a result changes nothing but the world. -/
theorem run_answer_ok {reply : Reply ω α} {a : α} {w : ω} (h : reply s.world = (.ok a, w)) :
    Act.run (answer reply) s = (.ok a, { s with world := w }) := by
  simp only [answer, Act.run_bind, Act.run_get, h, Act.run_modify, Act.run_pure]

/-- An answer that is a fault is at most noted. -/
theorem run_answer_error {reply : Reply ω α} {e : Fault} {w : ω}
    (h : reply s.world = (.error e, w)) :
    Act.run (answer reply) s = (.error e, { s with
      world := w
      journal :=
        if e.kind = .store then .noted (.storeFailed e) :: s.journal else s.journal }) := by
  simp only [answer, Act.run_bind, Act.run_get, h, Act.run_modify]
  by_cases hk : e.kind = .store <;> simp [hk, Act.run_bind]

/-- What is answered depends on the world alone. -/
theorem run_answer_fst (reply : Reply ω α) : (Act.run (answer reply) s).1 = (reply s.world).1 := by
  rcases h : reply s.world with ⟨_ | a, w⟩
  · rw [run_answer_error s h]
  · rw [run_answer_ok s h]

/-- So does what becomes of it. -/
theorem run_answer_world (reply : Reply ω α) :
    (Act.run (answer reply) s).2.world = (reply s.world).2 := by
  rcases h : reply s.world with ⟨_ | a, w⟩
  · rw [run_answer_error s h]
  · rw [run_answer_ok s h]

end Runs

theorem Act.ite_bind (c : Prop) [Decidable c] (act act' : Act ω α) (next : α → Act ω β) :
    (if c then act else act') >>= next = if c then act >>= next else act' >>= next := by
  split
  · rfl
  · rfl

/-- A result that is given in place of another one changes nothing else. -/
theorem Act.run_bind_pure_snd (act : Act ω α) (b : β) (s : System ω) :
    (Act.run (act >>= fun _ => Pure.pure b) s).2 = (Act.run act s).2 := by
  rw [Act.run_bind]
  rcases Act.run act s with ⟨r, s'⟩
  cases r <;> rfl

/-- Of an action that succeeds every part does. -/
theorem Act.exists_of_run_bind {act : Act ω α} {next : α → Act ω β} {s s' : System ω} {b : β}
    (h : Act.run (act >>= next) s = (.ok b, s')) :
    ∃ a s₁, Act.run act s = (.ok a, s₁) ∧ Act.run (next a) s₁ = (.ok b, s') := by
  rw [Act.run_bind] at h
  rcases hr : Act.run act s with ⟨_ | a, s₁⟩
  · rw [hr] at h
    cases h
  · rw [hr] at h
    exact ⟨a, s₁, rfl, h⟩

/-! ## What an action keeps -/

/-- An action keeps a property of systems, whether or not it fails. -/
def Act.Keeps (act : Act ω α) (P : System ω → Prop) : Prop := ∀ s, P s → P (act.run s).2

namespace Act.Keeps

variable {P : System ω → Prop}

theorem pure (a : α) : Act.Keeps (Pure.pure a) P := fun _ hs => hs

theorem throw (e : Fault) : Act.Keeps (MonadExcept.throw e : Act ω α) P := fun _ hs => hs

theorem get : Act.Keeps MonadState.get P := fun _ hs => hs

theorem core : Act.Keeps core P := fun _ hs => hs

theorem registry : Act.Keeps registry P := fun _ hs => hs

theorem now : Act.Keeps now P := fun _ hs => hs

theorem resultOf (r : Except Fault α) : Act.Keeps (resultOf r) P := by
  intro s hs
  rw [run_resultOf]
  exact hs

theorem bind {act : Act ω α} {next : α → Act ω β} (h : act.Keeps P)
    (hnext : ∀ a, (next a).Keeps P) : (act >>= next).Keeps P := by
  intro s hs
  have h1 := h s hs
  rw [Act.run_bind]
  rcases hr : act.run s with ⟨r, s'⟩
  rw [hr] at h1
  cases r with
  | ok a => exact hnext a s' h1
  | error e => exact h1

theorem tryCatch {act : Act ω α} {handle : Fault → Act ω α} (h : act.Keeps P)
    (hhandle : ∀ e, (handle e).Keeps P) : Act.Keeps (MonadExcept.tryCatch act handle) P := by
  intro s hs
  have h1 := h s hs
  rw [Act.run_tryCatch]
  rcases hr : act.run s with ⟨r, s'⟩
  rw [hr] at h1
  cases r with
  | ok a => exact h1
  | error e => exact hhandle e s' h1

theorem ite {c : Prop} [Decidable c] {act act' : Act ω α} (h : act.Keeps P) (h' : act'.Keeps P) :
    Act.Keeps (if c then act else act') P := by
  split
  · exact h
  · exact h'

theorem and {act : Act ω α} {Q : System ω → Prop} (h : act.Keeps P) (h' : act.Keeps Q) :
    act.Keeps fun s => P s ∧ Q s := fun s hs => ⟨h s hs.1, h' s hs.2⟩

end Act.Keeps

/-- An action leads from systems with one property to systems with another one, whether or not it
fails. -/
def Act.Leads (act : Act ω α) (P Q : System ω → Prop) : Prop := ∀ s, P s → Q (act.run s).2

namespace Act.Leads

variable {P R Q : System ω → Prop}

theorem of_keeps {act : Act ω α} (h : act.Keeps P) (hPQ : ∀ s, P s → Q s) : act.Leads P Q :=
  fun s hs => hPQ _ (h s hs)

/-- If the first part fails, what it leads to must be good enough. -/
theorem bind {act : Act ω α} {next : α → Act ω β} (h : act.Leads P R) (hRQ : ∀ s, R s → Q s)
    (hnext : ∀ a, (next a).Leads R Q) : (act >>= next).Leads P Q := by
  intro s hs
  have h1 := h s hs
  rw [Act.run_bind]
  rcases hr : act.run s with ⟨r, s'⟩
  rw [hr] at h1
  cases r with
  | ok a => exact hnext a s' h1
  | error e => exact hRQ s' h1

theorem ite {c : Prop} [Decidable c] {act act' : Act ω α} (h : act.Leads P Q)
    (h' : act'.Leads P Q) : Act.Leads (if c then act else act') P Q := by
  split
  · exact h
  · exact h'

end Act.Leads

/-- Started in systems with a property, an action has a result or fault for which the system
afterwards is as it should be. -/
def Act.Ends (act : Act ω α) (P : System ω → Prop) (R : Except Fault α → System ω → Prop) : Prop :=
  ∀ s, P s → R (act.run s).1 (act.run s).2

/-- If the first part fails, so does the whole. -/
theorem Act.Ends.bind {P Q : System ω → Prop} {R : Except Fault β → System ω → Prop}
    {act : Act ω α} {next : α → Act ω β} (h : act.Leads P Q)
    (hfails : ∀ e s, Q s → R (.error e) s) (hnext : ∀ a, (next a).Ends Q R) :
    (act >>= next).Ends P R := by
  intro s hs
  have h1 := h s hs
  rw [Act.run_bind]
  rcases hr : act.run s with ⟨r, s'⟩
  rw [hr] at h1
  cases r with
  | ok a => exact hnext a s' h1
  | error e => exact hfails e s' h1

theorem Act.Ends.ite {P : System ω → Prop} {R : Except Fault α → System ω → Prop} {c : Prop}
    [Decidable c] {act act' : Act ω α} (h : c → act.Ends P R) (h' : ¬c → act'.Ends P R) :
    Act.Ends (if c then act else act') P R := by
  split
  · exact h ‹_›
  · exact h' ‹_›

/-! ## Actions that do not fail -/

/-- From systems with one property an action does not fail, and its result and the system it leaves
have the other one. -/
def Act.Yields (act : Act ω α) (P : System ω → Prop) (Q : α → System ω → Prop) : Prop :=
  ∀ s, P s → ∃ a s', act.run s = (.ok a, s') ∧ Q a s'

namespace Act.Yields

variable {P : System ω → Prop} {R : α → System ω → Prop} {Q : β → System ω → Prop}

theorem bind {act : Act ω α} {next : α → Act ω β} (h : act.Yields P R)
    (hnext : ∀ a, (next a).Yields (R a) Q) : (act >>= next).Yields P Q := by
  intro s hs
  obtain ⟨a, s', hr, ha⟩ := h s hs
  obtain ⟨b, s'', hr', hb⟩ := hnext a s' ha
  exact ⟨b, s'', by rw [Act.run_bind, hr]; exact hr', hb⟩

theorem pure {a : α} (h : ∀ s, P s → R a s) : Act.Yields (Pure.pure a) P R :=
  fun s hs => ⟨a, s, rfl, h s hs⟩

theorem ite {c : Prop} [Decidable c] {act act' : Act ω α} (h : c → act.Yields P R)
    (h' : ¬c → act'.Yields P R) : Act.Yields (if c then act else act') P R := by
  split
  · exact h ‹_›
  · exact h' ‹_›

theorem mono {act : Act ω α} {P' : System ω → Prop} {R' : α → System ω → Prop}
    (h : act.Yields P R) (hP : ∀ s, P' s → P s) (hR : ∀ a s, R a s → R' a s) :
    act.Yields P' R' := by
  intro s hs
  obtain ⟨a, s', hr, ha⟩ := h s (hP s hs)
  exact ⟨a, s', hr, hR a s' ha⟩

theorem of_keeps {act : Act ω α} (h : act.Keeps P)
    (hok : ∀ s, P s → ∃ a, (act.run s).1 = .ok a) : act.Yields P fun _ => P := by
  intro s hs
  obtain ⟨a, ha⟩ := hok s hs
  exact ⟨a, (act.run s).2, Prod.ext ha rfl, h s hs⟩

/-- A fault that is handled is no failure. -/
theorem tryCatch {act : Act ω α} {handle : Fault → Act ω α} {Q : System ω → Prop}
    (h : act.Leads P Q) (hhandle : ∀ e, (handle e).Yields Q fun _ => Q) :
    Act.Yields (MonadExcept.tryCatch act handle) P fun _ => Q := by
  intro s hs
  have h1 := h s hs
  rw [Act.run_tryCatch]
  rcases hr : act.run s with ⟨r, s'⟩
  rw [hr] at h1
  cases r with
  | ok a => exact ⟨a, s', rfl, h1⟩
  | error e => exact hhandle e s' h1

/-- Where a part does not fail, no fault of it is handled. -/
theorem unhandled {act : Act ω α} (h : act.Yields P R) (handle : Fault → Act ω α) :
    Act.Yields (MonadExcept.tryCatch act handle) P R := by
  intro s hs
  obtain ⟨a, s', hr, ha⟩ := h s hs
  exact ⟨a, s', by rw [Act.run_tryCatch, hr], ha⟩

theorem leads {act : Act ω α} {Q : System ω → Prop} (h : act.Yields P fun _ => Q) :
    act.Leads P Q := by
  intro s hs
  obtain ⟨a, s', hr, ha⟩ := h s hs
  rw [hr]
  exact ha

/-- The first part does not fail, and the second one may. -/
theorem bind_leads {act : Act ω α} {next : α → Act ω β} {Q : System ω → Prop} (h : act.Yields P R)
    (hnext : ∀ a, (next a).Leads (R a) Q) : (act >>= next).Leads P Q := by
  intro s hs
  obtain ⟨a, s', hr, ha⟩ := h s hs
  rw [Act.run_bind, hr]
  exact hnext a s' ha

end Act.Yields

/-- From systems with a property an action does not fail, has a given result, and keeps the
property. -/
def Act.Gives (act : Act ω α) (P : System ω → Prop) (a : α) : Prop :=
  act.Yields P fun b s => b = a ∧ P s

namespace Act.Gives

variable {P : System ω → Prop} {a : α} {b : β}

theorem pure (a : α) : Act.Gives (Pure.pure a) P a := fun s hs => ⟨a, s, rfl, rfl, hs⟩

theorem bind {act : Act ω α} {next : α → Act ω β} (h : act.Gives P a)
    (hnext : (next a).Gives P b) : (act >>= next).Gives P b := by
  refine Act.Yields.bind h fun x s hs => ?_
  obtain ⟨rfl, hs⟩ := hs
  exact hnext s hs

theorem run {act : Act ω α} (h : act.Gives P a) {s : System ω} (hs : P s) :
    ∃ s', act.run s = (.ok a, s') ∧ P s' := by
  obtain ⟨_, s', hr, rfl, hs'⟩ := h s hs
  exact ⟨s', hr, hs'⟩

/-- What follows an action with a known result starts where the action ends. -/
theorem run_bind {act : Act ω α} (h : act.Gives P a) {s : System ω} (hs : P s)
    (next : α → Act ω β) : ∃ s', P s' ∧ Act.run (act >>= next) s = Act.run (next a) s' := by
  obtain ⟨s', hr, hs'⟩ := h.run hs
  exact ⟨s', hs', by rw [Act.run_bind, hr]⟩

theorem of_keeps {act : Act ω α} (h : act.Keeps P) (hok : ∀ s, P s → (act.run s).1 = .ok a) :
    act.Gives P a := fun s hs => ⟨a, (act.run s).2, Prod.ext (hok s hs) rfl, rfl, h s hs⟩

end Act.Gives

/-! ## Handling messages -/

theorem reconcile_ok (env : Surroundings ω) (s : System ω) :
    (Act.run (reconcile env) s).1 = .ok () := by
  unfold reconcile
  split
  · rw [Act.run_tryCatch]
    rcases Act.run (env.call .reconcile) s with ⟨r, s'⟩
    cases r <;> rfl
  · rfl

/-- The system in which the handler of a message starts. -/
def System.begun (env : Surroundings ω) (m : Message) (s : System ω) : System ω :=
  let s := (Act.run (reconcile env) s).2
  { s with journal := .began m :: s.journal }

/-- Handling a message comes to what its handler comes to, and ends without a fault.  A fault of the
handler is noted. -/
theorem run_process (env : Surroundings ω) (m : Message) (s : System ω) :
    Act.run (process env m) s = (.ok (),
      match Act.run (handle env m) (s.begun env m) with
      | (.ok _, s) => { s with journal := .ended m :: s.journal }
      | (.error e, s) =>
        { s with journal := .ended m :: .noted (failureNotice m e) :: s.journal }) := by
  have h := reconcile_ok env s
  unfold process System.begun
  rw [Act.run_bind]
  rcases hr : Act.run (reconcile env) s with ⟨r, s'⟩
  rw [hr] at h
  cases h
  simp only [Act.run_bind, run_record, Act.run_tryCatch]
  generalize Act.run (handle env m) _ = p
  obtain ⟨r, s''⟩ := p
  cases r <;> rfl

/-- Handling a message comes to what its handler comes to, but for what is noted. -/
theorem process_snd (env : Surroundings ω) (m : Message) (s : System ω) :
    ∃ j, (Act.run (process env m) s).2 =
      { (Act.run (handle env m) (s.begun env m)).2 with journal := j } := by
  rw [run_process]
  rcases Act.run (handle env m) (s.begun env m) with ⟨r, s'⟩
  cases r <;> exact ⟨_, rfl⟩

/-- Handling a message raises nothing, whatever its handler meets. -/
theorem process_ok (env : Surroundings ω) (m : Message) (s : System ω) :
    (Act.run (process env m) s).1 = .ok () := by
  rw [run_process]

theorem run_drain_nil (env : Surroundings ω) (limit : Nat) {s : System ω}
    (h : s.core.queue = []) : Act.run (drain env limit) s = (.ok 0, s) := by
  cases limit with
  | zero => rfl
  | succ limit => simp only [drain, nextMessage, Act.run_bind, run_core, h, Act.run_pure]

/-- The messages that wait are handled one after the other, whatever their handlers meet. -/
theorem run_drain_cons (env : Surroundings ω) (limit : Nat) {s : System ω} {m : Message}
    {rest : List Message} (h : s.core.queue = m :: rest) :
    Act.run (drain env (limit + 1)) s =
      Act.run (do return (← drain env limit) + 1)
        (Act.run (process env m) { s with core := { s.core with queue := rest } }).2 := by
  have hok := process_ok env m { s with core := { s.core with queue := rest } }
  simp only [drain, nextMessage, Act.run_bind, run_core, h, run_modifyCore, Act.run_pure]
  rcases hr : Act.run (process env m) { s with core := { s.core with queue := rest } } with ⟨r, s'⟩
  rw [hr] at hok
  cases hok
  rfl

/-- The loop of a closed poller ends at once. -/
theorem run_serve_closed (env : Surroundings ω) (turns : Nat) {s : System ω}
    (h : s.core.closed = true) : Act.run (serve env turns) s = (.ok (), s) := by
  cases turns with
  | zero => rfl
  | succ turns => simp [serve, Act.run_bind, h]

/-- While no message waits its turns pass without effect. -/
theorem run_serve_nil (env : Surroundings ω) (turns : Nat) {s : System ω}
    (h : s.core.queue = []) : Act.run (serve env turns) s = (.ok (), s) := by
  induction turns with
  | zero => rfl
  | succ turns ih =>
    by_cases hclosed : s.core.closed = true
    · exact run_serve_closed env _ hclosed
    · simp [serve, nextMessage, Act.run_bind, hclosed, h, ih]

/-- In a turn of an open poller the next message is handled, whatever its handler meets. -/
theorem run_serve_cons (env : Surroundings ω) (turns : Nat) {s : System ω}
    (hopen : s.core.closed = false) {m : Message} {rest : List Message}
    (h : s.core.queue = m :: rest) :
    Act.run (serve env (turns + 1)) s =
      Act.run (serve env turns)
        (Act.run (process env m) { s with core := { s.core with queue := rest } }).2 := by
  have hok := process_ok env m { s with core := { s.core with queue := rest } }
  rw [serve, Act.run_bind, run_core]
  dsimp only
  rw [if_pos (by simp [hopen])]
  simp only [nextMessage, Act.run_bind, run_core, h, run_modifyCore, Act.run_pure]
  rcases hr : Act.run (process env m) { s with core := { s.core with queue := rest } } with ⟨r, s'⟩
  rw [hr] at hok
  cases hok
  rfl

end MailSchedule
