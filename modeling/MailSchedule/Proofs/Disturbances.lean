import MailSchedule.Proofs.Requests

/-!
# Failed operations and new connections

A read or a write that fails, or a connection that is closed and opened again, should leave no trace:
whatever is asked of the store afterwards is answered as if it had not happened.

It is nearly so.  What is saved stays as it is.  But a write that the database refuses because a value
is missing is not rolled back.  The connection holds the database from then on, so that a connection
opened beside it finds the database locked; and the refusal is remembered, so that a request with a
value that cannot be handed over may be told the refusal instead of what is wrong with its value.

Results:

* `Disturbance`: what is not to leave a trace.
* `Alike.step`, `Alike.after`: stores that hold the same are told apart by nothing but the wording
  of a failure.
* `Quiet.step`: requests that lack nothing leave no refusal to be remembered.
* `traceless_iff`: a disturbance leaves no trace exactly if the connection holds the database after
  it as before.
* `trace_of_refused`: a refused write that changes the answer to a later read.
-/

namespace MailSchedule.Store

/-! ## Stores that hold the same -/

/-- Whether a failure tells what is wrong with a value of a request, or something that was refused
before. -/
def Request.Complains (r : Request) (e : Error) : Prop :=
  ∃ problem, r.problem? = some problem ∧ (e = problem ∨ ∃ f, e = r.statement.refused f)

/-- Whether two answers to an operation are the same, but for the wording of the failure of a
request with a value that cannot be handed over. -/
def Operation.Agrees : (o : Operation) → Except Error o.Answer → Except Error o.Answer → Prop
  | .ask r, a, b =>
    a = b ∨ ∃ e e', a = .error e ∧ b = .error e' ∧ r.Complains e ∧ r.Complains e'
  | _, a, b => a = b

/-- Stores with the same saved tables, that are both connected or not, and hold the database both or
not. -/
structure Alike (s s' : Store) : Prop where
  saved : s'.saved = s.saved
  locked : s'.locked = s.locked
  isOpen : s'.connection.isSome = s.connection.isSome
  holds : s'.holds = s.holds

theorem Connection.Tells.complains {c : Connection} {r : Request} {problem e : Error}
    (h : c.Tells r.statement problem e) (hp : r.problem? = some problem) : r.Complains e :=
  ⟨problem, hp, h.imp_right fun ⟨f, _, he⟩ => ⟨f, he⟩⟩

theorem holds_of_connection {s : Store} {c : Connection} (hc : s.connection = some c) :
    s.holds = c.holdsLock := by
  unfold holds
  rw [hc]
  rfl

section Alike

variable {s s' : Store}

/-- Stores that hold the same answer a request alike, and go on to hold the same. -/
theorem Alike.ask (h : Alike s s') (hs : s.Sound) (hs' : s'.Sound) (r : Request) :
    (Operation.ask r).Agrees (r.act.run s).1 (r.act.run s').1 ∧
      Alike (r.act.run s).2 (r.act.run s').2 := by
  have hopen := h.isOpen
  cases hc : s.connection with
  | none =>
    have hc' : s'.connection = none := by simpa [hc] using hopen
    rw [r.run_notConnected hc, r.run_notConnected hc']
    exact ⟨.inl rfl, h⟩
  | some c =>
    obtain ⟨c', hc'⟩ : ∃ c', s'.connection = some c' :=
      Option.isSome_iff_exists.mp (hopen.trans (by rw [hc]; rfl))
    have hsound := hs.connection c hc
    have hsound' := hs'.connection c' hc'
    have hholds : c'.holdsLock = c.holdsLock := by
      rw [← holds_of_connection hc, ← holds_of_connection hc', h.holds]
    have hfate : r.fate s'.locked = r.fate s.locked := by rw [h.locked]
    cases hf : r.fate s.locked with
    | rejected =>
      obtain ⟨problem, e, d, hp, ht, hd, hrun⟩ := Request.run_rejected hc hsound hf
      obtain ⟨problem', e', d', hp', ht', hd', hrun'⟩ :=
        Request.run_rejected hc' hsound' (hfate.trans hf)
      rw [hrun, hrun']
      refine ⟨.inr ⟨e, e', rfl, rfl, ht.complains hp, ht'.complains hp'⟩, h.saved, h.locked, rfl, ?_⟩
      show d'.holdsLock = d.holdsLock
      rw [hd.holdsLock, hd'.holdsLock, hholds]
    | refused f =>
      obtain ⟨d, -, hrun⟩ := Request.run_refused hc hsound hf
      obtain ⟨d', -, hrun'⟩ := Request.run_refused hc' hsound' (hfate.trans hf)
      rw [hrun, hrun']
      refine ⟨.inl rfl, h.saved, h.locked, rfl, ?_⟩
      show (c'.holdsLock || !s'.locked) = (c.holdsLock || !s.locked)
      rw [hholds, h.locked]
    | done =>
      obtain ⟨rows, switches, ht⟩ := hsound.holding
      obtain ⟨d, -, -, -, hd, hrun⟩ := Request.run_done hc hsound ht hf
      obtain ⟨d', -, -, -, hd', hrun'⟩ :=
        Request.run_done hc' hsound' (h.saved.trans ht) (hfate.trans hf)
      rw [hrun, hrun']
      refine ⟨.inl rfl, rfl, h.locked, rfl, ?_⟩
      show d'.holdsLock = d.holdsLock
      rw [hd, hd', hholds]

/-- Stores that hold the same answer every operation alike, and go on to hold the same. -/
theorem Alike.step (h : Alike s s') (hs : s.Sound) (hs' : s'.Sound) (o : Operation) :
    o.Agrees (o.answer s) (o.answer s') ∧ Alike (o.act.run s).2 (o.act.run s').2 := by
  cases o with
  | connect =>
    have hrun : Operation.connect.act.run s = _ := hs.run_connect
    have hrun' : Operation.connect.act.run s' = _ := hs'.run_connect
    unfold Operation.answer
    rw [hrun, hrun', h.saved, h.locked, h.holds]
    exact ⟨rfl, rfl, rfl, rfl, rfl⟩
  | close => exact ⟨rfl, h.saved, h.locked, rfl, rfl⟩
  | ask r => exact h.ask hs hs' r

/-- Stores that hold the same do so after any operations. -/
theorem Alike.after (h : Alike s s') (hs : s.Sound) (hs' : s'.Sound) (ops : List Operation) :
    Alike (s.after ops) (s'.after ops) := by
  induction ops generalizing s s' with
  | nil => exact h
  | cons o ops ih => exact ih (h.step hs hs' o).2 (hs.step o) (hs'.step o)

end Alike

/-! ## Stores in which nothing was refused -/

/-- A store that nobody holds and that has no refusal to remember. -/
structure Quiet (s : Store) : Prop where
  locked : s.locked = false
  holds : s.holds = false
  lastRefusal : ∀ c, s.connection = some c → c.lastRefusal = none

/-- An operation that puts no account which lacks a value. -/
def Operation.IsComplete (o : Operation) : Prop := ∀ r, o = .ask r → r.missing? = none

theorem quiet_fresh : Quiet {} := ⟨rfl, rfl, fun _ hc => by cases hc⟩

theorem Quiet.of_connection {s : Store} {c : Connection} (hc : s.connection = some c)
    (hl : s.locked = false) (hh : c.holdsLock = false) (hr : c.lastRefusal = none) : Quiet s := by
  refine ⟨hl, (holds_of_connection hc).trans hh, fun c' hc' => ?_⟩
  obtain rfl := Option.some.inj (hc.symm.trans hc')
  exact hr

theorem Connection.Prepares.quiet {c c' : Connection} (h : c.Prepares c')
    (hr : c.lastRefusal = none) : c'.lastRefusal = none := by
  cases hf : c'.lastRefusal with
  | none => rfl
  | some f => exact (h.lastRefusal f hf).symm.trans hr

/-- Operations that lack nothing leave no refusal to be remembered. -/
theorem Quiet.step {s : Store} (h : Quiet s) (hs : s.Sound) {o : Operation} (ho : o.IsComplete) :
    Quiet (o.act.run s).2 := by
  cases o with
  | connect =>
    have hrun : Operation.connect.act.run s = _ := hs.run_connect
    rw [hrun, h.locked, h.holds]
    exact .of_connection rfl rfl rfl rfl
  | close => exact ⟨h.locked, rfl, fun _ hc => by cases hc⟩
  | ask r =>
    show Quiet (r.act.run s).2
    cases hc : s.connection with
    | none => rwa [r.run_notConnected hc]
    | some c =>
      have hsound := hs.connection c hc
      have hholds : c.holdsLock = false := (holds_of_connection hc).symm.trans h.holds
      have hrefusal : c.lastRefusal = none := h.lastRefusal c hc
      cases hf : r.fate s.locked with
      | rejected =>
        obtain ⟨-, e, d, -, -, hd, hrun⟩ := Request.run_rejected hc hsound hf
        rw [hrun]
        exact .of_connection rfl h.locked (hd.holdsLock.trans hholds) (hd.quiet hrefusal)
      | refused f =>
        obtain ⟨-, -, ⟨hl, -⟩ | ⟨-, column, hm, -⟩⟩ := Request.fate_eq_refused.mp hf
        · rw [h.locked] at hl
          cases hl
        · rw [ho r rfl] at hm
          cases hm
      | done =>
        obtain ⟨rows, switches, ht⟩ := hsound.holding
        obtain ⟨d, -, -, hr, hd, hrun⟩ := Request.run_done hc hsound ht hf
        rw [hrun]
        exact .of_connection rfl h.locked (by rw [hd, hholds, Bool.and_false]) hr

theorem Quiet.after {s : Store} (h : Quiet s) (hs : s.Sound) {ops : List Operation}
    (hops : ∀ o ∈ ops, o.IsComplete) : Quiet (s.after ops) := by
  induction ops generalizing s with
  | nil => exact h
  | cons o ops ih =>
    exact ih (h.step hs (hops o List.mem_cons_self)) (hs.step o)
      fun o' ho' => hops o' (List.mem_cons_of_mem _ ho')

/-- A request with a value that cannot be handed over is told so, where nothing was refused. -/
theorem Quiet.answer_of_problem {s : Store} (h : Quiet s) (hs : s.Sound) {r : Request}
    {problem : Error} (hp : r.problem? = some problem) :
    (r.act.run s).1 = .error (if s.connection.isSome then problem else .notConnected) := by
  cases hc : s.connection with
  | none => rw [r.run_notConnected hc]; rfl
  | some c =>
    have hf : r.fate s.locked = .rejected := Request.fate_eq_rejected.mpr (by rw [hp]; rfl)
    obtain ⟨problem', e, d, hp', ht, -, hrun⟩ := Request.run_rejected hc (hs.connection c hc) hf
    obtain rfl := Option.some.inj (hp.symm.trans hp')
    rcases ht with rfl | ⟨f, hrefusal, -⟩
    · rw [hrun]
      rfl
    · rw [h.lastRefusal c hc] at hrefusal
      cases hrefusal

/-- Where nothing was refused, stores that hold the same give the same answers. -/
theorem Alike.answer_of_quiet {s s' : Store} (h : Alike s s') (hs : s.Sound) (hs' : s'.Sound)
    (hq : s.Quiet) (hq' : s'.Quiet) (o : Operation) : o.answer s = o.answer s' := by
  have hagrees := (h.step hs hs' o).1
  cases o with
  | connect => exact hagrees
  | close => exact hagrees
  | ask r =>
    rcases hagrees with heq | ⟨-, -, -, -, ⟨problem, hp, -⟩, -⟩
    · exact heq
    · show (r.act.run s).1 = (r.act.run s').1
      rw [hq.answer_of_problem hs hp, hq'.answer_of_problem hs' hp, h.isOpen]

/-! ## Disturbances -/

/-- What is not to leave a trace: a request that fails, or a connection that is closed and opened
again. -/
inductive Disturbance
  | fails (r : Request)
  | reopens
  deriving DecidableEq, Repr

namespace Disturbance

/-- The operations of a disturbance. -/
def operations : Disturbance → List Operation
  | fails r => [.ask r]
  | reopens => [.close, .connect]

/-- Whether a disturbance is one for a store: the request does fail, or there is a connection. -/
def Happens (x : Disturbance) (s : Store) : Prop :=
  match x with
  | fails r => ∃ e, (r.act.run s).1 = .error e
  | reopens => s.connection.isSome

/-- Whether a disturbance changes who holds the database.  A write that is refused because a value
is missing takes hold of it, and a connection that is closed gives it up. -/
def TurnsHold (x : Disturbance) (s : Store) : Prop :=
  match x with
  | fails r => s.connection.isSome ∧ s.holds = false ∧
      ∃ column, r.fate s.locked = .refused (.missingValue column)
  | reopens => s.holds = true

variable {x : Disturbance} {s : Store}

/-- What is left of a store by a disturbance: nothing that is saved has changed, there is a
connection if there was one, and it may hold the database now. -/
theorem Happens.kept (h : x.Happens s) (hs : s.Sound) :
    (s.after x.operations).saved = s.saved ∧ (s.after x.operations).locked = s.locked ∧
      (s.after x.operations).connection.isSome = s.connection.isSome ∧
      ((s.after x.operations).holds = s.holds ↔ ¬ x.TurnsHold s) := by
  cases x with
  | reopens =>
    obtain ⟨c, hc⟩ := Option.isSome_iff_exists.mp h
    have hclosed : Sound { s with connection := none } := hs.step .close
    have hrun : s.after reopens.operations = _ := congrArg Prod.snd hclosed.run_connect
    have hcreated := (Tables.createMissing_eq_iff s.saved).mpr (hs.connection c hc).holding
    rw [hrun, hcreated, hc]
    refine ⟨rfl, Bool.or_false _, rfl, ?_⟩
    show false = s.holds ↔ ¬ s.holds = true
    cases s.holds <;> simp
  | fails r =>
    show (r.act.run s).2.saved = _ ∧ (r.act.run s).2.locked = _ ∧
      (r.act.run s).2.connection.isSome = _ ∧ ((r.act.run s).2.holds = _ ↔
        ¬ (s.connection.isSome ∧ s.holds = false ∧
          ∃ column, r.fate s.locked = .refused (.missingValue column)))
    cases hc : s.connection with
    | none =>
      rw [r.run_notConnected hc, hc]
      simp
    | some c =>
      have hsound := hs.connection c hc
      have hholds := holds_of_connection hc
      cases hf : r.fate s.locked with
      | rejected =>
        obtain ⟨-, e, d, -, -, hd, hrun⟩ := Request.run_rejected hc hsound hf
        rw [hrun]
        refine ⟨rfl, rfl, rfl, iff_of_true ?_ (by simp)⟩
        exact hd.holdsLock.trans hholds.symm
      | refused f =>
        obtain ⟨d, -, hrun⟩ := Request.run_refused hc hsound hf
        obtain ⟨-, -, hcases⟩ := Request.fate_eq_refused.mp hf
        rw [hrun]
        refine ⟨rfl, rfl, rfl, ?_⟩
        show (c.holdsLock || !s.locked) = s.holds ↔ _
        rw [hholds]
        rcases hcases with ⟨hl, rfl⟩ | ⟨hl, column, -, rfl⟩
        · simp [hl]
        · rw [hl]
          cases c.holdsLock <;> simp
      | done =>
        obtain ⟨e, he⟩ := h
        obtain ⟨rows, switches, ht⟩ := hsound.holding
        obtain ⟨d, -, -, -, -, hrun⟩ := Request.run_done hc hsound ht hf
        rw [hrun] at he
        cases he

/-- A disturbance that does not change who holds the database leaves a store that holds the same. -/
theorem Happens.alike (h : x.Happens s) (hs : s.Sound) (hx : ¬ x.TurnsHold s) :
    Alike (s.after x.operations) s := by
  obtain ⟨hsaved, hlocked, hopen, hholds⟩ := h.kept hs
  exact ⟨hsaved.symm, hlocked.symm, hopen.symm, (hholds.mpr hx).symm⟩

end Disturbance

/-- A write on a connection that has just been opened is refused if the connection before it holds
the database. -/
theorem answer_after_connect {s : Store} (hs : s.Sound) (hl : s.locked = false) :
    (Operation.ask (.resetCount none)).answer (s.after [.connect]) =
      if s.holds then .error (.writeRefused .locked) else .ok () := by
  have hrun : s.after [.connect] = _ := congrArg Prod.snd hs.run_connect
  have hsound : Sound (s.after [.connect]) := hs.after [.connect]
  have hc : (s.after [.connect]).connection = some { view := s.saved.createMissing } := by rw [hrun]
  have hlocked : (s.after [.connect]).locked = s.holds := by
    rw [hrun]
    show (s.locked || s.holds) = s.holds
    rw [hl, Bool.false_or]
  have hfate : (Request.resetCount none).fate (s.after [.connect]).locked =
      if s.holds then .refused .locked else .done := by
    rw [hlocked]
    cases s.holds <;> rfl
  cases hh : s.holds with
  | true =>
    rw [hh] at hfate
    obtain ⟨d, -, hask⟩ := Request.run_refused hc (hsound.connection _ hc) hfate
    exact congrArg Prod.fst hask
  | false =>
    rw [hh] at hfate
    have hconn := hsound.connection _ hc
    obtain ⟨rows, switches, ht⟩ := hconn.holding
    obtain ⟨d, -, -, -, -, hask⟩ := Request.run_done hc hconn ht hfate
    exact congrArg Prod.fst hask

/-- A store that nobody else holds: where a disturbance changes who holds the database, another
connection sees it. -/
theorem Disturbance.TurnsHold.unlocked {x : Disturbance} {s : Store} (h : x.TurnsHold s)
    (hs : s.Sound) : s.locked = false := by
  cases x with
  | fails r =>
    obtain ⟨-, -, column, hf⟩ := h
    obtain ⟨-, -, ⟨-, hf'⟩ | ⟨hl, -⟩⟩ := Request.fate_eq_refused.mp hf
    · cases hf'
    · exact hl
  | reopens =>
    cases hc : s.connection with
    | none => simp [TurnsHold, holds, hc] at h
    | some c =>
      have hholds : c.holdsLock = true := (holds_of_connection hc).symm.trans h
      cases hl : s.locked with
      | false => rfl
      | true =>
        rw [(hs.connection c hc).holdsLock hl] at hholds
        cases hholds

/-- A disturbance leaves no trace, but for the wording of failures, exactly if it does not change who
holds the database: every operation in every continuation is answered as if it had not happened.
Where no account that lacks a value is ever put, it leaves no trace at all. -/
theorem traceless_iff (before : List Operation) (x : Disturbance)
    (hx : x.Happens (Store.after {} before)) :
    let s := Store.after {} before
    let disturbed := s.after x.operations
    ((∀ later (o : Operation), o.Agrees (o.answer (disturbed.after later))
        (o.answer (s.after later))) ↔ ¬ x.TurnsHold s) ∧
    ∀ later, (∀ o ∈ before ++ x.operations ++ later, o.IsComplete) →
      ∀ o : Operation, o.answer (disturbed.after later) = o.answer (s.after later) := by
  intro s disturbed
  have hs : s.Sound := sound_fresh.after before
  have hd : disturbed.Sound := hs.after x.operations
  refine ⟨⟨fun h hturns => ?_, fun hturns later o => ?_⟩, fun later hcomplete o => ?_⟩
  · obtain ⟨-, hlocked, -, hholds⟩ := hx.kept hs
    have hl : s.locked = false := hturns.unlocked hs
    have hagrees := h [.connect] (.ask (.resetCount none))
    rw [answer_after_connect hs hl, answer_after_connect hd (hlocked.trans hl)] at hagrees
    have hne : disturbed.holds ≠ s.holds := fun heq => hholds.mp heq hturns
    rcases hagrees with heq | ⟨e, e', -, -, ⟨problem, hp, -⟩, -⟩
    · cases hd' : disturbed.holds <;> cases hs' : s.holds <;> simp_all
    · cases hp
  · have halike := (hx.alike hs hturns).after hd hs later
    exact (halike.step (hd.after later) (hs.after later) o).1
  · have hbefore : ∀ o ∈ before, o.IsComplete := fun o ho =>
      hcomplete o (List.mem_append_left _ (List.mem_append_left _ ho))
    have hoperations : ∀ o ∈ x.operations, o.IsComplete := fun o ho =>
      hcomplete o (List.mem_append_left _ (List.mem_append_right _ ho))
    have hlater : ∀ o ∈ later, o.IsComplete := fun o ho =>
      hcomplete o (List.mem_append_right _ ho)
    have hq : s.Quiet := quiet_fresh.after sound_fresh hbefore
    have hqd : disturbed.Quiet := hq.after hs hoperations
    obtain ⟨hsaved, hlocked, hopen, -⟩ := hx.kept hs
    have halike : Alike disturbed s :=
      ⟨hsaved.symm, hlocked.symm, hopen.symm, hq.holds.trans hqd.holds.symm⟩
    exact (halike.after hd hs later).answer_of_quiet (hd.after later) (hs.after later)
      (hqd.after hd hlater) (hq.after hs hlater) o

/-- A refused write that leaves a trace.  The number of the account that is asked for last is too
large: the request is told so if the write did not happen, and it is told what the write lacked if
it did. -/
theorem trace_of_refused :
    ¬ ∀ (before : List Operation) (x : Disturbance), x.Happens (Store.after {} before) →
      ∀ later (o : Operation),
        o.answer ((Store.after (Store.after {} before) x.operations).after later) =
          o.answer ((Store.after {} before).after later) := by
  intro h
  have heq := h [.connect, .ask (.get 1)]
    (.fails (.upsert { id := 1, email := none, receiveRef := some 1, sendRef := some 1 }))
    ⟨.writeRefused (.missingValue .email), rfl⟩ []
    (.ask (.get 9223372036854775808))
  have hwith : (Operation.ask (.get 9223372036854775808)).answer
      (Store.after {} [.connect, .ask (.get 1),
        .ask (.upsert { id := 1, email := none, receiveRef := some 1, sendRef := some 1 })]) =
      .error (.readRefused (.missingValue .email)) := rfl
  have hwithout : (Operation.ask (.get 9223372036854775808)).answer
      (Store.after {} [.connect, .ask (.get 1)]) = .error .integerTooLarge := rfl
  have hsame : (Except.error (.readRefused (.missingValue .email)) :
      Except Error (Option Account)) = .error .integerTooLarge :=
    hwith.symm.trans (heq.trans hwithout)
  cases hsame

/-- A read of a number that is too large leaves no trace. -/
theorem traceless_tooLarge :
    let s := Store.after {} [.connect, .ask (.get 1)]
    ∀ later (o : Operation), o.Agrees
      (o.answer ((s.after [.ask (.get 9223372036854775808)]).after later))
      (o.answer (s.after later)) := by
  intro s
  have hx : (Disturbance.fails (.get 9223372036854775808)).Happens s :=
    ⟨.integerTooLarge, rfl⟩
  have hturns : ¬ (Disturbance.fails (.get 9223372036854775808)).TurnsHold s := by
    rintro ⟨-, -, column, hf⟩
    have hrejected : (Request.get 9223372036854775808).fate s.locked = .rejected := by
      decide +kernel
    rw [hrejected] at hf
    cases hf
  exact (traceless_iff [.connect, .ask (.get 1)] _ hx).1.mpr hturns

end MailSchedule.Store
