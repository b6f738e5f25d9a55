import MailSchedule.Store.Basic

/-!
# What the store's reads and writes come to

The reads and writes of the account store are all carried out in the same way: a statement, the
values that are handed over to it, and what it does to the tables.  On a connection in good order
three things can happen.  A value cannot be handed over, the database refuses the statement, or the
statement is carried out, and which of them depends on the request and on whether the database is
locked, but on nothing else that the connection has been through.

Results:

* `Request.fate`, `Store.Sound`: what a request comes to, and the stores for which that is so.
* `Request.run_rejected`, `Request.run_refused`, `Request.run_done`: the run of a request in each
  case.
* `Operation`, `Store.after`: sequences of operations; `sound_after`: all of them keep the store in
  good order.
-/

namespace MailSchedule.Store

/-! ## Running operations of the store -/

@[simp] theorem Act.run_pure {α : Type} (a : α) (s : Store) : (pure a : Act α).run s = (.ok a, s) :=
  rfl

@[simp] theorem Act.run_throw {α : Type} (e : Error) (s : Store) :
    (throw e : Act α).run s = (.error e, s) := rfl

@[simp] theorem Act.run_bind {α β : Type} (x : Act α) (f : α → Act β) (s : Store) :
    (x >>= f).run s =
      match x.run s with
      | (.ok a, s') => (f a).run s'
      | (.error e, s') => (.error e, s') := by
  show StateT.run (ExceptT.run (x >>= f)) s = _
  simp only [ExceptT.run_bind, StateT.run_bind, Act.run]
  generalize StateT.run (ExceptT.run x) s = p
  rcases p with ⟨_ | _, _⟩ <;> rfl

@[simp] theorem Act.run_map {α β : Type} (f : α → β) (x : Act α) (s : Store) :
    (f <$> x).run s =
      match x.run s with
      | (.ok a, s') => (.ok (f a), s')
      | (.error e, s') => (.error e, s') := by
  rw [map_eq_pure_bind, Act.run_bind]
  rfl

@[simp] theorem run_connected (s : Store) :
    connected.run s =
      (match s.connection with | some c => .ok c | none => .error .notConnected, s) := by
  rcases s with ⟨t, _ | c, l⟩ <;> rfl

@[simp] theorem run_isLocked (s : Store) : isLocked.run s = (.ok s.locked, s) := rfl

@[simp] theorem run_setConnection (c : Connection) (s : Store) :
    (setConnection c).run s = (.ok (), { s with connection := some c }) := rfl

@[simp] theorem run_commit (c : Connection) (s : Store) :
    (commit c).run s = (.ok (), { s with
      saved := c.view
      connection := some { c.settled with uncommitted := false, holdsLock := false } }) := rfl

@[simp] theorem run_close (s : Store) : close.run s = (.ok (), { s with connection := none }) := rfl

/-! ## Requests -/

/-- A read or a write of the store. -/
inductive Request
  | list
  | get (id : Int)
  | isSyncEnabled (email : Text)
  | count (id : Int)
  | idsWithProtocol (protocol : Text)
  | upsert (d : Account.Draft)
  | delete (id : Int)
  | setCount (id count : Int)
  | resetCount (target : Option Int)
  | setSync (email : Text) (on : Bool)
  deriving DecidableEq, Repr

namespace Request

/-- What a request is answered with. -/
abbrev Answer : Request → Type
  | .list => List Account
  | .get _ => Option Account
  | .isSyncEnabled _ => Bool
  | .count _ => Option Int
  | .idsWithProtocol _ => List Int
  | .delete _ => Bool
  | _ => Unit

/-- The operation of the store that a request stands for. -/
def act : (r : Request) → Act r.Answer
  | .list => Store.list
  | .get id => Store.get id
  | .isSyncEnabled email => Store.isSyncEnabled email
  | .count id => Store.count id
  | .idsWithProtocol protocol => Store.idsWithProtocol protocol
  | .upsert d => Store.upsert d
  | .delete id => Store.delete id
  | .setCount id n => Store.setCount id n
  | .resetCount target => Store.resetCount target
  | .setSync email on => Store.setSync email on

/-- The statement of a request. -/
def statement : Request → Statement
  | .list => .list
  | .get _ => .get
  | .isSyncEnabled _ => .isSyncEnabled
  | .count _ => .count
  | .idsWithProtocol _ => .idsWithProtocol
  | .upsert _ => .upsert
  | .delete _ => .delete
  | .setCount .. => .setCount
  | .resetCount (some _) => .resetCount
  | .resetCount none => .resetAllCounts
  | .setSync .. => .setSync

/-- The values that a request hands over. -/
def parameters : Request → List Parameter
  | .list => []
  | .get id => [.integer id]
  | .isSyncEnabled email => [.text email]
  | .count id => [.integer id]
  | .idsWithProtocol protocol => [.text protocol]
  | .upsert d => draftParameters d
  | .delete id => [.integer id]
  | .setCount id n => [.integer n, .plain, .integer id]
  | .resetCount (some id) => [.plain, .integer id]
  | .resetCount none => [.plain]
  | .setSync email on => [.text email, .integer (if on then 1 else 0), .plain]

/-- The required value that a request lacks. -/
def missing? : Request → Option Column
  | .upsert d =>
    match complete d with
    | .ok _ => none
    | .error column => some column
  | _ => none

/-- The account that a request puts into the store. -/
def puts? : Request → Option Account
  | .upsert d => (complete d).toOption
  | _ => none

/-- The rows of the table of accounts once a request is carried out. -/
def rowsAfter (rows : List Row) : Request → List Row
  | .upsert d => ((complete d).toOption.map fun a => putRow a rows).getD rows
  | .delete id => rows.filter fun r => r.account.id ≠ id
  | .setCount id n => setCounts (some id) n rows
  | .resetCount target => setCounts target 0 rows
  | _ => rows

/-- The switches once a request is carried out. -/
def switchesAfter (switches : List (Text × Bool)) : Request → List (Text × Bool)
  | .setSync email on => putSwitch email on switches
  | _ => switches

/-- The answer to a request that is carried out. -/
def reply (rows : List Row) (switches : List (Text × Bool)) : (r : Request) → r.Answer
  | .list => rows.map (·.account)
  | .get id => (row? rows id).map (·.account)
  | .isSyncEnabled email => (switches.lookup email).getD true
  | .count id => (row? rows id).map (·.count)
  | .idsWithProtocol protocol =>
    (rows.filter fun r => r.account.protocol = protocol).map (·.account.id)
  | .delete id => (row? rows id).isSome
  | .upsert _ => ()
  | .setCount .. => ()
  | .resetCount _ => ()
  | .setSync .. => ()

end Request

/-- Tables that are both there. -/
def Tables.holding (rows : List Row) (switches : List (Text × Bool)) : Tables :=
  { accounts := some rows, syncSettings := some switches }

theorem Tables.createMissing_eq_iff (t : Tables) :
    t.createMissing = t ↔ ∃ rows switches, t = .holding rows switches := by
  obtain ⟨_ | rows, _ | switches⟩ := t <;> simp [createMissing, holding]

/-- Every request is a statement that is carried out.  A request that lacks a value is refused by
tables that are both there, any other is answered by them. -/
theorem Request.act_eq (r : Request) :
    ∃ work, r.act = carryOut r.statement r.parameters work ∧
      ∀ rows switches, work (.holding rows switches) =
        match r.missing? with
        | some column => .error (.missingValue column)
        | none => .ok (r.reply rows switches,
            .holding (r.rowsAfter rows) (r.switchesAfter switches)) := by
  cases r with
  | upsert d =>
    simp only [act, Store.upsert, upsertWith, change]
    refine ⟨_, rfl, fun rows switches => ?_⟩
    cases h : complete d with
    | error column => simp [Tables.holding, Tables.rows, missing?, h, bind, Except.bind]
    | ok a =>
      simp [Tables.holding, Tables.rows, missing?, rowsAfter, switchesAfter, h, bind, Except.bind,
        pure, Except.pure, Except.toOption]
  | resetCount target =>
    cases target <;> simp only [act, Store.resetCount, resetCountOf, change]
    all_goals exact ⟨_, rfl, fun _ _ => rfl⟩
  | _ =>
    simp only [act, Store.list, Store.get, Store.isSyncEnabled, Store.count, Store.idsWithProtocol,
      Store.delete, Store.setCount, Store.setSync, read, change]
    exact ⟨_, rfl, fun _ _ => rfl⟩

/-! ## Handing values over -/

/-- The first of the values that cannot be handed over, as a failure. -/
def firstProblem? (st : Statement) (position : Nat) : List Parameter → Option Error
  | [] => none
  | p :: rest => (p.problem? st position).or (firstProblem? st (position + 1) rest)

namespace Connection

/-- What happens to a connection before a statement is carried out: it sees the same tables and
keeps what it holds, and it may forget what was refused last. -/
structure Prepares (c c' : Connection) : Prop where
  view : c'.view = c.view
  holdsLock : c'.holdsLock = c.holdsLock
  expired : c'.expired = c.expired
  lastRefusal : ∀ f, c'.lastRefusal = some f → c.lastRefusal = some f

theorem Prepares.refl (c : Connection) : c.Prepares c := ⟨rfl, rfl, rfl, fun _ => id⟩

theorem Prepares.trans {c c' c'' : Connection} (h : c.Prepares c') (h' : c'.Prepares c'') :
    c.Prepares c'' :=
  ⟨h'.view.trans h.view, h'.holdsLock.trans h.holdsLock, h'.expired.trans h.expired,
    fun f hf => h.lastRefusal f (h'.lastRefusal f hf)⟩

theorem prepares_settled (c : Connection) : c.Prepares c.settled :=
  ⟨rfl, rfl, rfl, by simp [settled]⟩

theorem prepares_openTransaction (c : Connection) (st : Statement) :
    c.Prepares (c.openTransaction st) := by
  unfold openTransaction
  split
  · exact ⟨rfl, rfl, rfl, by simp [settled]⟩
  · exact .refl c

theorem prepares_handOver (c : Connection) (st : Statement) (position : Nat)
    (ps : List Parameter) : c.Prepares (c.handOver st position ps).2 := by
  fun_induction handOver c st position ps with
  | case1 => exact .refl _
  | case2 c position p rest _ ih => exact c.prepares_settled.trans ih
  | case3 => exact .refl _

theorem isSome_handOver (c : Connection) (st : Statement) (position : Nat) (ps : List Parameter) :
    (c.handOver st position ps).1.isSome = (firstProblem? st position ps).isSome := by
  fun_induction handOver c st position ps with
  | case1 => rfl
  | case2 c position p rest hp ih => simp [ih, firstProblem?, hp]
  | case3 c position p rest e hp => simp [firstProblem?, hp]

/-- Whether a failure tells what was wrong with a value, or what the connection was refused last. -/
def Tells (c : Connection) (st : Statement) (problem e : Error) : Prop :=
  e = problem ∨ ∃ f, c.lastRefusal = some f ∧ e = st.refused f

theorem Prepares.tells {c c' : Connection} (h : c.Prepares c') {st : Statement}
    {problem e : Error} (ht : c'.Tells st problem e) : c.Tells st problem e :=
  ht.imp_right fun ⟨f, hf, he⟩ => ⟨f, h.lastRefusal f hf, he⟩

theorem handOver_tells {c : Connection} {st : Statement} {position : Nat} {ps : List Parameter}
    {e : Error} (h : (c.handOver st position ps).1 = some e) :
    ∃ problem, firstProblem? st position ps = some problem ∧ c.Tells st problem e := by
  fun_induction handOver c st position ps with
  | case1 => cases h
  | case2 c position p rest hp ih =>
    obtain ⟨problem, hproblem, ht⟩ := ih h
    refine ⟨problem, ?_, c.prepares_settled.tells ht⟩
    rw [firstProblem?, hp, Option.none_or, hproblem]
  | case3 c position p rest problem hp =>
    refine ⟨problem, by rw [firstProblem?, hp, Option.some_or], ?_⟩
    obtain rfl := Option.some.inj h
    cases hf : c.lastRefusal with
    | none => exact .inl (by simp)
    | some f => exact .inr ⟨f, hf, by simp⟩

variable {c : Connection} {rows : List Row} {switches : List (Text × Bool)}

/-- A statement is prepared without further ado while the tables are there. -/
theorem prepare_of_holding (h : c.view = .holding rows switches) (st : Statement) :
    (c.prepare st).1 = none ∧ c.Prepares (c.prepare st).2 := by
  have htable : c.view.has st.table = true := by
    rw [h]
    cases st.table <;> rfl
  unfold prepare
  rw [htable]
  split
  · exact ⟨rfl, .refl c⟩
  · exact ⟨rfl, rfl, rfl, rfl, by simp [settled]⟩

theorem ready_of_holding (h : c.view = .holding rows switches) (st : Statement)
    (ps : List Parameter) :
    c.ready st ps = (((c.prepare st).2.openTransaction st).handOver st 1 ps) := by
  unfold ready
  rw [show c.prepare st = (none, (c.prepare st).2) from Prod.ext (prepare_of_holding h st).1 rfl]

theorem prepares_openPrepared (h : c.view = .holding rows switches) (st : Statement) :
    c.Prepares ((c.prepare st).2.openTransaction st) :=
  (prepare_of_holding h st).2.trans (prepares_openTransaction _ st)

theorem prepares_ready (h : c.view = .holding rows switches) (st : Statement)
    (ps : List Parameter) : c.Prepares (c.ready st ps).2 := by
  rw [ready_of_holding h]
  exact (prepares_openPrepared h st).trans (prepares_handOver _ st 1 ps)

theorem isSome_ready (h : c.view = .holding rows switches) (st : Statement) (ps : List Parameter) :
    (c.ready st ps).1.isSome = (firstProblem? st 1 ps).isSome := by
  rw [ready_of_holding h, isSome_handOver]

theorem ready_tells (h : c.view = .holding rows switches) {st : Statement} {ps : List Parameter}
    {e : Error} (he : (c.ready st ps).1 = some e) :
    ∃ problem, firstProblem? st 1 ps = some problem ∧ c.Tells st problem e := by
  rw [ready_of_holding h] at he
  obtain ⟨problem, hproblem, ht⟩ := handOver_tells he
  exact ⟨problem, hproblem, (prepares_openPrepared h st).tells ht⟩

end Connection

/-! ## What a request comes to -/

/-- What a request comes to on an open connection. -/
inductive Fate
  /-- A value cannot be handed over. -/
  | rejected
  | refused (refusal : Refusal)
  | done
  deriving DecidableEq, Repr

namespace Request

/-- The failure of a request with a value that cannot be handed over. -/
def problem? (r : Request) : Option Error := firstProblem? r.statement 1 r.parameters

/-- Whether a request changes what is saved. -/
def writes (r : Request) : Bool := r.statement.writes

/-- What a request comes to: first its values are handed over, then a write asks for the database,
and last the values that it lacks are noticed. -/
def fate (r : Request) (locked : Bool) : Fate :=
  if r.problem?.isSome then .rejected
  else if r.writes && locked then .refused .locked
  else
    match r.missing? with
    | some column => .refused (.missingValue column)
    | none => .done

/-- Only the insertion of an account can lack a value. -/
theorem writes_of_missing {r : Request} {column : Column} (h : r.missing? = some column) :
    r.writes = true := by
  cases r with
  | upsert d => rfl
  | _ => cases h

/-- A read changes nothing. -/
theorem tables_of_read {r : Request} (h : r.writes = false) (rows : List Row)
    (switches : List (Text × Bool)) :
    r.rowsAfter rows = rows ∧ r.switchesAfter switches = switches := by
  cases r with
  | resetCount target => cases target <;> cases h
  | upsert | delete | setCount | setSync => cases h
  | _ => exact ⟨rfl, rfl⟩

theorem fate_eq_rejected {r : Request} {locked : Bool} :
    r.fate locked = .rejected ↔ r.problem?.isSome := by
  unfold fate
  split
  · simp [*]
  · split
    · simp [*]
    · split <;> simp [*]

theorem fate_eq_refused {r : Request} {locked : Bool} {f : Refusal} :
    r.fate locked = .refused f ↔ r.problem? = none ∧ r.writes = true ∧
      (locked = true ∧ f = .locked ∨
        locked = false ∧ ∃ column, r.missing? = some column ∧ f = .missingValue column) := by
  unfold fate
  cases hp : r.problem? with
  | some e => simp
  | none =>
    cases hm : r.missing? with
    | none => cases hw : r.writes <;> cases locked <;> simp [eq_comm]
    | some column => cases locked <;> simp [writes_of_missing hm, eq_comm]

theorem fate_eq_done {r : Request} {locked : Bool} :
    r.fate locked = .done ↔
      r.problem? = none ∧ (r.writes = true → locked = false) ∧ r.missing? = none := by
  unfold fate
  cases hp : r.problem? with
  | some e => simp
  | none => cases hm : r.missing? <;> cases hw : r.writes <;> cases locked <;> simp

end Request

/-- A connection in good order: it sees what is saved, both tables are there, no statement is out
of date, and it does not hold a database that another connection holds. -/
structure Connection.Sound (s : Store) (c : Connection) : Prop where
  view : c.view = s.saved
  holding : ∃ rows switches, s.saved = .holding rows switches
  expired : c.expired = []
  holdsLock : s.locked = true → c.holdsLock = false

/-- A store in good order: its connection is, and a database that is locked has its tables. -/
structure Sound (s : Store) : Prop where
  locked : s.locked = true → ∃ rows switches, s.saved = .holding rows switches
  connection : ∀ c, s.connection = some c → c.Sound s

theorem sound_fresh : Sound {} := ⟨by simp, by simp⟩

section Runs

variable {s : Store} {c : Connection}

/-- A request that finds no connection fails, and nothing happens. -/
theorem Request.run_notConnected (r : Request) (h : s.connection = none) :
    r.act.run s = (.error .notConnected, s) := by
  obtain ⟨work, hact, -⟩ := r.act_eq
  simp [hact, carryOut, h]

/-- A request with a value that cannot be handed over fails before anything is carried out. -/
theorem Request.run_rejected {r : Request} (hc : s.connection = some c) (h : c.Sound s)
    (hr : r.fate s.locked = .rejected) :
    ∃ problem e c', r.problem? = some problem ∧ c.Tells r.statement problem e ∧ c.Prepares c' ∧
      r.act.run s = (.error e, { s with connection := some c' }) := by
  obtain ⟨work, hact, -⟩ := r.act_eq
  obtain ⟨rows, switches, ht⟩ := h.holding
  have hv : c.view = .holding rows switches := h.view.trans ht
  have hsome : (c.ready r.statement r.parameters).1.isSome := by
    rw [c.isSome_ready hv]
    exact fate_eq_rejected.mp hr
  obtain ⟨e, he⟩ := Option.isSome_iff_exists.mp hsome
  obtain ⟨problem, hproblem, htells⟩ := c.ready_tells hv he
  refine ⟨problem, e, _, hproblem, htells, c.prepares_ready hv r.statement r.parameters, ?_⟩
  simp [hact, carryOut, hc, he]

/-- The values of any other request are handed over. -/
private theorem Request.ready_of_fate {r : Request} (h : c.Sound s)
    (hr : r.fate s.locked ≠ .rejected) : (c.ready r.statement r.parameters).1 = none := by
  obtain ⟨rows, switches, ht⟩ := h.holding
  have hnot := mt fate_eq_rejected.mpr hr
  rw [← Option.not_isSome_iff_eq_none, c.isSome_ready (h.view.trans ht)]
  exact hnot

/-- A request that the database refuses leaves what is saved as it is.  The refusal is remembered,
and a write that is refused for a missing value holds the database from then on. -/
theorem Request.run_refused {r : Request} {f : Refusal} (hc : s.connection = some c)
    (h : c.Sound s) (hr : r.fate s.locked = .refused f) :
    ∃ c', c.Prepares c' ∧ r.act.run s = (.error (.writeRefused f), { s with
      connection := some { c' with
        lastRefusal := some f, holdsLock := c.holdsLock || !s.locked } }) := by
  obtain ⟨work, hact, hwork⟩ := r.act_eq
  obtain ⟨rows, switches, ht⟩ := h.holding
  have hv : c.view = .holding rows switches := h.view.trans ht
  have hc' := c.prepares_ready hv r.statement r.parameters
  have hready := ready_of_fate h (by rw [hr]; exact Fate.noConfusion)
  obtain ⟨hp, hw, hf⟩ := fate_eq_refused.mp hr
  refine ⟨(c.ready r.statement r.parameters).2, hc', ?_⟩
  have hst : r.statement.writes = true := hw
  have hexp : (c.ready r.statement r.parameters).2.expired = [] := hc'.expired.trans h.expired
  rcases hf with ⟨hl, rfl⟩ | ⟨hl, column, hm, rfl⟩
  · have hh : (c.ready r.statement r.parameters).2.holdsLock = c.holdsLock := hc'.holdsLock
    simp [hact, carryOut, hc, hready, hst, hexp, hl, Connection.refused, Statement.refused, ← hh]
  · have hwork' : work (c.ready r.statement r.parameters).2.view = .error (.missingValue column) := by
      rw [hc'.view, hv, hwork, hm]
    simp [hact, carryOut, hc, hready, hst, hexp, hl, hwork', Connection.refused, Connection.failed,
      Refusal.isMissingTable, Statement.refused]

/-- A request that is carried out is answered by the tables and changes them.  Nothing that was
refused before is remembered, and a write gives the database up. -/
theorem Request.run_done {r : Request} {rows : List Row} {switches : List (Text × Bool)}
    (hc : s.connection = some c) (h : c.Sound s) (ht : s.saved = .holding rows switches)
    (hr : r.fate s.locked = .done) :
    ∃ c' : Connection, c'.view = .holding (r.rowsAfter rows) (r.switchesAfter switches) ∧
      c'.expired = [] ∧ c'.lastRefusal = none ∧ c'.holdsLock = (!r.writes && c.holdsLock) ∧
      r.act.run s = (.ok (r.reply rows switches), { s with
        saved := .holding (r.rowsAfter rows) (r.switchesAfter switches)
        connection := some c' }) := by
  obtain ⟨work, hact, hwork⟩ := r.act_eq
  have hv : c.view = .holding rows switches := h.view.trans ht
  have hc' := c.prepares_ready hv r.statement r.parameters
  have hready := ready_of_fate h (by rw [hr]; exact Fate.noConfusion)
  obtain ⟨-, hlocked, hm⟩ := fate_eq_done.mp hr
  have hexp : (c.ready r.statement r.parameters).2.expired = [] := hc'.expired.trans h.expired
  have hwork' : work (c.ready r.statement r.parameters).2.view =
      .ok (r.reply rows switches, .holding (r.rowsAfter rows) (r.switchesAfter switches)) := by
    rw [hc'.view, hv, hwork, hm]
  cases hw : r.statement.writes with
  | true =>
    have hl : s.locked = false := hlocked hw
    refine ⟨{ (c.ready r.statement r.parameters).2 with
      view := .holding (r.rowsAfter rows) (r.switchesAfter switches)
      lastRefusal := none, uncommitted := false, holdsLock := false }, rfl, hexp, rfl, ?_, ?_⟩
    · simp [writes, hw]
    · simp [hact, carryOut, hc, hready, hw, hl, hwork', Connection.settled]
  | false =>
    obtain ⟨hrows, hswitches⟩ := tables_of_read hw rows switches
    refine ⟨(c.ready r.statement r.parameters).2.settled, ?_, hexp, rfl, ?_, ?_⟩
    · rw [hrows, hswitches]
      exact hc'.view.trans hv
    · simp [writes, hw, Connection.settled, hc'.holdsLock]
    · simp [hact, carryOut, hc, hready, hw, hwork', hrows, hswitches, ← ht]

end Runs

/-! ## Sequences of operations -/

/-- An operation of the store.  What runs between connecting and closing is the sequence of the
operations in it. -/
inductive Operation
  | connect
  | close
  | ask (r : Request)
  deriving DecidableEq, Repr

namespace Operation

/-- What an operation is answered with. -/
abbrev Answer : Operation → Type
  | .ask r => r.Answer
  | _ => Unit

/-- What an operation does. -/
def act : (o : Operation) → Act o.Answer
  | .connect => Store.connect
  | .close => Store.close
  | .ask r => r.act

/-- What an operation is answered with by a store. -/
def answer (o : Operation) (s : Store) : Except Error o.Answer := (o.act.run s).1

end Operation

/-- The store after operations; one that fails does not end them. -/
def after (s : Store) (ops : List Operation) : Store :=
  ops.foldl (fun s o => (o.act.run s).2) s

@[simp] theorem after_nil (s : Store) : s.after [] = s := rfl

@[simp] theorem after_cons (s : Store) (o : Operation) (ops : List Operation) :
    s.after (o :: ops) = Store.after (o.act.run s).2 ops := rfl

theorem after_append (s : Store) (ops ops' : List Operation) :
    s.after (ops ++ ops') = (s.after ops).after ops' := List.foldl_append

/-- Whether the connection of a store holds the database, in vain, because of a write that was
refused. -/
def holds (s : Store) : Bool := s.connection.any (·.holdsLock)

namespace Sound

variable {s : Store}

/-- A database that is held has its tables. -/
theorem created (h : s.Sound) (hl : (s.locked || s.holds) = true) :
    s.saved.createMissing = s.saved := by
  rw [Tables.createMissing_eq_iff]
  rcases Bool.or_eq_true_iff.mp hl with hl | hl
  · exact h.locked hl
  · cases hc : s.connection with
    | none => simp [holds, hc] at hl
    | some c => exact (h.connection c hc).holding

/-- Opening a connection succeeds.  It finds the database locked if the connection before it holds
it. -/
theorem run_connect (h : s.Sound) : connect.run s = (.ok (), {
    saved := s.saved.createMissing
    connection := some { view := s.saved.createMissing }
    locked := s.locked || s.holds }) := by
  have hopens : ((s.locked || s.holds) && decide (s.saved.createMissing ≠ s.saved)) = false := by
    cases hl : s.locked || s.holds with
    | false => rfl
    | true => simp [h.created hl]
  show Act.run (if _ then _ else _) s = _
  rw [if_neg (by simpa [holds] using hopens)]
  rfl

theorem connected (s : Store) : Sound {
    saved := s.saved.createMissing
    connection := some { view := s.saved.createMissing }
    locked := s.locked || s.holds } := by
  have hholding := (Tables.createMissing_eq_iff s.saved.createMissing).mp (by cases s.saved; rfl)
  refine ⟨fun _ => hholding, fun c hc => ?_⟩
  obtain rfl := Option.some.inj hc
  exact ⟨rfl, hholding, rfl, fun _ => rfl⟩

/-- A connection that prepares a statement, and remembers what it has refused, stays in good
order. -/
theorem withConnection (h : s.Sound) {c : Connection} (hc : c.Sound s) :
    Sound { s with connection := some c } := by
  refine ⟨h.locked, fun c' hc' => ?_⟩
  obtain rfl := Option.some.inj hc'
  exact ⟨hc.view, hc.holding, hc.expired, hc.holdsLock⟩

/-- Every operation keeps the store in good order. -/
theorem step (h : s.Sound) (o : Operation) : Sound (o.act.run s).2 := by
  cases o with
  | connect =>
    rw [show (Operation.connect.act.run s) = _ from h.run_connect]
    exact connected s
  | close => exact ⟨h.locked, by simp [Operation.act]⟩
  | ask r =>
    show Sound (r.act.run s).2
    cases hc : s.connection with
    | none => rwa [r.run_notConnected hc]
    | some c =>
      have hs := h.connection c hc
      cases hr : r.fate s.locked with
      | rejected =>
        obtain ⟨-, e, c', -, -, hp, hrun⟩ := Request.run_rejected hc hs hr
        rw [hrun]
        exact h.withConnection ⟨hp.view.trans hs.view, hs.holding, hp.expired.trans hs.expired,
          fun hl => hp.holdsLock.trans (hs.holdsLock hl)⟩
      | refused f =>
        obtain ⟨c', hp, hrun⟩ := Request.run_refused hc hs hr
        rw [hrun]
        exact h.withConnection ⟨hp.view.trans hs.view, hs.holding, hp.expired.trans hs.expired,
          fun hl => by simp [hs.holdsLock hl, hl]⟩
      | done =>
        obtain ⟨rows, switches, ht⟩ := hs.holding
        obtain ⟨c', hview, hexp, -, hholds, hrun⟩ := Request.run_done hc hs ht hr
        rw [hrun]
        refine ⟨fun _ => ⟨_, _, rfl⟩, fun c'' hc'' => ?_⟩
        obtain rfl := Option.some.inj hc''
        exact ⟨hview, ⟨_, _, rfl⟩, hexp, fun hl => by simp [hholds, hs.holdsLock hl]⟩

/-- Operations keep the store in good order. -/
theorem after (h : s.Sound) (ops : List Operation) : Sound (s.after ops) := by
  induction ops generalizing s with
  | nil => exact h
  | cons o ops ih => exact ih (h.step o)

end Sound

end MailSchedule.Store
