import MailSchedule.Store.Connection

/-!
# The account store

What is saved, and a connection through which it is read and written.  Every write is committed at
once.  A connection that is given up without being closed, while it holds the database for writing,
keeps it.

Results:

* `connect`, `close`: the life of a connection.
* `carryOut`: carries out a statement.
* `list`, `get`, `isSyncEnabled`, `count`, `idsWithProtocol`: reading.
* `upsert`, `delete`, `setCount`, `resetCount`, `setSync`: writing.
-/

namespace MailSchedule

/-- The account store: what is saved, and the connection if there is one. -/
structure Store where
  saved : Store.Tables := {}
  connection : Option Store.Connection := none
  /-- Whether a connection that was given up keeps the database from being written. -/
  locked : Bool := false
  deriving DecidableEq, Repr

namespace Store

/-- What an operation of the store does. -/
abbrev Act (α : Type) := ExceptT Error (StateM Store) α

/-- Runs an operation. -/
def Act.run {α : Type} (act : Act α) (s : Store) : Except Error α × Store :=
  StateT.run (ExceptT.run act) s

/-! ## Connections -/

/-- Opens a connection and creates the tables that are missing.  An earlier connection is given up
with its open transaction.  Its lock lasts until that connection is collected, which is out of the
program's hands and never happens here. -/
def connect : Act Unit := do
  let s ← get
  let locked := s.locked || s.connection.any (·.holdsLock)
  let view := s.saved.createMissing
  if locked && view ≠ s.saved then
    set { saved := s.saved, connection := some { view := s.saved }, locked : Store }
    throw (.commandRefused .locked)
  else set { saved := view, connection := some { view }, locked : Store }

/-- Closes the connection; what is not committed is lost. -/
def close : Act Unit := modify fun s => { s with connection := none }

/-- The connection, which every other operation needs. -/
def connected : Act Connection := do
  match (← get).connection with
  | some c => return c
  | none => throw .notConnected

/-- Whether the database cannot be written. -/
def isLocked : Act Bool := return (← get).locked

/-- Goes on with a connection. -/
def setConnection (c : Connection) : Act Unit :=
  modify fun s => { s with connection := some c }

/-! ## Carrying out statements -/

/-- Commits what a connection has written. -/
def commit (c : Connection) : Act Unit :=
  modify fun s =>
    { s with
      saved := c.view
      connection := some { c.settled with uncommitted := false, holdsLock := false } }

/-- Carries out a statement with its parameters: `work` is what it does to the tables that the
connection sees, and a write is committed. -/
def carryOut {α : Type} (st : Statement) (ps : List Parameter)
    (work : Tables → Except Refusal (α × Tables)) : Act α := do
  let (problem, c) := (← connected).ready st ps
  setConnection c
  if let some e := problem then throw e
  if st.writes && !c.expired.contains st && (← isLocked) then
    setConnection (c.refused .locked)
    throw (st.refused .locked)
  match work c.view with
  | .error r => do
    setConnection (c.failed st r)
    throw (st.refused r)
  | .ok (a, view) => do
    if st.writes then commit { c with view } else setConnection c.settled
    return a

/-- Reads from the tables. -/
def read {α : Type} (st : Statement) (ps : List Parameter) (of : Tables → Except Refusal α) :
    Act α :=
  carryOut st ps fun t => (of t).map fun a => (a, t)

/-- Changes the rows of the table of accounts. -/
def change {α : Type} (st : Statement) (ps : List Parameter)
    (work : List Row → Except Refusal (α × List Row)) : Act α :=
  carryOut st ps fun t => do
    let (a, rows) ← work (← t.rows)
    return (a, { t with accounts := some rows })

/-! ## Reading -/

/-- All accounts, in increasing order of their numbers. -/
def list : Act (List Account) := read .list [] fun t => return (← t.rows).map (·.account)

/-- The account with a number. -/
def get (id : Int) : Act (Option Account) :=
  read .get [.integer id] fun t => return (row? (← t.rows) id).map (·.account)

/-- Whether automatic checks are allowed for an address; they are unless switched off. -/
def isSyncEnabled (email : Text) : Act Bool :=
  read .isSyncEnabled [.text email] fun t => return ((← t.switches).lookup email).getD true

/-- The persisted count of an account. -/
def count (id : Int) : Act (Option Int) :=
  read .count [.integer id] fun t => return (row? (← t.rows) id).map (·.count)

/-- The numbers of the accounts with a protocol, in increasing order. -/
def idsWithProtocol (protocol : Text) : Act (List Int) :=
  read .idsWithProtocol [.text protocol] fun t =>
    return ((← t.rows).filter fun r => r.account.protocol = protocol).map (·.account.id)

/-! ## Writing -/

/-- The values of a draft in the order in which they are handed over.  The times of creation and of
the change follow them. -/
def draftParameters (d : Account.Draft) : List Parameter := [
  .integer d.id, .ofText? d.email, .ofInteger? d.receiveRef, .ofInteger? d.sendRef,
  .ofInteger? d.interval, .ofInteger? d.flags, .ofText? d.protocol, .plain, .plain]

/-- Inserts an account, or replaces its configuration and keeps its count. -/
def upsertWith (ps : List Parameter) (d : Account.Draft) : Act Unit :=
  change .upsert ps fun rows =>
    match complete d with
    | .ok a => .ok ((), putRow a rows)
    | .error column => .error (.missingValue column)

/-- Inserts an account, or replaces its configuration and keeps its count. -/
def upsert (d : Account.Draft) : Act Unit := upsertWith (draftParameters d) d

/-- Removes an account.  The answer is whether there was one. -/
def delete (id : Int) : Act Bool :=
  change .delete [.integer id] fun rows =>
    .ok ((row? rows id).isSome, rows.filter fun r => r.account.id ≠ id)

/-- Sets the persisted count of an account, if it exists. -/
def setCount (id count : Int) : Act Unit :=
  change .setCount [.integer count, .plain, .integer id] fun rows =>
    .ok ((), setCounts (some id) count rows)

/-- Sets the persisted count of the account that a parameter names to zero. -/
def resetCountOf (p : Parameter) : Act Unit :=
  change .resetCount [.plain, p] fun rows =>
    match p with
    | .integer id => .ok ((), setCounts (some id) 0 rows)
    | _ => .ok ((), rows)

/-- Sets the persisted count of one account, or of all, to zero. -/
def resetCount : Option Int → Act Unit
  | some id => resetCountOf (.integer id)
  | none => change .resetAllCounts [.plain] fun rows => .ok ((), setCounts none 0 rows)

/-- Switches automatic checks for an address on or off. -/
def setSync (email : Text) (on : Bool) : Act Unit :=
  carryOut .setSync [.text email, .integer (if on then 1 else 0), .plain] fun t =>
    return ((), { t with syncSettings := some (putSwitch email on (← t.switches)) })

/-! ## Bare commands -/

/-- The names of the tables. -/
def tableNames : Act (List String) := do
  let c ← connected
  setConnection c.settled
  return c.view.names

/-- Names of tables are compared without regard to case. -/
def tableNamed? (name : String) : Option Table :=
  [Table.accounts, Table.syncSettings].find? fun t => t.name = name.map Char.toLower

/-- Drops a table.  Outside a transaction this is final at once.  A command that has been used
before asks for the database before it looks for the table. -/
def dropTable (name : String) : Act Unit := do
  let c ← connected
  let table := (tableNamed? name).filter c.view.has
  let asksFirst := c.drops.contains name && !c.expiredDrops.contains name
  let c := if table.isSome then { c.settled with drops := c.drops.insert name } else c
  if (table.isSome || asksFirst) && (← isLocked) then
    setConnection (c.refused .locked)
    throw (.commandRefused .locked)
  match table with
  | none => do
    setConnection (c.failedDrop name)
    throw (.commandRefused (.noSuchTable name))
  | some table => do
    let c := { c with view := c.view.drop table }
    if c.uncommitted then setConnection { c with holdsLock := true } else commit c

end Store

end MailSchedule
