import MailSchedule.Store.Tables

/-!
# Connections to the database

The store works through a connection, by a few statements.  A statement is prepared when it is used
for the first time, and a table that is missing is found out then; a prepared statement finds it out
only when it is carried out.  In between its parameters are handed over, one after the other.  A
prepared statement that has found out so is out of date: it finds it out at once from then on.

A write opens a transaction before its parameters are handed over.  One that fails leaves the
transaction open: nothing has been written then, but what a bare command does afterwards counts only
after the next commit.

The database remembers what it refused last until something else has succeeded, and a parameter that
cannot be handed over is told as that refusal.

Results:

* `Statement`, `Parameter`: what is carried out, and on what.
* `Connection.ready`: everything up to the point where a statement is carried out.
-/

namespace MailSchedule.Store

/-! ## Statements -/

/-- The statements by which the store reads and writes. -/
inductive Statement
  | list
  | get
  | isSyncEnabled
  | count
  | idsWithProtocol
  | upsert
  | delete
  | setCount
  | resetCount
  | resetAllCounts
  | setSync
  deriving DecidableEq, Repr

/-- The table that a statement is about. -/
def Statement.table : Statement → Table
  | .isSyncEnabled => .syncSettings
  | .setSync => .syncSettings
  | _ => .accounts

/-- Whether a statement writes. -/
def Statement.writes : Statement → Bool
  | .list => false
  | .get => false
  | .isSyncEnabled => false
  | .count => false
  | .idsWithProtocol => false
  | _ => true

/-- The failure of a statement that is refused. -/
def Statement.refused (st : Statement) (r : Refusal) : Error :=
  if st.writes then .writeRefused r else .readRefused r

/-! ## Parameters -/

/-- A value that is handed to a statement. -/
inductive Parameter
  | integer (i : Int)
  | text (t : Text)
  /-- A value that is missing, or the time of a change.  It can always be handed over. -/
  | plain
  /-- An empty list.  It cannot be handed over. -/
  | unsupported
  deriving DecidableEq, Repr

/-- The parameter of an integer that may be missing. -/
def Parameter.ofInteger? : Option Int → Parameter
  | some i => .integer i
  | none => .plain

/-- The parameter of a text that may be missing. -/
def Parameter.ofText? : Option Text → Parameter
  | some t => .text t
  | none => .plain

/-- The bound of the integers that the database holds, which have 64 bits. -/
def integerBound : Nat := Nat.pow 2 63

/-- Whether the database holds an integer. -/
def fits (i : Int) : Bool := -(integerBound : Int) ≤ i && i < integerBound

/-- Why a parameter in a position cannot be handed over. -/
def Parameter.problem? (st : Statement) (position : Nat) : Parameter → Option Error
  | .integer i => if fits i then none else some .integerTooLarge
  | .text t =>
    match t.octets with
    | .ok _ => none
    | .error u => some (.unencodable u)
  | .plain => none
  | .unsupported => some (st.refused (.unsupportedValue position))

/-! ## Connections -/

/-- An open connection. -/
structure Connection where
  /-- The tables as the connection sees them. -/
  view : Tables
  /-- Whether a transaction is open. -/
  uncommitted : Bool := false
  /-- Whether a write has been carried out in the open transaction, in vain or not.  The connection
  holds the database then. -/
  holdsLock : Bool := false
  /-- The statements used before. -/
  prepared : List Statement := []
  /-- Those of them that are out of date. -/
  expired : List Statement := []
  /-- The names under which tables have been dropped by bare commands, which are prepared too. -/
  drops : List String := []
  /-- Those of them whose command is out of date. -/
  expiredDrops : List String := []
  /-- What was refused last, unless something has succeeded since. -/
  lastRefusal : Option Refusal := none
  deriving DecidableEq, Repr

namespace Connection

/-- The connection after something has succeeded. -/
def settled (c : Connection) : Connection := { c with lastRefusal := none }

/-- The connection after something was refused. -/
def refused (c : Connection) (r : Refusal) : Connection := { c with lastRefusal := some r }

/-- The connection after a statement that was carried out is refused.  A write takes hold of the
database before that, unless it is out of date. -/
def failed (c : Connection) (st : Statement) (r : Refusal) : Connection :=
  let c := { c.refused r with holdsLock := c.holdsLock || (st.writes && !c.expired.contains st) }
  if r.isMissingTable then { c with expired := c.expired.insert st } else c

/-- The connection after a bare command that is to drop a table has not found it. -/
def failedDrop (c : Connection) (name : String) : Connection :=
  let isFresh := c.drops.contains name && !c.expiredDrops.contains name
  { c.refused (.noSuchTable name) with
    holdsLock := c.holdsLock || (c.uncommitted && isFresh)
    expiredDrops := if isFresh then name :: c.expiredDrops else c.expiredDrops }

/-- Prepares a statement, unless that has been done before.  The answer has what goes wrong. -/
def prepare (c : Connection) (st : Statement) : Option Error × Connection :=
  if c.prepared.contains st then (none, c)
  else if c.view.has st.table then (none, { c.settled with prepared := st :: c.prepared })
  else
    let r := Refusal.noSuchTable st.table.name
    (some (st.refused r), c.refused r)

/-- Opens a transaction before a statement that writes, unless one is open. -/
def openTransaction (c : Connection) (st : Statement) : Connection :=
  if st.writes && !c.uncommitted then { c.settled with uncommitted := true } else c

/-- Hands parameters over, the first one in the given position.  The answer has what goes wrong. -/
def handOver (c : Connection) (st : Statement) (position : Nat) :
    List Parameter → Option Error × Connection
  | [] => (none, c)
  | p :: rest =>
    match p.problem? st position with
    | none => handOver c.settled st (position + 1) rest
    | some e => (some ((c.lastRefusal.map st.refused).getD e), c)

/-- Makes everything ready for a statement to be carried out.  The answer has what goes wrong. -/
def ready (c : Connection) (st : Statement) (ps : List Parameter) : Option Error × Connection :=
  match c.prepare st with
  | (some e, c) => (some e, c)
  | (none, c) => (c.openTransaction st).handOver st 1 ps

end Connection

end MailSchedule.Store
