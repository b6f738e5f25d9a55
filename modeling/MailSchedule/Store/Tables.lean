import MailSchedule.Account
import MailSchedule.Store.Error

/-!
# Tables of the account store

The store is a database of two tables: the configured accounts, each with its persisted count of
unseen messages, and a switch for automatic checks by address.

Results:

* `Tables`: what the tables hold.
* `complete`: the account of a draft that lacks nothing.
* `row?`, `putRow`, `setCounts`, `putSwitch`: reading and changing rows.
-/

namespace MailSchedule.Store

/-- The account of a draft, or the first required value that is missing. -/
def complete (d : Account.Draft) : Except Column Account :=
  match d.email, d.interval, d.flags, d.protocol with
  | none, _, _, _ => .error .email
  | _, none, _, _ => .error .interval
  | _, _, none, _ => .error .flags
  | _, _, _, none => .error .protocol
  | some email, some interval, some flags, some protocol =>
    .ok { id := d.id, email, receiveRef := d.receiveRef, sendRef := d.sendRef
          interval, flags, protocol }

/-- A row of the table of accounts. -/
structure Row where
  account : Account
  count : Int := 0
  deriving DecidableEq, Repr

/-- What the tables hold; a table may be missing.  Rows are in increasing order of their numbers. -/
structure Tables where
  accounts : Option (List Row) := none
  syncSettings : Option (List (Text × Bool)) := none
  deriving DecidableEq, Repr

namespace Tables

/-- Creates the tables that are missing. -/
def createMissing (t : Tables) : Tables :=
  { accounts := some (t.accounts.getD []), syncSettings := some (t.syncSettings.getD []) }

/-- The names of the tables, sorted. -/
def names (t : Tables) : List String :=
  (if t.accounts.isSome then [Table.accounts.name] else []) ++
    (if t.syncSettings.isSome then [Table.syncSettings.name] else [])

/-- Whether a table exists. -/
def has (t : Tables) : Table → Bool
  | .accounts => t.accounts.isSome
  | .syncSettings => t.syncSettings.isSome

/-- Removes a table with all it holds. -/
def drop (t : Tables) : Table → Tables
  | .accounts => { t with accounts := none }
  | .syncSettings => { t with syncSettings := none }

/-- The rows of the table of accounts, unless it is missing. -/
def rows (t : Tables) : Except Refusal (List Row) :=
  match t.accounts with
  | some rows => .ok rows
  | none => .error (.noSuchTable Table.accounts.name)

/-- The switches by address, unless their table is missing. -/
def switches (t : Tables) : Except Refusal (List (Text × Bool)) :=
  match t.syncSettings with
  | some switches => .ok switches
  | none => .error (.noSuchTable Table.syncSettings.name)

end Tables

/-! ## Rows -/

/-- The row with a number. -/
def row? (rows : List Row) (id : Int) : Option Row := rows.find? fun r => r.account.id = id

/-- Puts an account among the rows: a row with its number keeps its count. -/
def putRow (a : Account) : List Row → List Row
  | [] => [{ account := a }]
  | r :: rest =>
    if r.account.id = a.id then { r with account := a } :: rest
    else if a.id < r.account.id then { account := a } :: r :: rest
    else r :: putRow a rest

/-- Sets the count of the rows that a target covers: one number, or all. -/
def setCounts (target : Option Int) (count : Int) (rows : List Row) : List Row :=
  rows.map fun r =>
    match target with
    | none => { r with count := count }
    | some id => if r.account.id = id then { r with count := count } else r

/-- Puts the switch of an address. -/
def putSwitch (email : Text) (on : Bool) : List (Text × Bool) → List (Text × Bool)
  | [] => [(email, on)]
  | s :: rest => if s.1 = email then (email, on) :: rest else s :: putSwitch email on rest

end MailSchedule.Store
