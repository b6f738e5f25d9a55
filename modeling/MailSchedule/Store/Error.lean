import MailSchedule.Text.Octets

/-!
# Failures of the account store
-/

namespace MailSchedule.Store

/-- The tables of the store. -/
inductive Table
  | accounts
  | syncSettings
  deriving DecidableEq, Repr

/-- The name of a table. -/
def Table.name : Table → String
  | .accounts => "accounts"
  | .syncSettings => "sync_settings"

/-- Columns that must have a value, in the order in which they are checked. -/
inductive Column
  | email
  | interval
  | flags
  | protocol
  deriving DecidableEq, Repr

/-- The name of a column. -/
def Column.name : Column → String
  | .email => "email_address"
  | .interval => "sync_interval_minutes"
  | .flags => "flags"
  | .protocol => "protocol"

/-- Why the database refuses a statement. -/
inductive Refusal
  | noSuchTable (name : String)
  | missingValue (column : Column)
  /-- Another connection holds the database for writing. -/
  | locked
  /-- A value is of a kind that the database does not know: an empty list. -/
  | unsupportedValue (position : Nat)
  deriving DecidableEq, Repr

/-- The words for a refusal. -/
def Refusal.words : Refusal → String
  | .noSuchTable name => "no such table: " ++ name
  | .missingValue column => "NOT NULL constraint failed: accounts." ++ column.name
  | .locked => "database is locked"
  | .unsupportedValue position =>
    "Error binding parameter " ++ toString position ++ ": type 'list' is not supported"

/-- Whether a table is missing. -/
def Refusal.isMissingTable : Refusal → Bool
  | .noSuchTable _ => true
  | _ => false

/-- Why an operation of the store fails. -/
inductive Error
  /-- The store is not connected. -/
  | notConnected
  /-- An integer does not fit into 64 bits. -/
  | integerTooLarge
  /-- A text has a lone surrogate. -/
  | unencodable (reason : Text.Unencodable)
  /-- A read was refused. -/
  | readRefused (refusal : Refusal)
  /-- A write was refused. -/
  | writeRefused (refusal : Refusal)
  /-- A command given to the database itself was refused. -/
  | commandRefused (refusal : Refusal)
  deriving DecidableEq, Repr

/-- The message of a failure. -/
def Error.message : Error → String
  | .notConnected => "Database not connected. Call connect() first."
  | .integerTooLarge => "Python int too large to convert to SQLite INTEGER"
  | .unencodable u => u.message
  | .readRefused r => "Account store query failed: " ++ r.words
  | .writeRefused r => "Account store write failed: " ++ r.words
  | .commandRefused r => r.words

/-- Refused reads and writes are reported in the log as well. -/
def Error.isLogged : Error → Bool
  | .readRefused _ => true
  | .writeRefused _ => true
  | _ => false

end MailSchedule.Store
