import MailSchedule.Json.Printer
import MailSchedule.Store.Basic

/-!
# The saved form of the account store

The tables of the store as one JSON document: an object with an array of rows for each table, or
`null` for a table that is missing.

Results:

* `Tables.document`, `Tables.ofDocument?`: the document of tables, and the tables of a document.
* `Tables.text`, `Tables.ofText?`: the same with the document written out.
* `Tables.ofDocument?_document`: a document has all that the tables hold.
-/

namespace MailSchedule.Store

open MailSchedule.Json (Value)

/-! ## Parts -/

/-- A reference to a credential as a value. -/
def refValue : Option Int → Value
  | some i => .int i
  | none => .null

/-- The reference of a value. -/
def refOf? : Value → Option (Option Int)
  | .int i => some (some i)
  | .null => some none
  | _ => none

/-- A row of the table of accounts as a value. -/
def Row.value (r : Row) : Value := .array [
  .int r.account.id, .string r.account.email, refValue r.account.receiveRef,
  refValue r.account.sendRef, .int r.account.interval, .int r.account.flags,
  .string r.account.protocol, .int r.count]

/-- The row of a value. -/
def Row.ofValue? : Value → Option Row
  | .array [.int id, .string email, receiveRef, sendRef, .int interval, .int flags,
      .string protocol, .int count] => do
    let receiveRef ← refOf? receiveRef
    let sendRef ← refOf? sendRef
    return { account := { id, email, receiveRef, sendRef, interval, flags, protocol }, count }
  | _ => none

/-- A switch for an address as a value. -/
def switchValue (s : Text × Bool) : Value := .array [.string s.1, .bool s.2]

/-- The switch of a value. -/
def switchOf? : Value → Option (Text × Bool)
  | .array [.string email, .bool on] => some (email, on)
  | _ => none

/-- A table as a value. -/
def tableValue {α : Type} (item : α → Value) : Option (List α) → Value
  | some rows => .array (rows.map item)
  | none => .null

/-- The rows of values. -/
def rowsOf? {α : Type} (item : Value → Option α) : List Value → Option (List α)
  | [] => some []
  | v :: vs => do return (← item v) :: (← rowsOf? item vs)

/-- The table of a value. -/
def tableOf? {α : Type} (item : Value → Option α) : Value → Option (Option (List α))
  | .array vs => do return some (← rowsOf? item vs)
  | .null => some none
  | _ => none

/-! ## Documents -/

/-- The document of tables. -/
def Tables.document (t : Tables) : Value := .object [
  (Table.accounts.name, tableValue Row.value t.accounts),
  (Table.syncSettings.name, tableValue switchValue t.syncSettings)]

/-- The tables of a document. -/
def Tables.ofDocument? : Value → Option Tables
  | .object ms => do
    let accounts ← tableOf? Row.ofValue? (← Value.member? Table.accounts.name ms)
    let syncSettings ← tableOf? switchOf? (← Value.member? Table.syncSettings.name ms)
    return { accounts, syncSettings }
  | _ => none

/-- The written document of tables. -/
def Tables.text (t : Tables) : String := String.ofList t.document.compact

/-- The tables of a written document. -/
def Tables.ofText? (s : String) : Option Tables :=
  match Json.readDocument s.toList with
  | .ok v => Tables.ofDocument? v
  | .error _ => none

/-! ## What is saved can be read -/

@[simp]
theorem refOf?_refValue (ref : Option Int) : refOf? (refValue ref) = some ref := by
  cases ref <;> rfl

@[simp]
theorem Row.ofValue?_value (r : Row) : Row.ofValue? r.value = some r := by
  simp [Row.ofValue?, Row.value]

@[simp]
theorem switchOf?_switchValue (s : Text × Bool) : switchOf? (switchValue s) = some s := rfl

theorem rowsOf?_map {α : Type} (read : Value → Option α) (write : α → Value)
    (h : ∀ a, read (write a) = some a) (rows : List α) :
    rowsOf? read (rows.map write) = some rows := by
  induction rows with
  | nil => rfl
  | cons a rows ih => simp [rowsOf?, h, ih]

theorem tableOf?_tableValue {α : Type} (read : Value → Option α) (write : α → Value)
    (h : ∀ a, read (write a) = some a) (rows : Option (List α)) :
    tableOf? read (tableValue write rows) = some rows := by
  cases rows with
  | none => rfl
  | some rows => simp [tableOf?, tableValue, rowsOf?_map read write h]

theorem Tables.ofDocument?_document (t : Tables) : Tables.ofDocument? t.document = some t := by
  have hne : Text.ofString Table.accounts.name ≠ Text.ofString Table.syncSettings.name := by
    decide
  simp [Tables.ofDocument?, Tables.document, Value.member?, hne,
    tableOf?_tableValue Row.ofValue? Row.value Row.ofValue?_value,
    tableOf?_tableValue switchOf? switchValue switchOf?_switchValue]

end MailSchedule.Store
