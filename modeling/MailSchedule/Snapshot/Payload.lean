import MailSchedule.Fault
import MailSchedule.Json.Printer
import MailSchedule.Snapshot.Basic
import MailSchedule.Text.Utf8

/-!
# Wake payloads

The written form of a snapshot: a compact JSON object in UTF-8 with the members `account`,
`accounts` and `watchdog`, for instance

    {"account":12,"accounts":[[12,360000],[14,0]],"watchdog":false}

The account `-1` stands for none.  Reading accepts any JSON object: members may be missing, and
members with other names are ignored.  An integer with more than `Json.maxDigits` digits is neither
written nor read.

Results:

* `Snapshot.payload`: the payload of a snapshot, or why it cannot be written.
* `Snapshot.decode`: the snapshot of a payload, or why there is none.
* `payloadOfText`, `payloadOfHex`: payloads that are given in other forms.
-/

namespace MailSchedule.Snapshot

open MailSchedule.Json (Value)

/-- The account number that stands for no account. -/
def noAccount : Int := -1

/-! ## Writing -/

/-- A pair of integers as a JSON array. -/
def pairValue (p : Int × Int) : Value := .array [.int p.1, .int p.2]

/-- The document of a snapshot. -/
def document (s : Snapshot) : Value :=
  .object [
    ("account", .int (s.account.getD noAccount)),
    ("accounts", .array (s.prevSyncTimes.map pairValue)),
    ("watchdog", .bool s.watchdog)]

/-- The octets of the document of a snapshot, however many digits its integers have. -/
def encode (s : Snapshot) : Payload := Text.Utf8.encodeAscii s.document.compact

/-- A snapshot none of whose integers has too many digits. -/
structure Readable (s : Snapshot) : Prop where
  account : ∀ id ∈ s.account, Json.Readable id
  pairs : ∀ p ∈ s.prevSyncTimes, Json.Readable p.1 ∧ Json.Readable p.2

instance (s : Snapshot) : Decidable s.Readable :=
  decidable_of_iff ((∀ id ∈ s.account, Json.Readable id) ∧
    ∀ p ∈ s.prevSyncTimes, Json.Readable p.1 ∧ Json.Readable p.2)
    ⟨fun h => ⟨h.1, h.2⟩, fun h => ⟨h.account, h.pairs⟩⟩

/-- The fault of an integer that has too many digits to be written. -/
def tooLong : Fault := ⟨.other "ValueError",
  "Exceeds the limit (" ++ toString Json.maxDigits ++
    " digits) for integer string conversion; use sys.set_int_max_str_digits() to increase the limit"⟩

/-- The payload of a snapshot, unless one of its integers has too many digits. -/
def payload (s : Snapshot) : Except Fault Payload :=
  if s.Readable then .ok s.encode else .error tooLong

theorem payload_of_readable {s : Snapshot} (h : s.Readable) : s.payload = .ok s.encode := if_pos h

theorem payload_of_not_readable {s : Snapshot} (h : ¬ s.Readable) : s.payload = .error tooLong :=
  if_neg h

/-! ## Octets -/

/-- The payload of a text in UTF-8. -/
def payloadOfText (t : Text) : Except Fault Payload := t.octets.mapError .ofUnencodable

/-- The payload that hexadecimal digits denote.  What is not ASCII is told first. -/
def payloadOfHex (t : Text) : Except Fault Payload :=
  let place := t.takeWhile (· < 128)
  let octets :=
    if place.length < t.length then .error place.length
    else Text.readHex 0 (t.map Char.ofNat)
  octets.mapError fun n =>
    ⟨.other "ValueError",
      "non-hexadecimal number found in fromhex() arg at position " ++ toString n⟩

/-! ## Reading -/

/-- Why a payload is no snapshot. -/
inductive DecodeError
  /-- The octets are not text. -/
  | notText (fault : Text.Utf8.Fault)
  /-- The text is not a document. -/
  | notDocument (error : Json.DocumentError)
  /-- The document is not an object. -/
  | notObject
  /-- The account is not an integer. -/
  | invalidAccount (v : Value)
  /-- An entry of the accounts is not a pair of integers. -/
  | invalidEntry (v : Value)
  /-- The accounts are a value that has no entries. -/
  | noEntries (v : Value)
  deriving Repr

/-- The fault that an unreadable payload amounts to.  An integer with too many digits and accounts
without entries are not among the kinds that the poller expects. -/
def DecodeError.fault : DecodeError → Fault
  | .notText f => ⟨.payload, "Invalid wake payload: " ++ f.message⟩
  | .notDocument (.longInteger digits) =>
    ⟨.other "ValueError", (Json.DocumentError.longInteger digits).message⟩
  | .notDocument e => ⟨.payload, "Invalid wake payload: " ++ e.message⟩
  | .notObject => ⟨.payload, "Wake payload must be a JSON object"⟩
  | .invalidAccount v => ⟨.payload, "Invalid account id in wake payload: " ++ v.text⟩
  | .invalidEntry v => ⟨.payload, "Invalid account entry in wake payload: " ++ v.text⟩
  | .noEntries v => ⟨.other "TypeError", v.noEntries⟩

/-- The document that octets hold. -/
def readPayload (p : Payload) : Except DecodeError Value := do
  let text ← (Text.Utf8.decode p).mapError .notText
  (Json.readDocument text).mapError .notDocument

/-- The entries of the accounts.  A value that does not count as true has none; a string is a list
of its characters and an object one of its names. -/
def entries (v : Value) : Except DecodeError (List Value) :=
  if v.holds then
    match v with
    | .array vs => .ok vs
    | .string cs => .ok (cs.map fun c => .string [c])
    | .object ms => .ok (ms.map fun m => .string m.1)
    | v => .error (.noEntries v)
  else .ok []

/-- One entry of the accounts: a pair of integers. -/
def readEntry : Value → Except DecodeError (Int × Int)
  | .array [.int id, .int prev] => .ok (id, prev)
  | v => .error (.invalidEntry v)

/-- The account of a snapshot. -/
def readAccount : Value → Except DecodeError (Option Int)
  | .int i => .ok (if i = noAccount then none else some i)
  | v => .error (.invalidAccount v)

/-- The snapshot of a document. -/
def ofDocument : Value → Except DecodeError Snapshot
  | .object ms => do
    let account ← readAccount ((Value.member? "account" ms).getD (.int noAccount))
    let listed ← entries ((Value.member? "accounts" ms).getD .null)
    let pairs ← listed.mapM readEntry
    return {
      account
      prevSyncTimes := pairs
      watchdog := ((Value.member? "watchdog" ms).getD (.bool false)).holds }
  | _ => .error .notObject

/-- The snapshot of a payload.  A missing or empty payload is the bare snapshot. -/
def decode : Option Payload → Except DecodeError Snapshot
  | none => .ok {}
  | some [] => .ok {}
  | some p => do ofDocument (← readPayload p)

end MailSchedule.Snapshot
