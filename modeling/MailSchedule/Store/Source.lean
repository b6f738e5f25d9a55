import MailSchedule.Store.Basic
import MailSchedule.System

/-!
# The store as a source of accounts
-/

namespace MailSchedule.Store

/-- The fault that a failure of the store amounts to.  Only refused reads and writes are of a kind
that the poller expects. -/
def Error.fault (e : Error) : Fault :=
  match e with
  | .notConnected => ⟨.other "RuntimeError", e.message⟩
  | .integerTooLarge => ⟨.other "OverflowError", e.message⟩
  | .unencodable u => .ofUnencodable u
  | .readRefused _ => ⟨.store, e.message⟩
  | .writeRefused _ => ⟨.store, e.message⟩
  | .commandRefused _ => ⟨.other "OperationalError", e.message⟩

/-- An operation as the answer of a collaborator. -/
def Act.reply {α : Type} (act : Act α) : Reply Store α := fun s =>
  let (result, s) := act.run s
  (result.mapError Error.fault, s)

/-- The store as a source of accounts. -/
def source : AccountSource Store where
  list := Act.reply ((·.map Account.draft) <$> list)
  get id := Act.reply ((·.map Account.draft) <$> get id)
  isSyncEnabled email := (isSyncEnabled email).reply
  count id := (count id).reply
  resetCount target := (resetCount target).reply
  idsWithProtocol protocol := (idsWithProtocol protocol).reply

end MailSchedule.Store
