import MailSchedule.Text.Octets
import MailSchedule.Text.Quoted

/-!
# Faults

A fault is what a collaborator raises, or what an operation of the poller reports when it cannot
answer.  Four kinds are the poller's own and expected while it works; the rest come from elsewhere.
-/

namespace MailSchedule

/-- The kinds of fault. -/
inductive Fault.Kind
  /-- A failure of the poller that has no kind of its own. -/
  | poller
  /-- The account named does not exist any more. -/
  | accountNotFound
  /-- A wake payload cannot be read. -/
  | payload
  /-- The account store cannot read or write. -/
  | store
  /-- A failure from elsewhere, by the name of its kind. -/
  | other (name : String)
  deriving DecidableEq, Repr

/-- The name of a kind of fault. -/
def Fault.Kind.name : Fault.Kind → String
  | .poller => "MailPollerError"
  | .accountNotFound => "AccountNotFoundError"
  | .payload => "SnapshotDecodeError"
  | .store => "StoreError"
  | .other name => name

/-- Other names of kinds from elsewhere. -/
def Fault.Kind.aliases : List (String × String) :=
  [("IOError", "OSError"), ("EnvironmentError", "OSError")]

/-- The kind of fault with a name. -/
def Fault.Kind.ofName (name : String) : Fault.Kind :=
  match [poller, accountNotFound, payload, store].find? fun k => k.name = name with
  | some k => k
  | none => .other ((aliases.lookup name).getD name)

/-- The kind of a fault about a key that is not there. -/
def Fault.Kind.missingKey : Fault.Kind := .other "KeyError"

/-- A fault with what it says about itself. -/
structure Fault where
  kind : Fault.Kind
  detail : Text
  deriving DecidableEq, Repr

/-- The kinds of fault that need more than a message, with what is said when there is no more. -/
def Fault.Kind.demands : List (String × String) := [
  ("UnicodeDecodeError", "function takes exactly 5 arguments (1 given)"),
  ("UnicodeEncodeError", "function takes exactly 5 arguments (1 given)"),
  ("UnicodeTranslateError", "function takes exactly 4 arguments (1 given)"),
  ("ExceptionGroup", "BaseExceptionGroup.__new__() takes exactly 2 arguments (1 given)"),
  ("BaseExceptionGroup", "BaseExceptionGroup.__new__() takes exactly 2 arguments (1 given)")]

/-- The fault of a kind, given by its name, with a message; or why there is none. -/
def Fault.named (name : String) (detail : Text) : Except Fault Fault :=
  match Fault.Kind.demands.lookup name with
  | some problem => .error ⟨.other "TypeError", problem⟩
  | none => .ok ⟨.ofName name, detail⟩

/-- The message of a fault.  A key that is not there is shown between quotes. -/
def Fault.message (f : Fault) : Text :=
  if f.kind = .missingKey then Text.quoted f.detail else f.detail

/-- Whether a fault is of one of the poller's own kinds. -/
def Fault.isOwn (f : Fault) : Bool :=
  match f.kind with
  | .other _ => false
  | _ => true

/-- The fault of a text that has no octets where some are wanted. -/
def Fault.ofUnencodable (u : Text.Unencodable) : Fault := ⟨.other "UnicodeEncodeError", u.message⟩

/-- The fault of a text that is no name of a file or of a variable. -/
def Fault.ofName : Text.NameFault → Fault
  | .unencodable u => .ofUnencodable u
  | .containsZero => ⟨.other "ValueError", "embedded null byte"⟩

/-- The form in which a fault stands inside a message. -/
def Fault.text (f : Fault) : String := f.kind.name ++ "(" ++ Text.quoted f.detail ++ ")"

end MailSchedule
