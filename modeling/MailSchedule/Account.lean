import MailSchedule.Text.Basic

/-!
# Accounts

An account as the account store describes it.  Rows without an address or without credentials are
leftovers of a failed setup and not live accounts.
-/

namespace MailSchedule

/-- A row of the account store. -/
structure Account where
  id : Int
  email : Text
  receiveRef : Option Int := none
  sendRef : Option Int := none
  /-- Minutes between checks; negative for never. -/
  interval : Int := -1
  flags : Int := 0
  protocol : Text := "imap"
  deriving DecidableEq, Repr

namespace Account

/-- The interval of an account that is never checked. -/
def neverInterval : Int := -1

/-- The flag of accounts whose new mail is announced. -/
def notifyFlag : Int := 1

/-- Whether a reference names a credential. -/
def hasCredential : Option Int → Bool
  | some ref => 0 < ref
  | none => false

/-- Whether a row is a live account. -/
def isWellFormed (a : Account) : Bool :=
  !a.email.isEmpty && hasCredential a.receiveRef && hasCredential a.sendRef

/-- Whether flags say that new mail is announced: it is their lowest bit. -/
def notifies (flags : Int) : Bool := flags % 2 = 1

/-- Whether new mail of the account is announced. -/
def notify (a : Account) : Bool := notifies a.flags

/-- An account as it is handed on: required values may be missing. -/
structure Draft where
  id : Int
  email : Option Text
  receiveRef : Option Int := none
  sendRef : Option Int := none
  interval : Option Int := some (-1)
  flags : Option Int := some 0
  protocol : Option Text := some "imap"
  deriving DecidableEq, Repr

/-- The draft of an account that lacks nothing. -/
def draft (a : Account) : Draft where
  id := a.id
  email := some a.email
  receiveRef := a.receiveRef
  sendRef := a.sendRef
  interval := some a.interval
  flags := some a.flags
  protocol := some a.protocol

/-- Whether a draft describes a live account. -/
def Draft.isWellFormed (d : Draft) : Bool :=
  d.email.any (!·.isEmpty) && hasCredential d.receiveRef && hasCredential d.sendRef

end Account

end MailSchedule
