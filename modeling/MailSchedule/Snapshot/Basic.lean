/-!
# Snapshots

What an armed wake carries so that a poller which has lost its memory can go on: the account the
wake is meant for, and the time of the last check of every account tracked.
-/

namespace MailSchedule

/-- The state carried by an armed wake.  Without an account the wake means whichever is due. -/
structure Snapshot where
  account : Option Int := none
  prevSyncTimes : List (Int × Int) := []
  /-- The wake is the watchdog of a check that may never report its end. -/
  watchdog : Bool := false
  deriving DecidableEq, Repr, Inhabited

/-- The octets that a wake timer keeps for its owner. -/
abbrev Payload := List UInt8

end MailSchedule
