/-!
# Clock readings

Times are whole milliseconds since a fixed but arbitrary moment.  A reading is at least one,
because zero stands for "never" wherever a time of a check is kept.
-/

namespace MailSchedule.Clock

/-- Nanoseconds in a millisecond. -/
def nanosPerMilli : Int := 1000000

/-- The reading after so many nanoseconds. -/
def reading (nanos : Int) : Int := max (nanos / nanosPerMilli) 1

theorem one_le_reading (nanos : Int) : 1 ≤ reading nanos := Int.le_max_right ..

end MailSchedule.Clock
