/-!
Points in time, to the nanosecond.
-/

namespace ChatMemory

/-- A point in time. A leap second repeats the second before it, with a billion nanoseconds and
more. -/
structure Instant where
  /-- Seconds since the beginning of 1970 in UTC. -/
  seconds : Int
  nanoseconds : Nat
  deriving Repr, DecidableEq

namespace Instant

def isBefore (first second : Instant) : Bool :=
  decide (first.seconds < second.seconds) ||
    (first.seconds == second.seconds && decide (first.nanoseconds < second.nanoseconds))

def minusSeconds (instant : Instant) (seconds : Int) : Instant :=
  { instant with seconds := instant.seconds - seconds }

end Instant

end ChatMemory
