/-
# Timers

A timer is set for a number of seconds.  It ends when the clock of the process reaches its end; the
clock shows seconds of 63 bits, and where the end lies beyond them the timer is set for thirty years
instead.  Timers count in milliseconds, and only so far.
-/
namespace EchoBackend

/-- Thirty years, in milliseconds. -/
def Timer.farFuture : Nat := 946080000000

/-- What the timers of a process depend on. -/
structure Timer where
  /-- The seconds that the clock shows when a timer is set. -/
  reading : Nat := 3600
  /-- The longest time that a timer can count, in milliseconds. -/
  longest : Nat := 18446744073709551613
  /-- Thirty years can be counted. -/
  farFuture_le : Timer.farFuture ≤ longest := by decide
  deriving DecidableEq, Repr

namespace Timer

/-- The clock shows fewer seconds than this. -/
def clockLimit : Nat := 9223372036854775808

/-- How many milliseconds a timer takes that is set for so many seconds. -/
def span (timer : Timer) (seconds : UInt64) : Nat :=
  if timer.reading + seconds.toNat < clockLimit then min (1000 * seconds.toNat) timer.longest
  else farFuture

/-- Whether so many seconds count in full: the clock reaches their end, and they can be counted. -/
structure Reaches (timer : Timer) (seconds : UInt64) : Prop where
  clock : timer.reading + seconds.toNat < clockLimit
  count : 1000 * seconds.toNat ≤ timer.longest

/-- Seconds that count in full. -/
theorem span_of_reaches {timer : Timer} {seconds : UInt64} (h : timer.Reaches seconds) :
    timer.span seconds = 1000 * seconds.toNat := by
  rw [span, if_pos h.clock, Nat.min_eq_left h.count]

/-- Seconds whose end the clock does not reach. -/
theorem span_of_beyond {timer : Timer} {seconds : UInt64}
    (h : clockLimit ≤ timer.reading + seconds.toNat) : timer.span seconds = farFuture := by
  rw [span, if_neg (Nat.not_lt.mpr h)]

/-- Seconds whose end the clock reaches but that are too many to be counted. -/
theorem span_of_uncounted {timer : Timer} {seconds : UInt64}
    (hclock : timer.reading + seconds.toNat < clockLimit)
    (hcount : timer.longest < 1000 * seconds.toNat) : timer.span seconds = timer.longest := by
  rw [span, if_pos hclock, Nat.min_eq_right (Nat.le_of_lt hcount)]

/-- As long as the clock reaches their ends, more seconds do not take less time. -/
theorem span_mono {timer : Timer} {seconds greater : UInt64} (hle : seconds ≤ greater)
    (hclock : timer.reading + greater.toNat < clockLimit) :
    timer.span seconds ≤ timer.span greater := by
  have hseconds := UInt64.le_iff_toNat_le.mp hle
  rw [span, span, if_pos hclock, if_pos (by omega)]
  omega

end Timer

end EchoBackend
