import Retention.Time.Instant

/-!
Ages in whole days. A strict age counts calendar days: it runs from the start of the UTC day of
creation to the end of the current UTC day. The other age counts full periods of 24 hours. An age is
never negative.
-/
namespace Retention

inductive Age
  | unknown
  | days (count : Nat)
deriving DecidableEq, Repr

namespace Age

def text : Age → String
  | .unknown => "N/A"
  | .days count => toString count

/-- Nanoseconds between the two instants, stretched to whole UTC days if the boundary is strict. -/
def elapsed (strict : Bool) (created now : Instant) : Int :=
  if strict then
    (now.utcDay + 1) * Instant.nanosPerDay - 1 - created.utcDay * Instant.nanosPerDay
  else now.unixNanos - created.unixNanos

def wholeDays (strict : Bool) (created now : Instant) : Nat :=
  (Int.tdiv (elapsed strict created now) Instant.nanosPerDay).toNat

def since (strict : Bool) (now : Instant) : Option Instant → Age
  | none => .unknown
  | some created => .days (wholeDays strict created now)

/-- An age is defined where both instants have a UTC date. Without a creation time nothing is asked
of the clock. -/
def isDefined (now : Instant) : Option Instant → Bool
  | none => true
  | some created => now.hasUtcDate && created.hasUtcDate

end Age
end Retention
