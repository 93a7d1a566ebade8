import Retention.Time.Calendar

/-!
Instants as they are written: a local date and time of day, and the offset from UTC in whole minutes.
Two instants that denote the same moment may differ in their offsets; `unixNanos` is the moment.
-/
namespace Retention

structure Clock where
  hour : Nat
  minute : Nat
  second : Nat
  nano : Nat
  hour_lt : hour < 24
  minute_lt : minute < 60
  second_lt : second < 60
  nano_lt : nano < 1000000000
deriving DecidableEq, Repr

namespace Clock

def of? (hour minute second nano : Nat) : Option Clock :=
  if hours : hour < 24 then
    if minutes : minute < 60 then
      if seconds : second < 60 then
        if nanos : nano < 1000000000 then
          some ⟨hour, minute, second, nano, hours, minutes, seconds, nanos⟩
        else none
      else none
    else none
  else none

def secondOfDay (clock : Clock) : Nat := clock.hour * 3600 + clock.minute * 60 + clock.second

end Clock

structure Instant where
  date : Date
  clock : Clock
  /-- Minutes east of UTC. -/
  offset : Int
  offset_bounds : -1440 < offset ∧ offset < 1440
deriving DecidableEq, Repr

namespace Instant

def secondsPerDay : Int := 86400

def nanosPerSecond : Int := 1000000000

def nanosPerDay : Int := secondsPerDay * nanosPerSecond

theorem zero_offset_bounds : -1440 < (0 : Int) ∧ (0 : Int) < 1440 := by decide

def utc (date : Date) (clock : Clock) : Instant := ⟨date, clock, 0, zero_offset_bounds⟩

def unixSeconds (instant : Instant) : Int :=
  instant.date.number * secondsPerDay + instant.clock.secondOfDay - instant.offset * 60

def unixNanos (instant : Instant) : Int :=
  instant.unixSeconds * nanosPerSecond + instant.clock.nano

/-- The number of the UTC day that holds the instant. -/
def utcDay (instant : Instant) : Int := instant.unixSeconds / secondsPerDay

/-- The UTC date has a year of at most four digits. -/
def hasUtcDate (instant : Instant) : Bool :=
  Date.first ≤ instant.utcDay && instant.utcDay ≤ Date.last

/-- The instant, in UTC, so many seconds and nanoseconds after the start of 1970. -/
def ofUnix? (seconds : Int) (nano : Nat) : Option Instant := do
  let date ← Date.ofNumber? (seconds / secondsPerDay)
  let second := (seconds % secondsPerDay).toNat
  let clock ← Clock.of? (second / 3600) (second / 60 % 60) (second % 60) nano
  some (utc date clock)

end Instant
end Retention
