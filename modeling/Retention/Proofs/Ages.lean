import Retention.Proofs.Calendar
import Retention.Time.Age
import Retention.Time.Timestamp

/-!
Ages in terms of moments. A calendar age is the difference of two day numbers, the other age counts full
days between two moments. Both grow with the moment at which they are taken, day by day, and they are never
more than one day apart.
-/
namespace Retention

/-- The first nanosecond of a day. -/
def Clock.midnight : Clock := (Clock.of? 0 0 0 0).get (by decide)

/-- The last nanosecond of a day. -/
def Clock.endOfDay : Clock := (Clock.of? 23 59 59 999999999).get (by decide)

theorem Clock.midnight_eq : midnight.secondOfDay = 0 ∧ midnight.nano = 0 := by decide

theorem Clock.endOfDay_eq : endOfDay.secondOfDay = 86399 ∧ endOfDay.nano = 999999999 := by decide

theorem Clock.secondOfDay_lt (clock : Clock) : clock.secondOfDay < 86400 := by
  have hours := clock.hour_lt
  have minutes := clock.minute_lt
  have seconds := clock.second_lt
  unfold secondOfDay
  omega

theorem Clock.exists_secondOfDay {second nano : Nat} (seconds : second < 86400)
    (nanos : nano < 1000000000) :
    ∃ clock : Clock, clock.secondOfDay = second ∧ clock.nano = nano := by
  refine ⟨⟨second / 3600, second / 60 % 60, second % 60, nano, ?_, ?_, ?_, nanos⟩, ?_, rfl⟩
  · omega
  · omega
  · omega
  · simp only [secondOfDay]
    omega

namespace Instant

theorem nanosPerDay_eq : nanosPerDay = 86400000000000 := rfl

theorem utcDay_eq (instant : Instant) : instant.utcDay = instant.unixNanos / nanosPerDay := by
  have bound := instant.clock.nano_lt
  simp only [utcDay, unixNanos, nanosPerDay, secondsPerDay, nanosPerSecond]
  omega

theorem utcDay_mono {earlier later : Instant} (order : earlier.unixNanos ≤ later.unixNanos) :
    earlier.utcDay ≤ later.utcDay := by
  rw [utcDay_eq, utcDay_eq]
  exact Int.ediv_le_ediv (by decide) order

/-- In UTC the moment is a time of day on the date. -/
def FallsOn (instant : Instant) (date : Date) : Prop :=
  ∃ clock, (utc date clock).unixNanos = instant.unixNanos

theorem unixSeconds_utc (date : Date) (clock : Clock) :
    (utc date clock).unixSeconds = date.number * secondsPerDay + clock.secondOfDay := by
  simp [unixSeconds, utc]

theorem unixNanos_utc (date : Date) (clock : Clock) : (utc date clock).unixNanos =
    (date.number * secondsPerDay + clock.secondOfDay) * nanosPerSecond + clock.nano := by
  rw [unixNanos, unixSeconds_utc, utc]

theorem utcDay_utc (date : Date) (clock : Clock) : (utc date clock).utcDay = date.number := by
  have bound := clock.secondOfDay_lt
  rw [utcDay, unixSeconds_utc, secondsPerDay]
  omega

theorem fallsOn_iff {instant : Instant} {date : Date} :
    instant.FallsOn date ↔ date.number = instant.utcDay := by
  constructor
  · rintro ⟨clock, same⟩
    rw [utcDay_eq, ← same, ← utcDay_eq, utcDay_utc]
  · intro same
    have bounds : 0 ≤ instant.unixSeconds % secondsPerDay ∧
        instant.unixSeconds % secondsPerDay < 86400 :=
      ⟨Int.emod_nonneg _ (by decide), Int.emod_lt_of_pos _ (by decide)⟩
    obtain ⟨clock, second, nano⟩ :=
      Clock.exists_secondOfDay ((Int.toNat_lt bounds.1).mpr bounds.2) instant.clock.nano_lt
    have seconds : (utc date clock).unixSeconds = instant.unixSeconds := by
      rw [unixSeconds_utc, second, Int.toNat_of_nonneg bounds.1, same, utcDay, Int.ediv_mul_add_emod]
    exact ⟨clock, by rw [unixNanos, unixNanos, seconds, utc, nano]⟩

/-- A moment has a UTC date with a year of at most four digits. -/
theorem hasUtcDate_iff {instant : Instant} :
    instant.hasUtcDate = true ↔ ∃ date, instant.FallsOn date := by
  simp only [fallsOn_iff, Date.exists_number_iff, hasUtcDate, Bool.and_eq_true, decide_eq_true_eq]

end Instant

namespace Age

variable {created now : Instant}

/-- Negative spans, which are cut off towards zero, are no age. -/
theorem toNat_tdiv (span : Int) : ((span.tdiv Instant.nanosPerDay).toNat : Int) =
    max 0 (span / Instant.nanosPerDay) := by
  rw [Instant.nanosPerDay_eq]
  rcases Int.le_total 0 span with forward | backward
  · rw [Int.tdiv_eq_ediv_of_nonneg forward]
    omega
  · have cut := Int.tdiv_nonneg (Int.neg_nonneg_of_nonpos backward)
      (by decide : (0 : Int) ≤ 86400000000000)
    rw [Int.neg_tdiv] at cut
    omega

theorem wholeDays_calendar :
    (wholeDays true created now : Int) = max 0 (now.utcDay - created.utcDay) := by
  rw [wholeDays, toNat_tdiv, elapsed, if_pos rfl, Instant.nanosPerDay_eq]
  omega

theorem wholeDays_periods : (wholeDays false created now : Int) =
    max 0 ((now.unixNanos - created.unixNanos) / Instant.nanosPerDay) :=
  toNat_tdiv _

/-- Full days are no more than the days of the calendar. -/
theorem wholeDays_le (strict : Bool) :
    (wholeDays strict created now : Int) ≤ max 0 (now.utcDay - created.utcDay) := by
  cases strict with
  | true => exact Int.le_of_eq wholeDays_calendar
  | false =>
    rw [wholeDays_periods, Instant.utcDay_eq, Instant.utcDay_eq, Instant.nanosPerDay_eq]
    omega

/-- An age does not shrink as time goes on, nor with an earlier creation. -/
theorem wholeDays_mono (strict : Bool) {created' now' : Instant}
    (older : created'.unixNanos ≤ created.unixNanos) (later : now.unixNanos ≤ now'.unixNanos) :
    wholeDays strict created now ≤ wholeDays strict created' now' := by
  rw [← Int.ofNat_le]
  cases strict with
  | true =>
    have births := Instant.utcDay_mono older
    have days := Instant.utcDay_mono later
    rw [wholeDays_calendar, wholeDays_calendar]
    omega
  | false =>
    have periods := Int.ediv_le_ediv (by decide : 0 < Instant.nanosPerDay) (Int.sub_le_sub later older)
    rw [wholeDays_periods, wholeDays_periods]
    omega

theorem wholeDays_of_moments (strict : Bool) {created' now' : Instant}
    (creation : created'.unixNanos = created.unixNanos) (current : now'.unixNanos = now.unixNanos) :
    wholeDays strict created' now' = wholeDays strict created now := by
  apply Nat.le_antisymm
  · exact wholeDays_mono strict (Int.le_of_eq creation.symm) (Int.le_of_eq current)
  · exact wholeDays_mono strict (Int.le_of_eq creation) (Int.le_of_eq current.symm)

theorem wholeDays_strict_le :
    wholeDays true created now ≤ wholeDays false created now + 1 := by
  rw [← Int.ofNat_le, Int.natCast_add, wholeDays_calendar, wholeDays_periods, Instant.utcDay_eq,
    Instant.utcDay_eq, Instant.nanosPerDay_eq]
  omega

theorem le_wholeDays_strict : wholeDays false created now ≤ wholeDays true created now := by
  rw [← Int.ofNat_le, wholeDays_calendar]
  exact wholeDays_le false

/-- Once a resource exists, every whole day adds one to its age. -/
theorem wholeDays_advance (strict : Bool) (born : created.unixNanos ≤ now.unixNanos) (days : Nat)
    {later : Instant} (advanced : later.unixNanos = now.unixNanos + days * Instant.nanosPerDay) :
    wholeDays strict created later = wholeDays strict created now + days := by
  rw [← Int.ofNat_inj, Int.natCast_add]
  cases strict with
  | true =>
    rw [wholeDays_calendar, wholeDays_calendar, Instant.utcDay_eq, Instant.utcDay_eq,
      Instant.utcDay_eq, advanced, Instant.nanosPerDay_eq]
    omega
  | false =>
    rw [wholeDays_periods, wholeDays_periods, advanced, Instant.nanosPerDay_eq]
    omega

theorem isDefined_some_iff : isDefined now (some created) = true ↔
    (∃ date, created.FallsOn date) ∧ ∃ date, now.FallsOn date := by
  rw [isDefined, Bool.and_eq_true, Instant.hasUtcDate_iff, Instant.hasUtcDate_iff, And.comm]

theorem isDefined_of_moments {created' now' : Instant}
    (creation : created'.unixNanos = created.unixNanos) (current : now'.unixNanos = now.unixNanos) :
    isDefined now' (some created') = isDefined now (some created) := by
  simp only [isDefined, Instant.hasUtcDate, Instant.utcDay_eq, creation, current]

/-- A strict age is counted from the start of the day of creation to the end of the current one. -/
theorem elapsed_strict {born today : Date} (creation : created.FallsOn born)
    (current : now.FallsOn today) : elapsed true created now =
      (Instant.utc today .endOfDay).unixNanos - (Instant.utc born .midnight).unixNanos := by
  rw [Instant.fallsOn_iff] at creation current
  simp only [elapsed, if_true, Instant.unixNanos_utc, creation, current, Clock.endOfDay_eq,
    Clock.midnight_eq, Instant.nanosPerDay, Instant.secondsPerDay, Instant.nanosPerSecond]
  omega

/-- What holds of the ages of a resource that is created at one moment and looked at in another. -/
structure Laws (created now : Instant) : Prop where
  defined : isDefined now (some created) = true ↔
    (∃ date, created.FallsOn date) ∧ ∃ date, now.FallsOn date
  known : ∀ strict, since strict now (some created) = .days (wholeDays strict created now)
  calendar : ∀ born today, created.FallsOn born → now.FallsOn today →
    elapsed true created now =
        (Instant.utc today .endOfDay).unixNanos - (Instant.utc born .midnight).unixNanos ∧
      (wholeDays true created now : Int) = max 0 (today.number - born.number)
  periods : (wholeDays false created now : Int) =
    max 0 ((now.unixNanos - created.unixNanos) / Instant.nanosPerDay)
  moments : ∀ created' now' : Instant, created'.unixNanos = created.unixNanos →
    now'.unixNanos = now.unixNanos →
    isDefined now' (some created') = isDefined now (some created) ∧
      ∀ strict, wholeDays strict created' now' = wholeDays strict created now
  later : ∀ now' : Instant, now.unixNanos ≤ now'.unixNanos →
    ∀ strict, wholeDays strict created now ≤ wholeDays strict created now'
  younger : ∀ created' : Instant, created.unixNanos ≤ created'.unixNanos →
    ∀ strict, wholeDays strict created' now ≤ wholeDays strict created now
  close : wholeDays false created now ≤ wholeDays true created now ∧
    wholeDays true created now ≤ wholeDays false created now + 1
  advance : created.unixNanos ≤ now.unixNanos → ∀ (days : Nat) (now' : Instant),
    now'.unixNanos = now.unixNanos + days * Instant.nanosPerDay →
    ∀ strict, wholeDays strict created now' = wholeDays strict created now + days

theorem since_laws (created now : Instant) : Laws created now where
  defined := isDefined_some_iff
  known := fun _ => rfl
  calendar := fun born today creation current => by
    refine ⟨elapsed_strict creation current, ?_⟩
    rw [wholeDays_calendar, Instant.fallsOn_iff.mp creation, Instant.fallsOn_iff.mp current]
  periods := wholeDays_periods
  moments := fun _ _ creation current =>
    ⟨isDefined_of_moments creation current, fun strict => wholeDays_of_moments strict creation current⟩
  later := fun _ order strict => wholeDays_mono strict (Int.le_refl _) order
  younger := fun _ order strict => wholeDays_mono strict order (Int.le_refl _)
  close := ⟨le_wholeDays_strict, wholeDays_strict_le⟩
  advance := fun born days _ advanced strict => wholeDays_advance strict born days advanced

end Age

namespace Instant

/-- The first hour of 10 May by a clock two hours ahead; in UTC it is still the day before. -/
def afterMidnight : Instant :=
  (Timestamp.internet? "2024-05-10T01:00:00+02:00".toList).get (by decide)

def thatMorning : Instant := (Timestamp.internet? "2024-05-10T08:00:00Z".toList).get (by decide)

/-- The same time of day a year later, by a clock five hours behind. -/
def yearLater : Instant :=
  (Timestamp.internet? "2025-05-10T03:00:00-05:00".toList).get (by decide)

end Instant

def Date.ninthOfMay : Date := (Date.of? 2024 5 9).get (by decide)

def Date.tenthOfMay : Date := (Date.of? 2024 5 10).get (by decide)

/-- Nine hours are a day of the calendar where they go over midnight, and a year adds its days to that. -/
theorem Age.since_laws_overnight :
    Instant.afterMidnight.FallsOn .ninthOfMay ∧ Instant.thatMorning.FallsOn .tenthOfMay ∧
    Instant.yearLater.unixNanos = Instant.thatMorning.unixNanos + 365 * Instant.nanosPerDay ∧
    (Age.wholeDays true .afterMidnight .thatMorning = 1 ∧
      Age.wholeDays false .afterMidnight .thatMorning = 0) ∧
    Age.wholeDays true .afterMidnight .yearLater = 366 ∧
    Age.wholeDays false .afterMidnight .yearLater = 365 := by
  have laws := Age.since_laws .afterMidnight .thatMorning
  have born : Instant.afterMidnight.FallsOn .ninthOfMay := Instant.fallsOn_iff.mpr (by decide)
  have today : Instant.thatMorning.FallsOn .tenthOfMay := Instant.fallsOn_iff.mpr (by decide)
  have passed : Instant.yearLater.unixNanos =
      Instant.thatMorning.unixNanos + 365 * Instant.nanosPerDay := by decide
  have strict : Age.wholeDays true .afterMidnight .thatMorning = 1 :=
    Int.ofNat_inj.mp ((laws.calendar _ _ born today).2.trans (by decide))
  have loose : Age.wholeDays false .afterMidnight .thatMorning = 0 :=
    Int.ofNat_inj.mp (laws.periods.trans (by decide))
  have grown := laws.advance (by decide) 365 .yearLater passed
  exact ⟨born, today, passed, ⟨strict, loose⟩, by rw [grown, strict], by rw [grown, loose]⟩

end Retention
