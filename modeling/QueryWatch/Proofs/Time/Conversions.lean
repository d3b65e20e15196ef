import Mathlib.Data.Int.Order.Basic
import Mathlib.Order.MinMax
import QueryWatch.Sink.MonitorSink

namespace QueryWatch

def heldWithin (bound x : Int) : Int :=
  max (-bound) (min x bound)

theorem heldWithin_eq_iff {bound : Int} (h : 0 ≤ bound) (x : Int) :
    heldWithin bound x = x ↔ -bound ≤ x ∧ x ≤ bound := by
  unfold heldWithin
  omega

/-- A number is given as it is up to a bound, and as the bound from there on. -/
def GivenUpTo (bound exact given : Int) : Prop :=
  given = heldWithin bound exact ∧ (given = exact ↔ -bound ≤ exact ∧ exact ≤ bound)

theorem GivenUpTo.of_eq {bound exact given : Int} (hbound : 0 ≤ bound)
    (h : given = heldWithin bound exact) : GivenUpTo bound exact given := by
  subst h
  exact ⟨rfl, heldWithin_eq_iff hbound exact⟩

def FitsInt64 (x : Int) : Prop :=
  Int64.minValue.toInt ≤ x ∧ x ≤ Int64.maxValue.toInt

theorem toInt_ofIntClamp_eq (x : Int) :
    (Int64.ofIntClamp x).toInt = max Int64.minValue.toInt (min x Int64.maxValue.toInt) := by
  rcases lt_or_ge x Int64.minValue.toInt with hlow | hlow
  · have hmax : x ≤ Int64.maxValue.toInt := hlow.le.trans (by decide)
    rw [Int64.ofIntClamp, dif_neg (not_le.2 hlow), min_eq_left hmax, max_eq_left hlow.le]
  rcases le_or_gt x Int64.maxValue.toInt with hhigh | hhigh
  · rw [Int64.toInt_ofIntClamp hlow hhigh, min_eq_left hhigh, max_eq_right hlow]
  · rw [Int64.ofIntClamp, dif_pos hlow, dif_neg (not_le.2 hhigh), min_eq_right hhigh.le]
    rfl

/-- Cutting off the fraction keeps the order, and with it the bounds. -/
theorem tdiv_max_min {d : Int} (h : 0 < d) (a x b : Int) :
    (max a (min x b)).tdiv d = max (a.tdiv d) (min (x.tdiv d) (b.tdiv d)) := by
  have hmono : Monotone fun y : Int => y.tdiv d := by
    intro y z hyz
    exact Int.tdiv_le_tdiv h hyz
  exact (hmono.map_max).trans (congrArg (max (a.tdiv d)) hmono.map_min)

namespace TimeUnit

def exactly (u : TimeUnit) (count : Int64) (nanos : Int) : Int :=
  (count.toInt * u.nanos).tdiv nanos

/-- The last count of a unit of some nanoseconds that nanoseconds reach. -/
def reach (nanos : Int) : Int :=
  Int64.maxValue.toInt.tdiv nanos

/-- The first count that is reached is the last one with its sign turned, unless the unit is a power of
two. -/
theorem toInt_toNanos_div (nanos : Int64) (hpos : 0 < nanos.toInt)
    (hmin : Int64.minValue.toInt.tdiv nanos.toInt = -reach nanos.toInt) (u : TimeUnit)
    (count : Int64) : GivenUpTo (reach nanos.toInt) (u.exactly count nanos.toInt)
      (u.toNanos count / nanos).toInt := by
  have hne : nanos ≠ -1 := by
    rintro rfl
    exact absurd hpos (by decide)
  have hreach : 0 ≤ reach nanos.toInt := Int.tdiv_nonneg (by decide) hpos.le
  apply GivenUpTo.of_eq hreach
  rw [Int64.toInt_div_of_ne_right _ _ hne, toNanos, toInt_ofIntClamp_eq, tdiv_max_min hpos, hmin]
  rfl

end TimeUnit

open TimeUnit

/-- Milliseconds, and the seconds and microseconds of an event, are exact as far as nanoseconds reach to
either side, and stay there for all times farther out. -/
theorem conversions_reach (u : TimeUnit) (count : Int64) (s : Sink.MonitorSink) (m : Measurement) :
    GivenUpTo 9223372036854 (u.exactly count 1000000) (u.toMillis count).toInt ∧
      ∃ time micros, (s.event m).time = some time ∧ (s.event m).timeMicros = some micros ∧
        GivenUpTo 9223372036 (m.unit.exactly m.time 1000000000) time.toInt ∧
        GivenUpTo 9223372036854775 (m.unit.exactly m.time 1000) micros.toInt := by
  have hmillis := toInt_toNanos_div 1000000 (by decide) (by decide) u count
  have htime := toInt_toNanos_div 1000000000 (by decide) (by decide) m.unit m.time
  have hmicros := toInt_toNanos_div 1000 (by decide) (by decide) m.unit m.time
  exact ⟨hmillis, _, _, rfl, rfl, htime, hmicros⟩

/-- A time of a few hundred years, and one that tells its events. -/
def farOff : Measurement :=
  .complex "backup" 106752 .days ∅ ∅

def teller : Sink.MonitorSink where
  kind := "riemann"
  hostname := "here"
  ttl := .ofRatio false 30 1
  state := "ok"
  endpoint := none
  peer _ := {}

/-- A count of days whose milliseconds, seconds and microseconds would all fit, and none is given right.
-/
theorem far_days_fall_short :
    FitsInt64 (days.exactly 106752 1000000) ∧ FitsInt64 (days.exactly 106752 1000000000) ∧
      FitsInt64 (days.exactly 106752 1000) ∧
      days.exactly 106752 1000000 = 9223372800000 ∧ days.toMillis 106752 = 9223372036854 ∧
      days.exactly 106752 1000000000 = 9223372800 ∧ (teller.event farOff).time = some 9223372036 ∧
      days.exactly 106752 1000 = 9223372800000000 ∧
      (teller.event farOff).timeMicros = some 9223372036854775 ∧
      ¬(∀ (u : TimeUnit) (count : Int64), FitsInt64 (u.exactly count 1000000) →
        (u.toMillis count).toInt = u.exactly count 1000000) ∧
      ¬(∀ (s : Sink.MonitorSink) (m : Measurement), FitsInt64 (m.unit.exactly m.time 1000000000) →
        (s.event m).time.map Int64.toInt = some (m.unit.exactly m.time 1000000000)) := by
  have hfits : FitsInt64 (days.exactly 106752 1000000) ∧ FitsInt64 (days.exactly 106752 1000000000) ∧
      FitsInt64 (days.exactly 106752 1000) := by
    unfold FitsInt64
    decide
  obtain ⟨hmillis, hseconds, hmicros⟩ := hfits
  refine ⟨hmillis, hseconds, hmicros, by decide, by decide, by decide, by decide, by decide,
    by decide, ?_, ?_⟩
  · intro h
    exact absurd (h days 106752 hmillis) (by decide)
  · intro h
    exact absurd (h teller farOff hseconds) (by decide)

end QueryWatch
