import Daylight.Proofs.Transitions
import Mathlib.Order.Bounds.Basic

/-!
# Milliseconds lose nothing

A count of milliseconds is a moment of universal time, the moment can be told in any zone, and any moment with a
zone has its count of milliseconds. A count comes back from all of this as it was. A moment comes back rounded
down to its millisecond, which for moments before 1970 is rounding away from zero.

## What is proved

* `ofMillis_succeeds_iff`: which counts are moments.
* `toMillis_of_inZone`: in no zone is a count lost, not even in an hour that comes twice.
* `millis_kept`: the whole, with what a moment comes back as.
-/

namespace Daylight

namespace Moment

/-- **The counts that are moments** are those from the first millisecond of the calendar to the last one. -/
theorem ofMillis_succeeds_iff {millis : Int} :
    (∃ m, ofMillis millis = .ok m) ↔ -62135596800000 ≤ millis ∧ millis ≤ 253402300799999 := by
  have hbounds : inCalendar (millis * 1000) = true ↔
      -62135596800000 ≤ millis ∧ millis ≤ 253402300799999 := by
    rw [inCalendar_iff]
    simp only [lowest, highest, Day.start, Day.first, Day.last, dayLength, second]
    omega
  simp only [ofMillis_eq_ok_iff, exists_and_left, hbounds]
  exact ⟨fun h => h.1, fun h => ⟨h, _, rfl⟩⟩

/-- Microseconds rounded down are the last whole millisecond that is not after them. -/
theorem isGreatest_floor (i : Int) : IsGreatest {n : Int | n * 1000 ≤ i} (i / 1000) :=
  ⟨Int.ediv_mul_le i (by decide), fun _ hn => (Int.le_ediv_iff_mul_le (by decide)).mpr hn⟩

/-- A moment of the calendar has the same milliseconds in every known zone. -/
theorem toMillis_of_inZone {m moved : Moment} {zone : Zone} (h : zone.IsKnown) {i : Int}
    (hi : m.instant? = some i) (hc : inCalendar i = true) (hm : m.inZone zone = .ok moved) :
    moved.toMillis = .ok (i / 1000) :=
  toMillis_of_instant? (instant?_of_inZone h hi hm) hc

/-- **Milliseconds lose nothing.** The counts of milliseconds from the first one of the calendar to the last one
are moments, and no others are. Such a moment has the count that it was made from, and so it has in every known
zone that it can be told in. And every moment with a zone that can be told in universal time, be its reading
in a gap or in an hour that comes twice, comes back from its milliseconds as the last whole millisecond that is
not after it. -/
theorem millis_kept :
    (∀ millis, (∃ m, ofMillis millis = .ok m) ↔ -62135596800000 ≤ millis ∧ millis ≤ 253402300799999) ∧
      (∀ millis m, ofMillis millis = .ok m →
        m.toMillis = .ok millis ∧
          ∀ zone moved, zone.IsKnown → m.inZone zone = .ok moved → moved.toMillis = .ok millis) ∧
      ∀ m utc : Moment, m.zone ≠ none → m.toUtc = .ok utc →
        ∃ i millis, m.instant? = some i ∧ utc = ofInstant i ∧ m.toMillis = .ok millis ∧
          ofMillis millis = .ok (ofInstant (millis * 1000)) ∧
          IsGreatest {n : Int | n * 1000 ≤ i} millis := by
  refine ⟨fun millis => ofMillis_succeeds_iff, fun millis m h => ?_, fun m utc hz h => ?_⟩
  · obtain ⟨hin, rfl⟩ := ofMillis_eq_ok_iff.mp h
    have hinstant := instant?_ofInstant (millis * 1000)
    have hback : millis * 1000 / 1000 = millis := Int.mul_ediv_cancel _ (by decide)
    refine ⟨?_, fun zone moved hknown hmoved => ?_⟩
    · rw [toMillis_of_instant? hinstant hin, hback]
    · rw [toMillis_of_inZone hknown hinstant hin hmoved, hback]
  · obtain ⟨i, hi, hin, rfl⟩ := instant?_of_toUtc hz h
    exact ⟨i, i / 1000, hi, rfl, toMillis_of_instant? hi hin, ofMillis_of_inCalendar (inCalendar_floor hin),
      isGreatest_floor i⟩

/-- The clock of an island that puts it back by half an hour. -/
def lordHoweZone : Zone := .region Atlas.australiaLordHowe

/-- A quarter to two comes twice on 2 April 2023, and both times keep their milliseconds. A quarter past two on
1 October, which is left out, means two instants with and without fold, and a microsecond more is rounded down. -/
theorem kept_on_lordHowe :
    ∃ once again, (ofInstant 1680360300000000).inZone lordHoweZone = .ok once ∧
      (ofInstant 1680362100000000).inZone lordHoweZone = .ok again ∧ once.wall = again.wall ∧
      once.toMillis = .ok 1680360300000 ∧ again.toMillis = .ok 1680362100000 ∧
      (⟨1696126500000001, some lordHoweZone, false⟩ : Moment).toMillis = .ok 1696088700000 ∧
      (⟨1696126500000001, some lordHoweZone, true⟩ : Moment).toMillis = .ok 1696086900000 := by
  have hknown : lordHoweZone.IsKnown := by
    unfold lordHoweZone Zone.IsKnown Atlas.regions
    simp
  have hturned : (ofInstant 1680360300000000).inZone lordHoweZone =
        .ok ⟨1680399900000000, some lordHoweZone, false⟩ ∧
      (ofInstant 1680362100000000).inZone lordHoweZone =
        .ok ⟨1680399900000000, some lordHoweZone, true⟩ := by
    decide +kernel
  have hgap : (⟨1696126500000001, some lordHoweZone, false⟩ : Moment).toUtc =
        .ok (ofInstant 1696088700000001) ∧
      (⟨1696126500000001, some lordHoweZone, true⟩ : Moment).toUtc = .ok (ofInstant 1696086900000001) := by
    decide +kernel
  obtain ⟨-, hcounts, hmoments⟩ := millis_kept
  obtain ⟨-, honce⟩ := hcounts 1680360300000 _ rfl
  obtain ⟨-, hagain⟩ := hcounts 1680362100000 _ rfl
  obtain ⟨i, millis, -, hi, hmillis, -, hgreatest⟩ := hmoments _ _ (by decide) hgap.1
  obtain ⟨j, millis', -, hj, hmillis', -, hgreatest'⟩ := hmoments _ _ (by decide) hgap.2
  refine ⟨_, _, hturned.1, hturned.2, rfl, honce _ _ hknown hturned.1, hagain _ _ hknown hturned.2, ?_, ?_⟩
  · obtain rfl : 1696088700000001 = i := congrArg Moment.wall hi
    rw [hmillis, hgreatest.unique (isGreatest_floor _)]
    rfl
  · obtain rfl : 1696086900000001 = j := congrArg Moment.wall hj
    rw [hmillis', hgreatest'.unique (isGreatest_floor _)]
    rfl

end Moment

end Daylight
