import Mathlib
import ScrapeTelemetry.Clock.Instant

/-!
# Times that a clock shows

A clock shows all times between its earliest and its latest one. These lie some 524000 years
apart, which bounds every length of time that leads from one of them to another.
-/

set_option autoImplicit false

namespace ScrapeTelemetry

theorem shown_iff (t : Instant) :
    t.isShown = true ↔ Instant.earliest ≤ t ∧ t ≤ Instant.latest := by
  rw [Instant.isShown, Bool.and_eq_true, decide_eq_true_eq, decide_eq_true_eq]

theorem plus_some_iff (t u : Instant) (n : ℤ) :
    t.plus? n = some u ↔ u.nanos = t.nanos + n ∧ u.isShown = true := by
  have hplain : t.plus? n =
      if (Instant.mk (t.nanos + n)).isShown then some ⟨t.nanos + n⟩ else none := rfl
  rw [hplain, Option.ite_none_right_eq_some, Option.some_inj]
  constructor
  · rintro ⟨hshown, rfl⟩
    exact ⟨rfl, hshown⟩
  · rintro ⟨hnanos, hshown⟩
    have hsame : u = ⟨t.nanos + n⟩ := congrArg Instant.mk hnanos
    exact ⟨hsame ▸ hshown, hsame.symm⟩

theorem calendar_length : Instant.latest.nanos - Instant.earliest.nanos < 17 * 10 ^ 21 := by
  decide +kernel

theorem seconds_between_shown {t u : Instant} {d : Duration} (ht : t.isShown = true)
    (hu : t.plus? (-d.nanos) = some u) : d.wholeSeconds < 17 * 10 ^ 12 := by
  obtain ⟨hnanos, hshown⟩ := (plus_some_iff t u _).mp hu
  have hlatest : t.nanos ≤ Instant.latest.nanos := ((shown_iff t).mp ht).2
  have hearliest : Instant.earliest.nanos ≤ u.nanos := ((shown_iff u).mp hshown).1
  have hwhole : d.wholeSeconds = d.nanos / 1000000000 := rfl
  have hlength := calendar_length
  omega

end ScrapeTelemetry
