import ScrapeTelemetry.Proofs.Clock.Calendar
import ScrapeTelemetry.Proofs.Clock.WholeSeconds
import ScrapeTelemetry.Proofs.Window.Unordered

/-!
# Windows as they are asked for

A query that is not split gets one summary, from the first observation in its window to the
last. Where the window starts is reckoned in whole milliseconds, from seconds that are
rounded. So it is the window asked for just where nothing is lost on the way, which holds for
whole seconds and for no part of a millisecond.
-/

set_option autoImplicit false

namespace ScrapeTelemetry
open Scalar

section

variable {α : Type} (start now : Instant) (snapshots : List (Snapshot α))

/-- The summaries are one from the earliest observation of a window to the latest, or none for
fewer than two. -/
structure Covers (summaries : List (PeriodSummary α)) : Prop where
  few : (timesInside start now snapshots).length < 2 → summaries = []
  whole : 2 ≤ (timesInside start now snapshots).length → ∃ p first last,
    summaries = [p] ∧ p.start = some first ∧ p.stop = some last ∧
      IsLeast {t | t ∈ timesInside start now snapshots} first ∧
      IsGreatest {t | t ∈ timesInside start now snapshots} last

theorem covers_few (h : (timesInside start now snapshots).length < 2) :
    Covers start now snapshots [] :=
  ⟨fun _ => rfl, fun htwo => absurd h (not_lt.mpr htwo)⟩

theorem mem_times_inside (t : Instant) :
    t ∈ timesInside start now snapshots ↔ ∃ e ∈ timedBetween start now snapshots, e.1 = t := by
  rw [← (timed_times start now snapshots).mem_iff, List.mem_map]

section

variable {first : TimedSnapshot α} {rest : List (TimedSnapshot α)}
  (h : timedBetween start now snapshots = first :: rest)
include h

theorem first_of_timed : IsLeast {t | t ∈ timesInside start now snapshots} first.1 := by
  have hasc := timed_ascending start now snapshots
  simp only [mem_times_inside, h] at hasc ⊢
  refine ⟨⟨first, List.mem_cons_self, rfl⟩, ?_⟩
  rintro t ⟨e, he, rfl⟩
  rcases List.mem_cons.mp he with rfl | he
  · exact Int.le_refl _
  · exact (List.pairwise_cons.mp hasc).1 e he

theorem last_of_timed :
    IsGreatest {t | t ∈ timesInside start now snapshots} (rest.getLastD first).1 := by
  have hasc := timed_ascending start now snapshots
  simp only [mem_times_inside, h] at hasc ⊢
  refine ⟨⟨rest.getLastD first, List.getLastD_mem_cons, rfl⟩, ?_⟩
  rintro t ⟨e, he, rfl⟩
  rw [← List.getLast_eq_getLastD (List.cons_ne_nil first rest)]
  exact hasc.rel_getLast_of_rel_getLast_getLast he (Int.le_refl _)

end

end

variable {α : Type} [Scalar α]

/-- A query that is not split covers the window that it starts. -/
theorem unsplit_covers (snapshots : List (Snapshot α)) {q : WindowRequest}
    (hbucket : q.bucket.isZero = true) {now start : Instant} (hstart : q.start? α now = some start) :
    ∃ summaries, summarizeSplit? snapshots q now = some summaries ∧
      Covers start now snapshots summaries := by
  have hlength := (timed_times start now snapshots).length_eq
  refine ⟨_, whole_started snapshots hstart hbucket, ?_⟩
  rw [List.length_map] at hlength
  rcases hcase : timedBetween start now snapshots with _ | ⟨first, _ | ⟨second, more⟩⟩
  · exact covers_few start now snapshots (by rw [← hlength, hcase]; simp)
  · exact covers_few start now snapshots (by rw [← hlength, hcase]; simp)
  · have hmem : (second :: more).getLastD first ∈ timedBetween start now snapshots := by
      rw [hcase]
      exact List.getLastD_mem_cons
    have hfirst : first ∈ timedBetween start now snapshots := by
      rw [hcase]
      exact List.mem_cons_self
    constructor
    · intro hfew
      rw [← hlength, hcase] at hfew
      exact absurd hfew (by simp)
    · intro _
      exact ⟨_, _, _, rfl, (timed_taken start now snapshots _ hfirst).1,
        (timed_taken start now snapshots _ hmem).1, first_of_timed start now snapshots hcase,
        last_of_timed start now snapshots hcase⟩

namespace WindowRequest

def length (q : WindowRequest) : Duration := if q.since.isZero then defaultWindow else q.since

theorem seconds_of_length (q : WindowRequest) : (q.seconds : α) = q.length.seconds := by
  unfold seconds length
  split <;> rfl

end WindowRequest

def observedAt (t : Instant) : Snapshot α := ⟨some t, 0, 0, 0, 0, [], []⟩

theorem times_observed (start now : Instant) (ts : List Instant) :
    timesInside start now (ts.map observedAt : List (Snapshot α)) =
      ts.filter fun t => start ≤ t ∧ t ≤ now := by
  rw [timesInside, List.filter_map, List.filterMap_map]
  have htaken : Snapshot.takenAt ∘ (observedAt : Instant → Snapshot α) = some := rfl
  rw [htaken, List.filterMap_some]
  simp [Function.comp_def, Snapshot.Inside, observedAt]

/-- An observation at the earlier of two starts tells the windows apart. -/
theorem covers_one_start {start asked now : Instant} (hlt : start < asked) (hasked : asked ≤ now)
    {summaries : List (PeriodSummary α)}
    (hearly : Covers start now ([start, now].map observedAt) summaries) :
    ¬ Covers asked now ([start, now].map observedAt) summaries := by
  intro hlate
  have hstart : start ≤ now := Int.le_trans (Int.le_of_lt hlt) hasked
  have hself (t : Instant) : t ≤ t := Int.le_refl _
  have hnot : ¬ asked ≤ start := Int.not_le.mpr hlt
  have hboth : timesInside start now ([start, now].map observedAt : List (Snapshot α)) =
      [start, now] := by
    rw [times_observed]
    simp [hstart, hself]
  have hlone : timesInside asked now ([start, now].map observedAt : List (Snapshot α)) =
      [now] := by
    rw [times_observed]
    simp [hasked, hnot, hself]
  have hnone := hlate.few (by rw [hlone]; simp)
  obtain ⟨p, first, last, hone, -⟩ := hearly.whole (by rw [hboth]; simp)
  rw [hnone] at hone
  cases hone

theorem covers_same_start {start asked now : Instant} (hstart : start ≤ now) (hasked : asked ≤ now)
    (h : ∀ snapshots : List (Snapshot α), ∃ summaries,
      Covers start now snapshots summaries ∧ Covers asked now snapshots summaries) :
    start.nanos = asked.nanos := by
  rcases lt_trichotomy start.nanos asked.nanos with hlt | hsame | hgt
  · obtain ⟨summaries, hearly, hlate⟩ := h ([start, now].map observedAt)
    exact absurd hlate (covers_one_start hlt hasked hearly)
  · exact hsame
  · obtain ⟨summaries, hlate, hearly⟩ := h ([asked, now].map observedAt)
    exact absurd hlate (covers_one_start hgt hstart hearly)

theorem before_now {t u : Instant} {n : ℕ} (h : u.nanos = t.nanos + -(n : ℤ)) : u ≤ t := by
  change u.nanos ≤ t.nanos
  omega

def CoversFrom (α : Type) [Scalar α] (q : WindowRequest) (asked now : Instant) : Prop :=
  ∀ snapshots : List (Snapshot α), ∃ summaries,
    summarizeSplit? snapshots q now = some summaries ∧ Covers asked now snapshots summaries

theorem covers_from_iff (q : WindowRequest) (hbucket : q.bucket.isZero = true)
    {now asked : Instant} (hasked : now.plus? (-q.length.nanos) = some asked) :
    CoversFrom α q asked now ↔ q.windowMillis α * 1000000 = q.length.nanos := by
  obtain ⟨hnanos, hshown⟩ := (plus_some_iff now asked _).mp hasked
  constructor
  · intro h
    obtain ⟨start, hstart⟩ : ∃ start, q.start? α now = some start := by
      obtain ⟨summaries, hsplit, -⟩ := h []
      obtain ⟨start, hstart, -⟩ := Option.bind_eq_some_iff.mp hsplit
      exact ⟨start, hstart⟩
    obtain ⟨hreckoned, -⟩ := (plus_some_iff now start _).mp hstart
    have hcovers : ∀ snapshots : List (Snapshot α), ∃ summaries,
        Covers start now snapshots summaries ∧ Covers asked now snapshots summaries := by
      intro snapshots
      obtain ⟨summaries, hsplit, hlate⟩ := h snapshots
      obtain ⟨summaries', hsplit', hearly⟩ := unsplit_covers snapshots hbucket hstart
      obtain rfl := Option.some.inj (hsplit.symm.trans hsplit')
      exact ⟨summaries, hearly, hlate⟩
    have hwindow : start.nanos = now.nanos + -(q.windowMillis α * 1000000 : ℕ) := by
      rw [hreckoned]
      push_cast
      rfl
    have hsame := covers_same_start (before_now hwindow) (before_now hnanos) hcovers
    omega
  · intro h snapshots
    apply unsplit_covers snapshots hbucket
    rw [← hasked, ← h]
    push_cast
    rfl

theorem whole_seconds_kept (q : WindowRequest) (hwhole : q.length.subNanos = 0)
    (hshort : 125 * q.length.wholeSeconds < 2 ^ 53) :
    q.windowMillis Float * 1000000 = q.length.nanos := by
  have hmillis : q.windowMillis Float = min millisLimit (1000 * q.length.wholeSeconds) := by
    have hplain : q.windowMillis Float =
        min millisLimit (truncate ((q.seconds : Float) * Scalar.ofNat 1000)) := rfl
    rw [hplain, q.seconds_of_length, whole_seconds_millis hwhole hshort]
  have hlimit : millisLimit = 2 ^ 63 - 1 := rfl
  have hparts : 1000000000 * q.length.wholeSeconds + q.length.subNanos = q.length.nanos :=
    Nat.div_add_mod _ _
  omega

/-- A query that is not split covers the window that it asks for if and only if the milliseconds
of its rounded seconds are its length of time. Those of whole seconds are, and those of a length
with a part of a millisecond are not. -/
theorem window_asked_iff (q : WindowRequest) (hbucket : q.bucket.isZero = true)
    (now asked : Instant) (hnow : now.isShown = true)
    (hasked : now.plus? (-q.length.nanos) = some asked) :
    (CoversFrom Float q asked now ↔ q.windowMillis Float * 1000000 = q.length.nanos) ∧
    (q.length.subNanos = 0 → CoversFrom Float q asked now) ∧
    (¬ 1000000 ∣ q.length.nanos → ¬ CoversFrom Float q asked now) := by
  have hiff : CoversFrom Float q asked now ↔ _ := covers_from_iff q hbucket hasked
  refine ⟨hiff, fun hwhole => ?_, fun hpart hcovers => ?_⟩
  · have hseconds := seconds_between_shown hnow hasked
    exact hiff.mpr (whole_seconds_kept q hwhole (by omega))
  · exact hpart (Dvd.intro_left _ (hiff.mp hcovers))

def aroundWindow : List (Snapshot Float) :=
  [.ofSeconds 55, .ofSeconds 10, ⟨9999999999⟩, .ofSeconds 101].map observedAt

theorem ninety_seconds_covered :
    (WindowRequest.mk (.ofSeconds 90) .zero).bucket.isZero = true ∧
    (Instant.ofSeconds 100).isShown = true ∧
    (Instant.ofSeconds 100).plus? (-(WindowRequest.mk (.ofSeconds 90) .zero).length.nanos) =
      some (.ofSeconds 10) ∧
    ∃ summaries, summarizeSplit? aroundWindow ⟨.ofSeconds 90, .zero⟩ (.ofSeconds 100) =
        some summaries ∧
      Covers (.ofSeconds 10) (.ofSeconds 100) aroundWindow summaries := by
  have hshown : (Instant.ofSeconds 100).isShown = true := by decide +kernel
  have hasked : (Instant.ofSeconds 100).plus?
      (-(WindowRequest.mk (.ofSeconds 90) .zero).length.nanos) = some (.ofSeconds 10) := by
    decide +kernel
  obtain ⟨-, hwhole, -⟩ := window_asked_iff ⟨.ofSeconds 90, .zero⟩ rfl _ _ hshown hasked
  exact ⟨rfl, hshown, hasked, hwhole rfl aroundWindow⟩

/-- A window of 1001 ms is reckoned to have 1000, so an observation at its start is left out and
the other one is alone. -/
theorem millisecond_left_out :
    let q : WindowRequest := ⟨⟨1001000000⟩, .zero⟩
    let now : Instant := ⟨1001000000⟩
    let snapshots : List (Snapshot Float) :=
      [observedAt ⟨0⟩, { observedAt now with requests := 10 }]
    now.plus? (-q.length.nanos) = some ⟨0⟩ ∧ timesInside ⟨0⟩ now snapshots = [⟨0⟩, now] ∧
      summarizeSplit? snapshots q now = some [] ∧ ¬ Covers ⟨0⟩ now snapshots [] := by
  intro q now snapshots
  have hasked : now.plus? (-q.length.nanos) = some ⟨0⟩ := by decide +kernel
  have htimes : timesInside ⟨0⟩ now snapshots = [⟨0⟩, now] := by decide +kernel
  have hstart : q.start? Float now = some ⟨1000000⟩ := by decide +kernel
  refine ⟨hasked, htimes, ?_, ?_⟩
  · obtain ⟨summaries, hsplit, hcovers⟩ := unsplit_covers snapshots rfl hstart
    rwa [hcovers.few (by decide +kernel)] at hsplit
  · intro hcovers
    obtain ⟨p, first, last, hone, -⟩ := hcovers.whole (by rw [htimes]; decide)
    cases hone

end ScrapeTelemetry
