import ScrapeTelemetry.Proofs.Number.Shares
import ScrapeTelemetry.Proofs.Window.Coverage

/-!
# Windows with a length

The time between two observations is counted in whole milliseconds. The length of the query
stands in for it where an observation has no time, or the two are not in order. With exact
numbers only one kind of window is left without a length: one whose ends follow each other
within a millisecond.
-/

set_option autoImplicit false

namespace ScrapeTelemetry
open Scalar

theorem seconds_exact (d : Duration) : (d.seconds : Rat) = d.nanos / 1000000000 := by
  have hparts : (d.nanos : Rat) =
      (1000000000 * (d.nanos / 1000000000) + d.nanos % 1000000000 : ℕ) :=
    congrArg Nat.cast (Nat.div_add_mod d.nanos 1000000000).symm
  have hplain : (d.seconds : Rat) = ((d.nanos / 1000000000 : ℕ) : Rat) +
      ((d.nanos % 1000000000 : ℕ) : Rat) / ((1000000000 : ℕ) : Rat) := rfl
  rw [hplain, hparts]
  push_cast
  ring

theorem seconds_exact_pos {d : Duration} (h : d.isZero = false) : 0 < (d.seconds : Rat) := by
  have hnanos : d.nanos ≠ 0 := of_decide_eq_false h
  rw [seconds_exact]
  positivity

theorem request_seconds_pos (q : WindowRequest) : 0 < (q.seconds : Rat) := by
  unfold WindowRequest.seconds
  cases hzero : q.since.isZero with
  | true => exact seconds_exact_pos rfl
  | false => exact seconds_exact_pos hzero

def WithinMillisecond (start stop : Option Instant) : Prop :=
  ∃ s ∈ start, ∃ t ∈ stop, s < t ∧ t.nanos - s.nanos < 1000000

instance (start stop : Option Instant) : Decidable (WithinMillisecond start stop) :=
  inferInstanceAs (Decidable (∃ s ∈ start, ∃ t ∈ stop, s < t ∧ t.nanos - s.nanos < 1000000))

theorem seconds_between_exact (s t : Instant) :
    (s.secondsTo t : Rat) = s.millisTo t / (1000 : ℕ) :=
  congrArg (· / ((1000 : ℕ) : Rat)) (int_exact (s.millisTo t))

theorem millis_between {s t : Instant} (h : s < t) :
    s.millisTo t = (t.nanos - s.nanos) / 1000000 :=
  Int.tdiv_eq_ediv_of_nonneg (Int.sub_nonneg_of_le (Int.le_of_lt h))

theorem seconds_between_nonneg {s t : Instant} (h : s < t) : 0 ≤ (s.secondsTo t : Rat) := by
  have horder : s.nanos < t.nanos := h
  have hmillis : 0 ≤ s.millisTo t := by
    rw [millis_between h]
    omega
  rw [seconds_between_exact]
  positivity

theorem seconds_between_pos_iff {s t : Instant} (h : s < t) :
    0 < (s.secondsTo t : Rat) ↔ 1000000 ≤ t.nanos - s.nanos := by
  rw [seconds_between_exact, div_pos_iff_of_pos_right (by norm_num), Int.cast_pos, millis_between h]
  omega

/-- The span of two observations is never negative, and it is zero only between ends that
follow each other within a millisecond. -/
theorem span_pos_iff (earliest latest : Snapshot Rat) (q : WindowRequest) :
    0 ≤ spanSeconds earliest latest q ∧ (0 < spanSeconds earliest latest q ↔
      ¬ WithinMillisecond earliest.takenAt latest.takenAt) := by
  have hquery := request_seconds_pos q
  unfold spanSeconds
  cases hstart : earliest.takenAt with
  | none => simp [WithinMillisecond, hquery, hquery.le]
  | some s =>
    cases hstop : latest.takenAt with
    | none => simp [WithinMillisecond, hquery, hquery.le]
    | some t =>
      have hwithin : WithinMillisecond (some s) (some t) ↔
          s < t ∧ t.nanos - s.nanos < 1000000 := by
        simp [WithinMillisecond]
      by_cases horder : s < t
      · simp only [hwithin, horder, true_and, not_lt]
        exact ⟨seconds_between_nonneg horder, seconds_between_pos_iff horder⟩
      · simp [hwithin, horder, hquery, hquery.le]

structure PeriodSummary.Measured (p : PeriodSummary Rat) : Prop where
  seconds_nonneg : 0 ≤ p.windowSeconds
  seconds_pos_iff : 0 < p.windowSeconds ↔ ¬ WithinMillisecond p.start p.stop
  rate_zero_iff : p.requestsPerSecond = 0 ↔ p.requests = 0 ∨ WithinMillisecond p.start p.stop

theorem summary_measured (earliest latest : Snapshot Rat) (q : WindowRequest) :
    (summarize earliest latest q).Measured := by
  obtain ⟨hnonneg, hpos⟩ := span_pos_iff earliest latest q
  refine ⟨hnonneg, hpos, ?_⟩
  have hrate : (summarize earliest latest q).requestsPerSecond =
      meanPerSecond (summarize earliest latest q).requests (spanSeconds earliest latest q) := rfl
  rw [hrate, mean_per_second_eq_zero_iff, ← not_lt, hpos, not_not]
  rfl

def Summarizes (observed : List (Snapshot Rat)) (p : PeriodSummary Rat) : Prop :=
  ∃ earliest ∈ observed, ∃ latest ∈ observed, ∃ q, p = summarize earliest latest q

theorem Summarizes.mono {observed all : List (Snapshot Rat)} {p : PeriodSummary Rat}
    (hsub : ∀ s ∈ observed, s ∈ all) (h : Summarizes observed p) : Summarizes all p := by
  obtain ⟨earliest, hearliest, latest, hlatest, hp⟩ := h
  exact ⟨earliest, hsub _ hearliest, latest, hsub _ hlatest, hp⟩

theorem along_summarize (q : WindowRequest) (baseline : Snapshot Rat)
    (ends : List (TimedSnapshot Rat)) :
    ∀ p ∈ summariesAlong q baseline ends, Summarizes (baseline :: ends.map Prod.snd) p := by
  induction ends generalizing baseline with
  | nil => exact fun p hp => absurd hp List.not_mem_nil
  | cons e more ih =>
    intro p hp
    rcases List.mem_cons.mp hp with rfl | hp
    · exact ⟨baseline, List.mem_cons_self, e.2, by simp, q, rfl⟩
    · exact (ih e.2 p hp).mono fun s hs => List.mem_cons_of_mem baseline hs

theorem ends_summarize (q : WindowRequest) (timed : List (TimedSnapshot Rat)) :
    ∀ p ∈ summarizeEnds q timed, Summarizes (timed.map Prod.snd) p := by
  rcases timed with _ | ⟨first, _ | ⟨second, more⟩⟩
  · exact fun p hp => absurd hp List.not_mem_nil
  · exact fun p hp => absurd hp List.not_mem_nil
  · intro p hp
    have hlast : (second :: more).getLastD first ∈ first :: second :: more :=
      List.getLastD_mem_cons
    rw [List.mem_singleton.mp hp]
    exact ⟨first.2, by simp, _, List.mem_map_of_mem hlast, q, rfl⟩

theorem groups_summarize (q : WindowRequest) {groups : List (List (TimedSnapshot Rat))}
    (hfull : [] ∉ groups) :
    ∀ p ∈ summarizeGroups q none groups, Summarizes (groups.flatten.map Prod.snd) p := by
  cases hflat : groups.flatten with
  | nil =>
    have hnone : groups = [] := by
      rw [List.eq_nil_iff_forall_not_mem]
      intro g hg
      exact hfull (List.flatten_eq_nil_iff.mp hflat g hg ▸ hg)
    rw [hnone]
    exact fun p hp => absurd hp List.not_mem_nil
  | cons first rest =>
    intro p hp
    rw [groups_from_first q groups hfull first rest hflat] at hp
    refine (along_summarize q first.2 _ p hp).mono ?_
    have hends := (group_ends_sublist _).trans (summarized_sublist groups).flatten
    rw [hflat] at hends
    exact List.forall_mem_cons.mpr ⟨by simp, (hends.map Prod.snd).subset⟩

/-- Every summary of a query is one of two observations of its list. -/
theorem split_summarize (snapshots : List (Snapshot Rat)) (q : WindowRequest) (now : Instant) :
    ∀ summaries ∈ summarizeSplit? snapshots q now, ∀ p ∈ summaries, Summarizes snapshots p := by
  intro summaries hsplit p hp
  cases hstart : q.start? Rat now with
  | none => simp [summarizeSplit?, hstart] at hsplit
  | some start =>
    rw [split_started snapshots hstart] at hsplit
    have hinside : ∀ s ∈ (timedBetween start now snapshots).map Prod.snd, s ∈ snapshots :=
      List.forall_mem_map.mpr fun e he => (timed_taken start now snapshots e he).2
    refine Summarizes.mono hinside ?_
    split_ifs at hsplit
    · obtain rfl := Option.some.inj hsplit
      exact ends_summarize q _ p hp
    · cases hsplit
    · obtain rfl := Option.some.inj hsplit
      have hparts := groups_summarize _ (List.nil_notMem_splitBy _ _) p hp
      rwa [List.flatten_splitBy] at hparts

/-- A window has a length, and a rate if it has requests, unless its ends follow each other
within a millisecond. So it is for two observations in any order, with or without times, and
for every summary of a query; those start and stop at times of the list. -/
theorem windows_measured (earliest latest : Snapshot Rat) (snapshots : List (Snapshot Rat))
    (q : WindowRequest) (now : Instant) :
    (summarize earliest latest q).Measured ∧
    ∀ summaries ∈ summarizeSplit? snapshots q now, ∀ p ∈ summaries,
      p.Measured ∧ p.start ∈ snapshots.map Snapshot.takenAt ∧
        p.stop ∈ snapshots.map Snapshot.takenAt := by
  refine ⟨summary_measured earliest latest q, ?_⟩
  intro summaries hsplit p hp
  obtain ⟨first, hfirst, last, hlast, q', rfl⟩ :=
    split_summarize snapshots q now summaries hsplit p hp
  exact ⟨summary_measured first last q', List.mem_map_of_mem hfirst, List.mem_map_of_mem hlast⟩

def requestsAt (nanos requests : ℕ) : Snapshot Rat :=
  ⟨some ⟨nanos⟩, requests, 0, 0, 0, [], []⟩

/-- Half a millisecond after the first observation ten requests were counted, but no time. -/
theorem half_millisecond_empty :
    let p := summarize (requestsAt 0 0) (requestsAt 500000 10) .default
    p.start = some ⟨0⟩ ∧ p.stop = some ⟨500000⟩ ∧ p.windowSeconds = 0 ∧ p.requests = 10 ∧
      p.requestsPerSecond = 0 := by
  refine ⟨rfl, rfl, ?_⟩
  decide +kernel

def aroundEdge : List (Snapshot Rat) :=
  [requestsAt 10000000000 0, requestsAt 59999700000 60, requestsAt 60000200000 90]

theorem around_edge_measured :
    ∃ first second,
      summarizeSplit? aroundEdge ⟨.ofSeconds 300, .ofSeconds 60⟩ (.ofSeconds 300) =
        some [first, second] ∧
      0 < first.windowSeconds ∧ second.windowSeconds = 0 ∧
      second.requests = 30 ∧ second.requestsPerSecond = 0 := by
  have hstart : (WindowRequest.mk (.ofSeconds 300) (.ofSeconds 60)).start? Rat (.ofSeconds 300) =
      some (.ofSeconds 0) := by decide +kernel
  have htimed : timedBetween (.ofSeconds 0) (.ofSeconds 300) aroundEdge =
      [(⟨10000000000⟩, requestsAt 10000000000 0), (⟨59999700000⟩, requestsAt 59999700000 60),
        (⟨60000200000⟩, requestsAt 60000200000 90)] := by cbv
  have hsplit := parts_started aroundEdge hstart rfl (by decide +kernel)
  rw [htimed] at hsplit
  have hsecond : WithinMillisecond (some ⟨59999700000⟩) (some ⟨60000200000⟩) := by decide
  have hmeasured := (windows_measured (requestsAt 0 0) (requestsAt 0 0) aroundEdge
    ⟨.ofSeconds 300, .ofSeconds 60⟩ (.ofSeconds 300)).2 _ hsplit
  refine ⟨_, _, hsplit, ?_⟩
  obtain ⟨hfirst, -⟩ := hmeasured _ List.mem_cons_self
  obtain ⟨hedge, -⟩ := hmeasured _ (List.mem_cons_of_mem _ List.mem_cons_self)
  refine ⟨hfirst.seconds_pos_iff.mpr (by decide), ?_, by decide +kernel, ?_⟩
  · exact le_antisymm (not_lt.mp fun hpos => hedge.seconds_pos_iff.mp hpos hsecond)
      hedge.seconds_nonneg
  · exact hedge.rate_zero_iff.mpr (.inr hsecond)

end ScrapeTelemetry
