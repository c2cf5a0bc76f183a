import ScrapeTelemetry.Proofs.Window.Groups
import ScrapeTelemetry.Proofs.Window.Increase
import ScrapeTelemetry.Proofs.Window.TimeOrder

/-!
# Split windows lose no traffic

However the observations of a window fall into buckets, each summary starts where the one
before it ended. The requests of all summaries together are at least those between the
first and the last observation, and no more than those if the counter never fell.
-/

set_option autoImplicit false

namespace ScrapeTelemetry

def requestsTogether (l : List (PeriodSummary Rat)) : Rat :=
  (l.map PeriodSummary.requests).sum

def requestsSeen (timed : List (TimedSnapshot Rat)) : List Rat :=
  timed.map fun e => e.2.requests

theorem groups_after (q : WindowRequest) (baseline : Snapshot Rat)
    (groups : List (List (TimedSnapshot Rat))) :
    requestsTogether (summarizeGroups q (some baseline) groups) =
      increasesAlong baseline.requests (requestsSeen (groupEnds groups)) := by
  induction groups generalizing baseline with
  | nil => rfl
  | cons g more ih =>
    rw [summarizeGroups, groupEnds, List.filterMap_cons]
    cases g.getLast? with
    | none => exact ih baseline
    | some last => exact congrArg (_ + ·) (ih last.2)

/-- The first group starts at its own first observation, all others at the last one of the
group before. -/
theorem groups_requests (q : WindowRequest) (groups : List (List (TimedSnapshot Rat)))
    (first : TimedSnapshot Rat) (rest : List (TimedSnapshot Rat))
    (h : groups.flatten = first :: rest) :
    requestsTogether (summarizeGroups q none groups) =
      increasesAlong first.2.requests (requestsSeen (groupEnds groups)) := by
  induction groups with
  | nil => cases h
  | cons g more ih =>
    cases g with
    | nil => exact ih h
    | cons a g =>
      obtain ⟨rfl, -⟩ := List.cons.inj h
      cases g with
      | nil =>
        have hends : requestsSeen (groupEnds ([a] :: more)) =
            a.2.requests :: requestsSeen (groupEnds more) := rfl
        rw [hends, increasesAlong, window_increase_self, zero_add]
        exact groups_after q a.2 more
      | cons b g =>
        have hlast : (a :: b :: g).getLast? = some ((b :: g).getLastD a) := rfl
        rw [summarizeGroups, groupEnds, List.filterMap_cons, hlast]
        exact congrArg (_ + ·) (groups_after q _ more)

theorem last_of_ends (groups : List (List (TimedSnapshot Rat))) (first : TimedSnapshot Rat)
    (rest : List (TimedSnapshot Rat)) (h : groups.flatten = first :: rest) :
    (requestsSeen (groupEnds groups)).getLastD first.2.requests =
      (rest.getLastD first).2.requests := by
  have hends : (groupEnds groups).getLastD first = rest.getLastD first := by
    rw [List.getLastD_eq_getLast?, last_group_end, h, List.getLast?_cons, Option.getD_some,
      List.getLastD_eq_getLast?]
  rw [← hends]
  exact List.getLastD_map

def summarizeEnds {α : Type} [Scalar α] (q : WindowRequest) (timed : List (TimedSnapshot α)) :
    List (PeriodSummary α) :=
  match firstAndLast? timed with
  | some (first, last) => [summarize first last q]
  | none => []

theorem ends_requests (q : WindowRequest) (first : TimedSnapshot Rat)
    (rest : List (TimedSnapshot Rat)) :
    requestsTogether (summarizeEnds q (first :: rest)) =
      windowIncrease first.2.requests (rest.getLastD first).2.requests := by
  cases rest with
  | nil => exact (window_increase_self _).symm
  | cons e more => exact add_zero _

section

variable (q q' : WindowRequest) (groups : List (List (TimedSnapshot Rat)))
  (first : TimedSnapshot Rat) (rest : List (TimedSnapshot Rat))
  (h : groups.flatten = first :: rest)
include h

theorem ends_le_groups (hreq : ∀ e ∈ first :: rest, 0 ≤ e.2.requests) :
    requestsTogether (summarizeEnds q (first :: rest)) ≤
      requestsTogether (summarizeGroups q' none groups) := by
  rw [ends_requests, groups_requests q' groups first rest h, ← last_of_ends groups first rest h]
  apply increase_le_along
  · exact hreq first List.mem_cons_self
  · intro y hy
    obtain ⟨e, he, rfl⟩ := List.mem_map.mp hy
    have hmem := (group_ends_sublist groups).subset he
    rw [h] at hmem
    exact hreq e hmem

theorem groups_eq_ends
    (hasc : (first :: rest).Pairwise fun a b => a.2.requests ≤ b.2.requests) :
    requestsTogether (summarizeGroups q' none groups) =
      requestsTogether (summarizeEnds q (first :: rest)) := by
  rw [ends_requests, groups_requests q' groups first rest h, ← last_of_ends groups first rest h]
  have hends := group_ends_sublist groups
  rw [h] at hends
  apply along_of_ascending
  rw [List.pairwise_cons, requestsSeen, List.pairwise_map]
  refine ⟨?_, hasc.sublist hends⟩
  intro y hy
  obtain ⟨e, he, rfl⟩ := List.mem_map.mp hy
  -- a first observation that is alone in its group is an end itself
  rcases List.mem_cons.mp (hends.subset he) with rfl | hmem
  · exact le_rfl
  · exact (List.pairwise_cons.mp hasc).1 e hmem

end

theorem word_kept {n : ℕ} (h : n < 2 ^ 63) : Int.bmod n (Nat.pow 2 64) = n := by
  rw [Nat.pow_eq]
  apply Int.bmod_eq_of_le
  · omega
  · omega

/-- A width that a clock can count does not wrap around. -/
theorem bucket_millis_fits {q : WindowRequest} (h : q.bucket.millis ≤ millisLimit) :
    q.bucketMillis = (max q.bucket.millis 1 : ℕ) := by
  have hlimit : millisLimit = 2 ^ 63 - 1 := rfl
  exact word_kept (by omega)

section

variable {α : Type} [Scalar α] (snapshots : List (Snapshot α)) {q : WindowRequest}
  {now start : Instant} (h : q.start? α now = some start)
include h

theorem split_started :
    summarizeSplit? snapshots q now = if q.bucket.isZero then
        some (summarizeEnds q (timedBetween start now snapshots))
      else if q.bucketMillis = 0 ∧ (timedBetween start now snapshots).isEmpty = false then none
      else some (summarizeGroups ⟨q.bucket, .zero⟩ none
        (groupByBucket start q.bucketMillis (timedBetween start now snapshots))) := by
  simp only [summarizeSplit?, h, Option.bind_some, summarizeEnds]
  cases firstAndLast? (timedBetween start now snapshots) <;> rfl

theorem whole_started (hbucket : q.bucket.isZero = true) :
    summarizeSplit? snapshots q now =
      some (summarizeEnds q (timedBetween start now snapshots)) := by
  rw [split_started snapshots h, if_pos hbucket]

theorem parts_started (hbucket : q.bucket.isZero = false)
    (hfits : q.bucket.millis ≤ millisLimit) :
    summarizeSplit? snapshots q now = some (summarizeGroups ⟨q.bucket, .zero⟩ none
      (groupByBucket start (max q.bucket.millis 1 : ℕ) (timedBetween start now snapshots))) := by
  have hwidth : q.bucketMillis ≠ 0 := by
    rw [bucket_millis_fits hfits]
    omega
  rw [split_started snapshots h, if_neg (by simp [hbucket]), if_neg (fun hzero => hwidth hzero.1),
    bucket_millis_fits hfits]

end

/-- With exact numbers the summaries of a split window have all requests of the window as
a whole; they have no others if the counter never fell between its observations. -/
theorem split_covers_window (snapshots : List (Snapshot Rat))
    (hreq : ∀ s ∈ snapshots, 0 ≤ s.requests) (since bucket : Duration)
    (hbucket : bucket.isZero = false) (hfits : bucket.millis ≤ millisLimit) (now start : Instant)
    (hstart : (WindowRequest.mk since bucket).start? Rat now = some start) :
    ∃ timed split whole, InTimeOrder start now snapshots timed ∧
      summarizeSplit? snapshots ⟨since, bucket⟩ now = some split ∧
      summarizeSplit? snapshots ⟨since, .zero⟩ now = some whole ∧ whole.length ≤ 1 ∧
      requestsTogether whole ≤ requestsTogether split ∧
      ((timed.Pairwise fun a b => a.2.requests ≤ b.2.requests) →
        requestsTogether split = requestsTogether whole) := by
  have hunsplit : (WindowRequest.mk since .zero).start? Rat now = some start := hstart
  refine ⟨_, _, _, timed_in_order start now snapshots,
    parts_started snapshots hstart hbucket hfits, whole_started snapshots hunsplit rfl, ?_, ?_⟩
  · unfold summarizeEnds
    split <;> simp
  have hflat : (groupByBucket start (max bucket.millis 1 : ℕ)
      (timedBetween start now snapshots)).flatten = timedBetween start now snapshots :=
    List.flatten_splitBy _ _
  have htimed : ∀ e ∈ timedBetween start now snapshots, 0 ≤ e.2.requests :=
    fun e he => hreq e.2 (timed_taken start now snapshots e he).2
  cases hcase : timedBetween start now snapshots with
  | nil => exact ⟨le_rfl, fun _ => rfl⟩
  | cons first rest =>
    rw [hcase] at hflat htimed
    exact ⟨ends_le_groups _ _ _ first rest hflat htimed,
      groups_eq_ends _ _ _ first rest hflat⟩

def countedAt (seconds requests : ℕ) : Snapshot Rat :=
  ⟨some (.ofSeconds seconds), requests, 0, 0, 0, [], []⟩

def fourObserved : List (Snapshot Rat) :=
  [countedAt 130 100, countedAt 10 0, countedAt 50 60, countedAt 170 160]

theorem four_observed_covered :
    (∀ s ∈ fourObserved, 0 ≤ s.requests) ∧ (Duration.ofSeconds 60).isZero = false ∧
    (Duration.ofSeconds 60).millis ≤ millisLimit ∧
    (WindowRequest.mk (.ofSeconds 300) (.ofSeconds 60)).start? Rat (.ofSeconds 300) =
      some (.ofSeconds 0) ∧
    ∃ split whole,
      summarizeSplit? fourObserved ⟨.ofSeconds 300, .ofSeconds 60⟩ (.ofSeconds 300) = some split ∧
      summarizeSplit? fourObserved ⟨.ofSeconds 300, .zero⟩ (.ofSeconds 300) = some whole ∧
      requestsTogether split = requestsTogether whole := by
  have hreq : ∀ s ∈ fourObserved, 0 ≤ s.requests := by decide +kernel
  have hfits : (Duration.ofSeconds 60).millis ≤ millisLimit := by decide +kernel
  have hstart : (WindowRequest.mk (.ofSeconds 300) (.ofSeconds 60)).start? Rat (.ofSeconds 300) =
      some (.ofSeconds 0) := by decide +kernel
  have htimed : timedBetween (.ofSeconds 0) (.ofSeconds 300) fourObserved =
      [(.ofSeconds 10, countedAt 10 0), (.ofSeconds 50, countedAt 50 60),
        (.ofSeconds 130, countedAt 130 100), (.ofSeconds 170, countedAt 170 160)] := by cbv
  obtain ⟨timed, split, whole, horder, hsplit, hwhole, -, -, hsame⟩ :=
    split_covers_window fourObserved hreq (.ofSeconds 300) (.ofSeconds 60) rfl hfits
      (.ofSeconds 300) (.ofSeconds 0) hstart
  obtain rfl := (in_order_iff _ _ _ timed).mp horder
  refine ⟨hreq, rfl, hfits, hstart, split, whole, hsplit, hwhole, hsame ?_⟩
  rw [htimed]
  decide +kernel

end ScrapeTelemetry
