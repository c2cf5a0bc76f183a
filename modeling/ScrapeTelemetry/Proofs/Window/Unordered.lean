import ScrapeTelemetry.Proofs.Window.SubWindows

/-!
# Observations in any order

Observations at different times have one order of time, whatever order they are listed in.
Those without a time or outside the window are left out before that, so nothing of them is
kept for the summaries.
-/

set_option autoImplicit false

namespace ScrapeTelemetry

variable {α : Type}

def timesInside (start now : Instant) (snapshots : List (Snapshot α)) : List Instant :=
  (snapshots.filter fun s => s.Inside start now).filterMap Snapshot.takenAt

section

variable (start now : Instant) (snapshots : List (Snapshot α))

theorem timed_times :
    ((timedBetween start now snapshots).map Prod.fst).Perm (timesInside start now snapshots) := by
  refine ((timed_perm start now snapshots).map Prod.fst).trans (.of_eq ?_)
  rw [observedInside, List.map_filterMap, timesInside]
  apply List.filterMap_congr
  intro s _
  simp [stamped?, Option.map_map, Function.comp_def]

theorem times_inside_sublist :
    (timesInside start now snapshots).Sublist (snapshots.filterMap Snapshot.takenAt) :=
  List.filter_sublist.filterMap _

end

def TimesDistinct (snapshots : List (Snapshot α)) : Prop :=
  (snapshots.filterMap Snapshot.takenAt).Nodup

instance (snapshots : List (Snapshot α)) : Decidable (TimesDistinct snapshots) :=
  inferInstanceAs (Decidable (List.Nodup _))

theorem timed_distinct (start now : Instant) {snapshots : List (Snapshot α)}
    (h : TimesDistinct snapshots) : ((timedBetween start now snapshots).map Prod.fst).Nodup :=
  (timed_times start now snapshots).nodup_iff.mpr (h.sublist (times_inside_sublist _ _ _))

/-- The order of time is the only one, so the order of the list does not matter, and what is
outside the window does not either. -/
theorem timed_unordered (start now : Instant) {snapshots changed : List (Snapshot α)}
    (hdistinct : TimesDistinct snapshots)
    (h : (changed.filter fun s => s.Inside start now).Perm
      (snapshots.filter fun s => s.Inside start now)) :
    timedBetween start now changed = timedBetween start now snapshots := by
  have hperm : (timedBetween start now changed).Perm (timedBetween start now snapshots) :=
    (timed_perm start now changed).trans
      ((h.filterMap stamped?).trans (timed_perm start now snapshots).symm)
  apply List.Perm.eq_of_pairwise _ (timed_ascending start now changed)
    (timed_ascending start now snapshots) hperm
  intro a b ha hb hab hba
  have hsame : a.1.nanos = b.1.nanos := Int.le_antisymm hab hba
  exact List.inj_on_of_nodup_map (timed_distinct start now hdistinct) (hperm.mem_iff.mp ha) hb
    (congrArg Instant.mk hsame)

variable [Scalar α]

def WindowRequest.Counts (q : WindowRequest) (now : Instant) (s : Snapshot α) : Prop :=
  ∃ start ∈ q.start? α now, s.Inside start now

instance (q : WindowRequest) (now : Instant) (s : Snapshot α) : Decidable (q.Counts now s) :=
  inferInstanceAs (Decidable (∃ start ∈ q.start? α now, s.Inside start now))

theorem counts_started {q : WindowRequest} {now start : Instant}
    (h : q.start? α now = some start) (s : Snapshot α) :
    q.Counts now s ↔ s.Inside start now := by
  simp [WindowRequest.Counts, h]

theorem split_by_timed {q : WindowRequest} {now : Instant}
    {snapshots changed : List (Snapshot α)}
    (h : ∀ start ∈ q.start? α now,
      timedBetween start now changed = timedBetween start now snapshots) :
    summarizeSplit? changed q now = summarizeSplit? snapshots q now := by
  unfold summarizeSplit?
  apply Option.bind_congr
  intro start hstart
  simp only [h start hstart]

theorem split_of_counted (q : WindowRequest) (now : Instant)
    {snapshots changed : List (Snapshot α)} (hdistinct : TimesDistinct snapshots)
    (h : (changed.filter fun s => q.Counts now s).Perm
      (snapshots.filter fun s => q.Counts now s)) :
    summarizeSplit? changed q now = summarizeSplit? snapshots q now := by
  apply split_by_timed
  intro start hstart
  simp only [counts_started hstart] at h
  exact timed_unordered start now hdistinct h

/-- Observations at different times have the same summaries in every order, and the same with
any others added or left out that have no time or lie outside the window. -/
theorem split_unordered (q : WindowRequest) (now : Instant) (snapshots : List (Snapshot α))
    (hdistinct : TimesDistinct snapshots) :
    (∀ permuted : List (Snapshot α), permuted.Perm snapshots →
      summarizeSplit? permuted q now = summarizeSplit? snapshots q now) ∧
    ∀ changed : List (Snapshot α),
      (changed.filter fun s => q.Counts now s) = (snapshots.filter fun s => q.Counts now s) →
      summarizeSplit? changed q now = summarizeSplit? snapshots q now := by
  constructor
  · intro permuted hperm
    exact split_of_counted q now hdistinct (hperm.filter _)
  · intro changed hsame
    exact split_of_counted q now hdistinct (.of_eq hsame)

def untimed (requests : Rat) : Snapshot Rat := ⟨none, requests, 0, 0, 0, [], []⟩

def fourListed : List (Snapshot Rat) :=
  [countedAt 330 100, untimed 7, countedAt 210 0, countedAt 250 60]

/-- The order changes, and what comes and goes has no time, or lies before the window or after
it. -/
theorem four_listed_shuffled :
    TimesDistinct fourListed ∧
    summarizeSplit? [untimed 7, countedAt 210 0, countedAt 250 60, countedAt 330 100]
        ⟨.ofSeconds 300, .ofSeconds 60⟩ (.ofSeconds 400) =
      summarizeSplit? fourListed ⟨.ofSeconds 300, .ofSeconds 60⟩ (.ofSeconds 400) ∧
    summarizeSplit? [countedAt 330 100, countedAt 99 8, countedAt 210 0, countedAt 401 900,
          countedAt 99 5, countedAt 250 60, untimed 70]
        ⟨.ofSeconds 300, .ofSeconds 60⟩ (.ofSeconds 400) =
      summarizeSplit? fourListed ⟨.ofSeconds 300, .ofSeconds 60⟩ (.ofSeconds 400) := by
  have hdistinct : TimesDistinct fourListed := by decide
  have hstart : (WindowRequest.mk (.ofSeconds 300) (.ofSeconds 60)).start? Rat (.ofSeconds 400) =
      some (.ofSeconds 100) := by decide +kernel
  obtain ⟨hpermuted, hchanged⟩ := split_unordered ⟨.ofSeconds 300, .ofSeconds 60⟩
    (.ofSeconds 400) _ hdistinct
  have hlater : [untimed 7, countedAt 210 0, countedAt 250 60, countedAt 330 100].Perm fourListed :=
    List.perm_append_singleton (countedAt 330 100) [untimed 7, countedAt 210 0, countedAt 250 60]
  refine ⟨hdistinct, hpermuted _ hlater, hchanged _ ?_⟩
  simp only [counts_started hstart]
  rfl

end ScrapeTelemetry
