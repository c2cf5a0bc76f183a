import ScrapeTelemetry.Proofs.Clock.Calendar
import ScrapeTelemetry.Proofs.Pipeline.Bookkeeping
import ScrapeTelemetry.Proofs.Traffic.Business
import ScrapeTelemetry.Replay

/-!
# When the files of a replay are collected

A replay moves its time on by one interval after every file, the last one included. So
its files have their times if and only if a clock shows the first of them and the time
after the last; the others lie between. Else the replay leaves the calendar, also where
only the time after the last file is not shown.
-/

set_option autoImplicit false

namespace ScrapeTelemetry

theorem probes_of_checked {c : Settings} (h : c.fault? = none) :
    ∀ p ∈ c.filter.probePaths, (Pattern.ofText? p).isSome := by
  unfold Settings.fault? at h
  split at h
  · cases h
  split at h
  · cases h
  split at h
  · cases h
  split at h
  · cases h
  · rename_i hnone
    intro p hp
    have hread := List.find?_eq_none.mp hnone p hp
    simpa only [Bool.not_eq_true, Option.isNone_eq_false_iff] using hread

theorem pipeline_of_checked {c : Settings} (h : c.fault? = none) (recognizer : Recognizer) :
    ∃ p : Pipeline Float, Pipeline.ofSettings c recognizer = .ok p := by
  obtain ⟨filter, hfilter⟩ := BusinessFilter.of_readable (probes_of_checked h)
  have hchecked : c.checked = .ok c := by rw [Settings.checked, h]
  simp only [Pipeline.ofSettings, hchecked, hfilter, bind, Except.bind]
  exact ⟨_, rfl⟩

namespace Replay

def shifted (t : Instant) (interval : Duration) (n : Int) : Instant :=
  ⟨t.nanos + n * interval.nanos⟩

section
variable (t : Instant) (interval : Duration)

theorem shifted_zero : shifted t interval 0 = t := by
  simp [shifted]

theorem shifted_shifted (m n : Int) :
    shifted (shifted t interval m) interval n = shifted t interval (m + n) := by
  rw [shifted, shifted, shifted, Instant.mk.injEq]
  ring

theorem shifted_mono {m n : Int} (h : m ≤ n) :
    shifted t interval m ≤ shifted t interval n := by
  have hmul := Int.mul_le_mul_of_nonneg_right h (Int.natCast_nonneg interval.nanos)
  exact Int.add_le_add_left hmul _

/-- From `n - 1` intervals before a time, `n` intervals lead to the next one. -/
theorem after_last (n : Int) :
    shifted (shifted t interval (-(n - 1))) interval n = shifted t interval 1 := by
  rw [shifted_shifted]
  congr 1
  omega

theorem shifted_injective (hinterval : 0 < interval.nanos) {m n : Int}
    (h : shifted t interval m = shifted t interval n) : m = n := by
  have hnanos := congrArg Instant.nanos h
  have hmul : m * interval.nanos = n * interval.nanos := Int.add_left_cancel hnanos
  exact Int.eq_of_mul_eq_mul_right (by omega) hmul

theorem later_intervals (n : Int) :
    later t (n * interval.nanos) =
      if (shifted t interval n).isShown then .ok (shifted t interval n)
      else .error .offCalendar := by
  unfold later Instant.plus? shifted
  cases hshown : Instant.isShown ⟨t.nanos + n * interval.nanos⟩ <;> simp [hshown]

end

theorem shown_after {t : Instant} {interval : Duration} (h : t.isShown = true) (n : ℕ) :
    (shifted t interval n).isShown = true ↔ shifted t interval n ≤ Instant.latest := by
  have hfirst := shifted_mono t interval (Int.natCast_nonneg n)
  rw [shifted_zero] at hfirst
  rw [shown_iff]
  exact and_iff_right (Int.le_trans ((shown_iff t).mp h).1 hfirst)

structure CollectedFrom (t : Instant) (interval : Duration) (paths : List String)
    (cycles : List ReplayedFile) : Prop where
  files : cycles.map ReplayedFile.file = paths
  times : ∀ i (h : i < cycles.length), cycles[i].collectedAt = shifted t interval i

theorem CollectedFrom.cons {t : Instant} {interval : Duration} {paths : List String}
    {cycles : List ReplayedFile} (first : ReplayedFile) (hfirst : first.collectedAt = t)
    (h : CollectedFrom (shifted t interval 1) interval paths cycles) :
    CollectedFrom t interval (first.file :: paths) (first :: cycles) where
  files := by rw [List.map_cons, h.files]
  times := by
    intro i hi
    cases i with
    | zero => exact hfirst.trans (shifted_zero t interval).symm
    | succ i =>
      have hlater := h.times i (Nat.lt_of_succ_lt_succ hi)
      rw [shifted_shifted] at hlater
      rw [List.getElem_cons_succ, hlater, Nat.cast_succ, Int.add_comm]

section
variable {interval : Duration} {files : Files} {path text : String}

theorem feed_shown (p : Progress) (htext : (files path).read = .ok text)
    (hnext : (shifted p.next interval 1).isShown = true) :
    ∃ q first, p.feed interval files path = .ok q ∧ q.next = shifted p.next interval 1 ∧
      q.cycles = p.cycles ++ [first] ∧ first.file = path ∧ first.collectedAt = p.next := by
  have hlater := later_intervals p.next interval 1
  rw [Int.one_mul, if_pos hnext] at hlater
  simp only [Progress.feed, htext, hlater, bind, Except.bind]
  exact ⟨_, _, rfl, rfl, rfl, rfl, rfl⟩

theorem feed_hidden (p : Progress) (htext : (files path).read = .ok text)
    (hnext : (shifted p.next interval 1).isShown = false) :
    p.feed interval files path = .error .offCalendar := by
  have hlater := later_intervals p.next interval 1
  rw [Int.one_mul, hnext] at hlater
  simp only [Progress.feed, htext, hlater, bind, Except.bind]
  rfl

/-- As long as a clock shows the time after the last file, all files are fed. -/
theorem feed_all_shown (paths : List String) (p : Progress)
    (hread : ∀ path ∈ paths, ∃ text, (files path).read = .ok text)
    (hshown : p.next.isShown = true)
    (hend : shifted p.next interval paths.length ≤ Instant.latest) :
    ∃ q cycles, p.feedAll interval files paths = .ok q ∧ q.cycles = p.cycles ++ cycles ∧
      CollectedFrom p.next interval paths cycles := by
  induction paths generalizing p with
  | nil => exact ⟨p, [], rfl, (List.append_nil _).symm, rfl, fun i h => absurd h (by simp)⟩
  | cons path rest ih =>
    obtain ⟨text, htext⟩ := hread path List.mem_cons_self
    have hnext : (shifted p.next interval 1).isShown = true := by
      refine (shown_after hshown 1).mpr (Int.le_trans (shifted_mono _ _ ?_) hend)
      rw [List.length_cons]
      omega
    obtain ⟨q, first, hfeed, hq, hcycles, rfl, hfirst⟩ := feed_shown p htext hnext
    rw [List.length_cons, Nat.cast_succ, Int.add_comm, ← shifted_shifted, ← hq] at hend
    obtain ⟨r, cycles, hrest, hr, hcollected⟩ :=
      ih q (fun path hpath => hread path (List.mem_cons_of_mem _ hpath)) (hq ▸ hnext) hend
    refine ⟨r, first :: cycles, ?_, ?_, ?_⟩
    · rw [Progress.feedAll, hfeed]
      exact hrest
    · rw [hr, hcycles, List.append_assoc, List.singleton_append]
    · exact .cons first hfirst (hq ▸ hcollected)

/-- Else the replay stops, if not at a file then after the last. -/
theorem feed_all_hidden (paths : List String) (p : Progress)
    (hread : ∀ path ∈ paths, ∃ text, (files path).read = .ok text)
    (hshown : p.next.isShown = true)
    (hend : ¬ shifted p.next interval paths.length ≤ Instant.latest) :
    p.feedAll interval files paths = .error .offCalendar := by
  induction paths generalizing p with
  | nil =>
    rw [List.length_nil, Nat.cast_zero, shifted_zero] at hend
    exact absurd ((shown_iff p.next).mp hshown).2 hend
  | cons path rest ih =>
    obtain ⟨text, htext⟩ := hread path List.mem_cons_self
    rw [Progress.feedAll]
    cases hnext : (shifted p.next interval 1).isShown with
    | false =>
      rw [feed_hidden p htext hnext]
      rfl
    | true =>
      obtain ⟨q, -, hfeed, hq, -⟩ := feed_shown p htext hnext
      rw [List.length_cons, Nat.cast_succ, Int.add_comm, ← shifted_shifted, ← hq] at hend
      rw [hfeed]
      exact ih q (fun path hpath => hread path (List.mem_cons_of_mem _ hpath)) (hq ▸ hnext) hend

end

def firstTime (stop : Instant) (interval : Duration) (n : ℕ) : Instant :=
  shifted stop interval (-intervalsBetween n)

theorem intervals_between {n : ℕ} (hpos : 0 < n) (hcount : n ≤ 2 ^ 31) :
    intervalsBetween n = n - 1 := by
  unfold intervalsBetween
  rw [Nat.pow_eq, Int.bmod_eq_of_le] <;> omega

theorem first_time (stop : Instant) (interval : Duration) {n : ℕ} (hpos : 0 < n)
    (hcount : n ≤ 2 ^ 31) : firstTime stop interval n = shifted stop interval (-(n - 1)) := by
  rw [firstTime, intervals_between hpos hcount]

theorem intervals_between_wrap {n : ℕ} (hcount : 2 ^ 31 < n) : intervalsBetween n ≠ n - 1 := by
  have hlt : Int.bmod (n - 1 : ℕ) (2 ^ 32) < ((2 ^ 32 : ℕ) + 1) / 2 :=
    Int.bmod_lt (Nat.two_pow_pos 32)
  unfold intervalsBetween
  rw [Nat.pow_eq]
  omega

section
variable {config : Settings} (hvalid : config.fault? = none) {files : Files}
  {paths : List String} (hread : ∀ path ∈ paths, ∃ text, (files path).read = .ok text)
  (node : Option String) {stop first : Instant}
  (hfirst : firstTime stop config.timing.scrapeInterval paths.length = first)

include hvalid in
theorem replay_out_of_range (files : Files) (paths : List String) (stop : Instant)
    (hlimit : intervalLimit < config.timing.scrapeInterval.nanos) :
    replay config files paths node stop = .error (.failed (.settings .intervalOutOfRange)) := by
  obtain ⟨pipeline, hpipeline⟩ := pipeline_of_checked hvalid ⟨node⟩
  simp only [replay, hpipeline, bind, Except.bind, if_pos hlimit]

include hvalid hfirst in
theorem replay_within_range (hlimit : ¬ intervalLimit < config.timing.scrapeInterval.nanos)
    (files : Files) :
    ∃ pipeline, replay config files paths node stop =
      if first.isShown then
        ((Progress.mk pipeline first [] none).feedAll config.timing.scrapeInterval files
          paths).map fun q => q.report stop
      else .error .offCalendar := by
  obtain ⟨pipeline, hpipeline⟩ := pipeline_of_checked hvalid ⟨node⟩
  have hlater := later_intervals stop config.timing.scrapeInterval (-intervalsBetween paths.length)
  rw [← firstTime, hfirst] at hlater
  refine ⟨pipeline, ?_⟩
  simp only [replay, hpipeline, bind, Except.bind, if_neg hlimit, ← Int.neg_mul, hlater]
  cases first.isShown with
  | false => rfl
  | true => rfl

include hvalid hread hfirst in
theorem replay_reports (hlimit : ¬ intervalLimit < config.timing.scrapeInterval.nanos)
    (hshown : first.isShown = true)
    (hend : shifted first config.timing.scrapeInterval paths.length ≤ Instant.latest) :
    ∃ report, replay config files paths node stop = .ok report ∧
      CollectedFrom first config.timing.scrapeInterval paths report.cycles := by
  obtain ⟨pipeline, hreplay⟩ := replay_within_range hvalid node hfirst hlimit files
  obtain ⟨q, cycles, hfeed, hcycles, hcollected⟩ :=
    feed_all_shown paths (.mk pipeline first [] none) hread hshown hend
  refine ⟨q.report stop, ?_, ?_⟩
  · rw [hreplay, if_pos hshown, hfeed]
    rfl
  · rw [Progress.report, hcycles]
    exact hcollected

include hvalid hread hfirst in
theorem replay_leaves (hlimit : ¬ intervalLimit < config.timing.scrapeInterval.nanos)
    (hout : ¬ (first.isShown = true ∧
      shifted first config.timing.scrapeInterval paths.length ≤ Instant.latest)) :
    replay config files paths node stop = .error .offCalendar := by
  obtain ⟨pipeline, hreplay⟩ := replay_within_range hvalid node hfirst hlimit files
  rw [hreplay]
  cases hshown : first.isShown with
  | false => rfl
  | true =>
    rw [if_pos rfl, feed_all_hidden paths (.mk pipeline first [] none) hread hshown
      fun hend => hout ⟨hshown, hend⟩]
    rfl

end

/-- Cycles of files in their order, one interval apart, the last at `stop`. -/
structure CollectedUpTo (stop : Instant) (interval : Duration) (paths : List String)
    (cycles : List ReplayedFile) : Prop where
  files : cycles.map ReplayedFile.file = paths
  times : ∀ i (h : i < cycles.length),
    cycles[i].collectedAt = shifted stop interval (-(paths.length - 1 - i))
  last : cycles.getLast?.map ReplayedFile.collectedAt = some stop

def Answers (stop : Instant) (interval : Duration) (paths : List String) :
    Except ReplayStop ReplayRecord → Prop
  | .ok report => CollectedUpTo stop interval paths report.cycles
  | .error (.failed _) => True
  | .error .offCalendar => False

def ShownAround (stop : Instant) (interval : Duration) (n : ℕ) : Prop :=
  Instant.earliest ≤ shifted stop interval (-(n - 1)) ∧
    shifted stop interval 1 ≤ Instant.latest

instance (stop : Instant) (interval : Duration) (n : ℕ) :
    Decidable (ShownAround stop interval n) :=
  inferInstanceAs (Decidable (_ ∧ _))

section
variable {stop first : Instant} {interval : Duration} {paths : List String}
  {cycles : List ReplayedFile}

theorem CollectedFrom.length (h : CollectedFrom first interval paths cycles) :
    cycles.length = paths.length := by
  rw [← h.files, List.length_map]

theorem CollectedFrom.upTo (hpaths : paths ≠ [])
    (h : CollectedFrom (shifted stop interval (-(paths.length - 1))) interval paths cycles) :
    CollectedUpTo stop interval paths cycles := by
  have htimes : ∀ i (hi : i < cycles.length),
      cycles[i].collectedAt = shifted stop interval (-(paths.length - 1 - i)) := by
    intro i hi
    rw [h.times i hi, shifted_shifted]
    congr 1
    omega
  refine ⟨h.files, htimes, ?_⟩
  have hpos : 0 < cycles.length := h.length ▸ List.length_pos_iff.mpr hpaths
  have hlast : -((paths.length : ℤ) - 1 - (cycles.length - 1 : ℕ)) = 0 := by
    rw [← h.length]
    omega
  rw [List.getLast?_eq_getElem?, List.getElem?_eq_getElem (Nat.sub_one_lt_of_lt hpos),
    Option.map_some, htimes, hlast, shifted_zero]

theorem CollectedFrom.first_of_upTo (hpaths : paths ≠ [])
    (h : CollectedFrom first interval paths cycles)
    (hup : CollectedUpTo stop interval paths cycles) :
    first = shifted stop interval (-(paths.length - 1)) := by
  have hpos : 0 < cycles.length := h.length ▸ List.length_pos_iff.mpr hpaths
  have htime := h.times 0 hpos
  rw [hup.times 0 hpos, Nat.cast_zero, Int.sub_zero, shifted_zero] at htime
  exact htime.symm

theorem shown_around_iff (hstop : stop.isShown = true) {n : ℕ} (hpos : 0 < n) :
    (shifted stop interval (-(n - 1))).isShown = true ∧
        shifted (shifted stop interval (-(n - 1))) interval n ≤ Instant.latest ↔
      ShownAround stop interval n := by
  have hle := shifted_mono stop interval (show -((n : ℤ) - 1) ≤ 0 by omega)
  rw [shifted_zero] at hle
  have hlatest := Int.le_trans hle ((shown_iff stop).mp hstop).2
  rw [after_last, shown_iff]
  exact and_congr_left fun _ => and_iff_left hlatest

end

/-- Files that cannot be counted start at another time than theirs. -/
theorem miscounted_not_answered {config : Settings} (hvalid : config.fault? = none)
    {files : Files} {paths : List String} (hpaths : paths ≠ [])
    (hread : ∀ path ∈ paths, ∃ text, (files path).read = .ok text) (node : Option String)
    (stop : Instant) (hlimit : ¬ intervalLimit < config.timing.scrapeInterval.nanos)
    (hcount : 2 ^ 31 < paths.length) :
    ¬ Answers stop config.timing.scrapeInterval paths (replay config files paths node stop) := by
  by_cases hshown : (firstTime stop config.timing.scrapeInterval paths.length).isShown = true ∧
      shifted (firstTime stop config.timing.scrapeInterval paths.length)
        config.timing.scrapeInterval paths.length ≤ Instant.latest
  · obtain ⟨report, hreport, hcollected⟩ :=
      replay_reports hvalid hread node rfl hlimit hshown.1 hshown.2
    rw [hreport]
    intro hanswer
    have hfirst := shifted_injective stop _ (Pipeline.checked_interval hvalid)
      (hcollected.first_of_upTo hpaths hanswer)
    exact intervals_between_wrap hcount (neg_inj.mp hfirst)
  · rw [replay_leaves hvalid hread node rfl hlimit hshown]
    exact id

def minuteLimit : ℕ := (2 ^ 63 - 1) / 64

/-- Settings that pass their check and ask for no series that cannot be allocated. The check
itself refuses only a series of no minutes. -/
structure Allocatable (config : Settings) : Prop where
  checked : config.fault? = none
  minutes : config.ringCapacity ≤ minuteLimit

/-- A replay of readable files under settings that pass their check ends with a value if
and only if the interval is out of range, or the files can be counted and a clock shows the
first time and the one after the last file. A replay of files that can be counted leaves the
calendar otherwise. -/
theorem replay_answers_iff (config : Settings) (hvalid : Allocatable config)
    (files : Files)
    (paths : List String) (hpaths : paths ≠ [])
    (hread : ∀ path ∈ paths, ∃ text, (files path).read = .ok text) (node : Option String)
    (stop : Instant) (hstop : stop.isShown = true) :
    (Answers stop config.timing.scrapeInterval paths (replay config files paths node stop) ↔
      intervalLimit < config.timing.scrapeInterval.nanos ∨
        paths.length ≤ 2 ^ 31 ∧
          ShownAround stop config.timing.scrapeInterval paths.length) ∧
    (paths.length ≤ 2 ^ 31 →
      Answers stop config.timing.scrapeInterval paths (replay config files paths node stop) ∨
        replay config files paths node stop = .error .offCalendar) := by
  by_cases hlimit : intervalLimit < config.timing.scrapeInterval.nanos
  · rw [replay_out_of_range hvalid.checked node files paths stop hlimit]
    exact ⟨iff_of_true trivial (.inl hlimit), fun _ => .inl trivial⟩
  have hpos := List.length_pos_iff.mpr hpaths
  by_cases hcount : paths.length ≤ 2 ^ 31
  · have hfirst := first_time stop config.timing.scrapeInterval hpos hcount
    by_cases hshown : ShownAround stop config.timing.scrapeInterval paths.length
    · obtain ⟨hstart, hend⟩ := (shown_around_iff hstop hpos).mpr hshown
      obtain ⟨report, hreport, hcollected⟩ :=
        replay_reports hvalid.checked hread node hfirst hlimit hstart hend
      have hanswer := hcollected.upTo hpaths
      rw [hreport]
      exact ⟨iff_of_true hanswer (.inr ⟨hcount, hshown⟩), fun _ => .inl hanswer⟩
    · rw [replay_leaves hvalid.checked hread node hfirst hlimit
        (mt (shown_around_iff hstop hpos).mp hshown)]
      exact ⟨iff_of_false id fun h => h.elim hlimit fun h => hshown h.2, fun _ => .inr rfl⟩
  · have hwrong := miscounted_not_answered hvalid.checked hpaths hread node stop hlimit
      (Nat.lt_of_not_le hcount)
    exact ⟨iff_of_false hwrong fun h => h.elim hlimit fun h => hcount h.1,
      fun h => absurd h hcount⟩

theorem minute_replay_answers :
    Allocatable Pipeline.shopSettings ∧ ["1.prom", "2.prom"] ≠ [] ∧
      (∀ path ∈ ["1.prom", "2.prom"], ∃ text, (FileContent.text path).read = .ok text) ∧
      (Instant.ofSeconds 60).isShown = true ∧
      ShownAround (.ofSeconds 60) (.ofSeconds 15) 2 ∧
      Answers (.ofSeconds 60) (.ofSeconds 15) ["1.prom", "2.prom"]
        (replay Pipeline.shopSettings FileContent.text ["1.prom", "2.prom"] (some "n1")
          (.ofSeconds 60)) := by
  have hvalid : Allocatable Pipeline.shopSettings := ⟨rfl, by decide⟩
  have hpaths : ["1.prom", "2.prom"] ≠ [] := List.cons_ne_nil _ _
  have hread : ∀ path ∈ ["1.prom", "2.prom"], ∃ text, (FileContent.text path).read = .ok text :=
    fun path _ => ⟨path, rfl⟩
  have hstop : (Instant.ofSeconds 60).isShown = true := by decide
  have hshown : ShownAround (.ofSeconds 60) (.ofSeconds 15) 2 := by decide
  have hanswers := (replay_answers_iff Pipeline.shopSettings hvalid FileContent.text _ hpaths hread
    (some "n1") _ hstop).1.mpr (.inr ⟨by decide, hshown⟩)
  exact ⟨hvalid, hpaths, hread, hstop, hshown, hanswers⟩

def slowSettings : Settings :=
  { timing := { scrapeInterval := .ofSeconds 10000000000000 }, filter := { probePaths := [] } }

/-- A single file has its time, but the replay moves on to one that no clock shows. -/
theorem lone_file_leaves :
    ¬ ∀ (config : Settings) (files : Files) (paths : List String) (node : Option String)
        (stop : Instant),
      config.fault? = none → paths ≠ [] →
        (∀ path ∈ paths, ∃ text, (files path).read = .ok text) → stop.isShown = true →
        Answers stop config.timing.scrapeInterval paths
          (replay config files paths node stop) := by
  intro h
  have hread : ∀ path ∈ ["1.prom"], ∃ text, (FileContent.text path).read = .ok text :=
    fun path _ => ⟨path, rfl⟩
  have hleaves : replay slowSettings FileContent.text ["1.prom"] none (.ofSeconds 0) =
      .error .offCalendar :=
    replay_leaves rfl hread none rfl (by decide) (by decide)
  have hanswers := h slowSettings FileContent.text ["1.prom"] none (.ofSeconds 0) rfl
    (List.cons_ne_nil _ _) hread (by decide)
  rw [hleaves] at hanswers
  exact hanswers

end Replay
end ScrapeTelemetry
