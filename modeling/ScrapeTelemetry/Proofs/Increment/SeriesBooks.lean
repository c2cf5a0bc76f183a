import ScrapeTelemetry.Proofs.Increment.Unordered

/-!
# The books of the histogram series

Of an entity that the ledger knows, every series of a cycle is new, was reset or gives an
increment to the record. The bookkeeping of a cycle counts all of these but one kind: where
an entity shows its sum or its count for the first time, nothing is counted.
-/

set_option autoImplicit false

namespace ScrapeTelemetry
open Scalar

variable {α μ : Type}

structure SeriesEntry (α : Type) where
  entity : EntityId
  role : SeriesRole α
  before : Option α
  now : α

namespace SeriesEntry

def isBucket (s : SeriesEntry α) : Bool :=
  match s.role with
  | .bucket _ => true
  | .sum | .count => false

def isNew (s : SeriesEntry α) : Bool := s.before.isNone

variable [Scalar α]

def wentBack (s : SeriesEntry α) : Bool := s.before.any fun b => !decide (b ≤ s.now)

def hasGrown (s : SeriesEntry α) : Bool := s.before.any fun b => decide (b ≤ s.now)

end SeriesEntry

variable [Scalar α]

def Histogram.series (h : Histogram α) : SeriesRole α → Option α
  | .bucket b => h.buckets.find? b
  | .sum => some h.sum
  | .count => some h.count

def knownSeriesOf (key : EntityId) (before : Option (HistogramTotals α))
    (now : HistogramTotals α) : List (SeriesEntry α) :=
  match before with
  | none => []
  | some b =>
    now.buckets.toList.map (fun e => ⟨key, .bucket e.1, b.buckets.find? e.1, e.2⟩) ++
      (now.sum.map fun v => ⟨key, .sum, b.sum, v⟩).toList ++
      (now.count.map fun v => ⟨key, .count, b.count, v⟩).toList

def knownSeries (held : KeyMap EntityId (HistogramTotals α))
    (now : KeyMap EntityId (μ × HistogramTotals α)) : List (SeriesEntry α) :=
  now.toList.flatMap fun e => knownSeriesOf e.1 (held.find? e.1) e.2.2

def newEntities (held : KeyMap EntityId (HistogramTotals α))
    (now : KeyMap EntityId (μ × HistogramTotals α)) : ℕ :=
  now.toList.countP fun e => (held.find? e.1).isNone

/-- What the bookkeeping of a cycle owes to the series of the cycle. -/
structure SeriesBooks (held : KeyMap EntityId (HistogramTotals α))
    (now : KeyMap EntityId (μ × HistogramTotals α)) (records : List (HistogramIncrement μ α))
    (counts : OutcomeCounts) : Prop where
  single : ((knownSeries held now).map fun s => (s.entity, s.role)).Nodup
  firstSeen : counts.firstSeen = newEntities held now +
    (knownSeries held now).countP fun s => s.isNew && s.isBucket
  resets : counts.resets = (knownSeries held now).countP SeriesEntry.wentBack
  recorded : ∀ s ∈ knownSeries held now, ∀ b, s.before = some b → b ≤ s.now →
    ∃ r ∈ records, r.key = s.entity ∧
      r.histogram.series s.role = some (0 + zeroUnlessFinite (s.now - b))

/-- A series is new, went back or has grown; where it is new, it is a bucket or it is not. -/
theorem series_entry_split (s : SeriesEntry α) :
    (if s.isNew && s.isBucket then 1 else 0) + (if s.wentBack then 1 else 0) +
      (if s.hasGrown then 1 else 0) + (if s.isNew && !s.isBucket then 1 else 0) = 1 := by
  unfold SeriesEntry.isNew SeriesEntry.wentBack SeriesEntry.hasGrown
  cases s.before with
  | none => cases s.isBucket <;> rfl
  | some b => by_cases h : b ≤ s.now <;> simp [h]

theorem series_split (l : List (SeriesEntry α)) :
    (l.countP fun s => s.isNew && s.isBucket) + l.countP SeriesEntry.wentBack +
      l.countP SeriesEntry.hasGrown + (l.countP fun s => s.isNew && !s.isBucket) =
      l.length := by
  induction l with
  | nil => rfl
  | cons s l ih =>
    have hs := series_entry_split s
    simp only [List.countP_cons, List.length_cons]
    omega

theorem first_seen_of (before : Option α) (v : α) :
    (Outcome.of before v).isFirstSeen = before.isNone := by
  cases before with
  | none => rfl
  | some b => by_cases h : b ≤ v <;> simp [Outcome.of, Outcome.isFirstSeen, increment?, h]

theorem reset_of (before : Option α) (v : α) :
    (Outcome.of before v).isReset = before.any fun b => !decide (b ≤ v) := by
  cases before with
  | none => rfl
  | some b => by_cases h : b ≤ v <;> simp [Outcome.of, Outcome.isReset, increment?, h]

theorem grown_iff (before now : Option α) (d : α) :
    grown? before now = some d ↔
      ∃ b v, before = some b ∧ now = some v ∧ b ≤ v ∧ zeroUnlessFinite (v - b) = d := by
  cases before with
  | none => simp [grown?]
  | some b => cases now <;> simp [grown?]

namespace HistogramTotals

/-- A new sum and a new count are left out of the outcomes. -/
theorem outcomes_entries (key : EntityId) (before now : HistogramTotals α) :
    outcomes before now =
      ((knownSeriesOf key (some before) now).filter fun s => s.isBucket || !s.isNew).map fun s =>
        .of s.before s.now := by
  have hbuckets : ((now.buckets.toList.map fun e =>
      (⟨key, .bucket e.1, before.buckets.find? e.1, e.2⟩ : SeriesEntry α)).filter
        fun s => s.isBucket || !s.isNew).map (fun s => Outcome.of s.before s.now) =
      (bucketOutcomes before now).map Prod.snd := by
    rw [List.filter_map, bucketOutcomes, List.map_map, List.map_map]
    exact congrArg _ (List.filter_true _)
  have htotal (role : SeriesRole α) (x y : Option α)
      (hrole : role = .sum ∨ role = .count) :
      (((y.map fun v => (⟨key, role, x, v⟩ : SeriesEntry α)).toList.filter
        fun s => s.isBucket || !s.isNew).map fun s => Outcome.of s.before s.now) =
      (totalOutcome x y).toList := by
    rcases hrole with rfl | rfl <;> cases x <;> cases y <;>
      simp [totalOutcome, SeriesEntry.isBucket, SeriesEntry.isNew]
  rw [knownSeriesOf, List.filter_append, List.filter_append, List.map_append, List.map_append,
    hbuckets, htotal .sum _ _ (.inl rfl), htotal .count _ _ (.inr rfl), outcomes]

theorem mem_known_series [DecidableEq α] (key : EntityId) (held : Option (HistogramTotals α))
    (now : HistogramTotals α) (s : SeriesEntry α) :
    s ∈ knownSeriesOf key held now ↔ s.entity = key ∧ ∃ before, held = some before ∧
      s.before = before.series s.role ∧ now.series s.role = some s.now := by
  cases held with
  | none => simp [knownSeriesOf]
  | some before =>
    obtain ⟨k, r, b, v⟩ := s
    cases r <;> simp [knownSeriesOf, series, KeyMap.mem_toList] <;> grind

/-- A series that has grown adds its increment to the record. -/
theorem increments_series [DecidableEq α] (before now : HistogramTotals α) (r : SeriesRole α)
    (d : α) (h : grown? (before.series r) (now.series r) = some d) :
    (increments before now).series r = some (0 + d) := by
  cases r with
  | bucket b =>
    obtain ⟨x, v, hbefore, hnow, -⟩ := (grown_iff _ _ _).mp h
    show (increments before now).buckets.find? b = _
    rw [hbefore, hnow] at h
    rw [increments_bucket, hbefore, hnow, Option.bind_some, Option.map_some, h, Option.getD_some]
  | sum =>
    rw [increments_eq]
    exact congrArg (fun o => some (o.elim 0 (0 + ·))) h
  | count =>
    rw [increments_eq]
    exact congrArg (fun o => some (o.elim 0 (0 + ·))) h

/-- No series of an entity stands twice in its books. -/
theorem known_series_single [DecidableEq α] (key : EntityId) (before now : HistogramTotals α) :
    ((knownSeriesOf key (some before) now).map fun s => (s.entity, s.role)).Nodup := by
  have hbuckets : (now.buckets.toList.map
      ((fun b => (key, SeriesRole.bucket b)) ∘ Prod.fst)).Nodup := by
    rw [← List.map_map]
    apply (KeyMap.keys_nodup now.buckets).map
    intro b b' h
    simpa using h
  have hcomp : ((fun s : SeriesEntry α => (s.entity, s.role)) ∘ fun e : UpperBound α × α =>
      ⟨key, .bucket e.1, before.buckets.find? e.1, e.2⟩) =
      (fun b => (key, SeriesRole.bucket b)) ∘ Prod.fst := rfl
  rw [knownSeriesOf, List.map_append, List.map_append, List.map_map, hcomp]
  cases now.sum <;> cases now.count <;> simp [List.nodup_append, hbuckets] <;> grind

end HistogramTotals

namespace HistogramLedger

theorem entity_first_seen (f : HistogramLedger α) (key : EntityId) (now : HistogramTotals α) :
    (f.entityStats key now).firstSeen =
      (if (f.previous.find? key).isNone then 1 else 0) +
        (knownSeriesOf key (f.previous.find? key) now).countP fun s => s.isNew && s.isBucket := by
  unfold entityStats
  cases f.previous.find? key with
  | none => rfl
  | some before =>
    simp only [HistogramTotals.outcomes_entries key, List.countP_map, List.countP_filter,
      Option.isNone_some, Bool.false_eq_true, ↓reduceIte, Nat.zero_add]
    congr 1
    funext s
    rw [Function.comp_apply, first_seen_of]
    show (s.isNew && (s.isBucket || !s.isNew)) = (s.isNew && s.isBucket)
    cases s.isNew <;> simp

theorem entity_resets (f : HistogramLedger α) (key : EntityId) (now : HistogramTotals α) :
    (f.entityStats key now).resets =
      (knownSeriesOf key (f.previous.find? key) now).countP SeriesEntry.wentBack := by
  unfold entityStats
  cases f.previous.find? key with
  | none => rfl
  | some before =>
    simp only [HistogramTotals.outcomes_entries key, List.countP_map, List.countP_filter]
    congr 1
    funext s
    rw [Function.comp_apply, reset_of, SeriesEntry.isNew, SeriesEntry.wentBack]
    cases s.before <;> simp

theorem stats_first_seen (f : HistogramLedger α)
    (current : KeyMap EntityId (μ × HistogramTotals α)) :
    (f.stats current).firstSeen = newEntities f.previous current +
      (knownSeries f.previous current).countP fun s => s.isNew && s.isBucket := by
  rw [stats_total f current OutcomeCounts.firstSeen rfl fun _ _ => rfl, newEntities, knownSeries]
  induction current.toList with
  | nil => rfl
  | cons e l ih =>
    have hentity := f.entity_first_seen e.1 e.2.2
    rw [List.map_cons, List.sum_cons, ih, List.countP_cons, List.flatMap_cons, List.countP_append]
    omega

theorem stats_resets (f : HistogramLedger α)
    (current : KeyMap EntityId (μ × HistogramTotals α)) :
    (f.stats current).resets =
      (knownSeries f.previous current).countP SeriesEntry.wentBack := by
  rw [stats_total f current OutcomeCounts.resets rfl fun _ _ => rfl, knownSeries,
    List.countP_flatMap]
  simp only [entity_resets, Function.comp_def]

end HistogramLedger

theorem mem_all_known_series [DecidableEq α] (held : KeyMap EntityId (HistogramTotals α))
    (now : KeyMap EntityId (μ × HistogramTotals α)) (s : SeriesEntry α) :
    s ∈ knownSeries held now ↔ ∃ before m totals, held.find? s.entity = some before ∧
      now.find? s.entity = some (m, totals) ∧
      s.before = before.series s.role ∧ totals.series s.role = some s.now := by
  rw [knownSeries, List.mem_flatMap]
  constructor
  · rintro ⟨⟨key, m, totals⟩, he, hs⟩
    obtain ⟨rfl, before, hheld, hvalue⟩ := (HistogramTotals.mem_known_series _ _ _ _).mp hs
    exact ⟨before, m, totals, hheld, (KeyMap.mem_toList _ _ _).mp he, hvalue⟩
  · rintro ⟨before, m, totals, hheld, hnow, hvalue⟩
    exact ⟨(s.entity, m, totals), (KeyMap.mem_toList _ _ _).mpr hnow,
      (HistogramTotals.mem_known_series _ _ _ _).mpr ⟨rfl, before, hheld, hvalue⟩⟩

theorem known_series_nodup [DecidableEq α] (held : KeyMap EntityId (HistogramTotals α))
    (now : KeyMap EntityId (μ × HistogramTotals α)) :
    ((knownSeries held now).map fun s => (s.entity, s.role)).Nodup := by
  rw [knownSeries, List.map_flatMap, List.nodup_flatMap]
  constructor
  · intro e _
    cases held.find? e.1 with
    | none => exact List.nodup_nil
    | some before => exact HistogramTotals.known_series_single e.1 before e.2.2
  · have hentity (e : EntityId × μ × HistogramTotals α) (p : EntityId × SeriesRole α)
        (hp : p ∈ (knownSeriesOf e.1 (held.find? e.1) e.2.2).map fun s => (s.entity, s.role)) :
        p.1 = e.1 := by
      obtain ⟨s, hs, rfl⟩ := List.mem_map.mp hp
      exact ((HistogramTotals.mem_known_series _ _ _ s).mp hs).1
    apply (List.pairwise_map.mp (KeyMap.keys_nodup now)).imp
    intro e e' hne p hp hp'
    exact hne ((hentity e p hp).symm.trans (hentity e' p hp'))

theorem grown_series_recorded [DecidableEq α] (f : HistogramLedger α)
    (current : KeyMap EntityId (μ × HistogramTotals α)) (s : SeriesEntry α)
    (hs : s ∈ knownSeries f.previous current) (b : α) (hb : s.before = some b)
    (hle : b ≤ s.now) :
    ∃ r ∈ f.recordsOf current, r.key = s.entity ∧
      r.histogram.series s.role = some (0 + zeroUnlessFinite (s.now - b)) := by
  obtain ⟨before, m, totals, hheld, hcurrent, hbefore, hnow⟩ :=
    (mem_all_known_series _ _ s).mp hs
  have hgrown : grown? (before.series s.role) (totals.series s.role) =
      some (zeroUnlessFinite (s.now - b)) :=
    (grown_iff _ _ _).mpr ⟨b, s.now, hbefore.symm.trans hb, hnow, hle, rfl⟩
  have hproduces : HistogramTotals.produces before totals = true :=
    (HistogramTotals.produces_iff _ _).mpr ⟨s.role, Option.isSome_of_eq_some hgrown⟩
  have hrecord := (mem_histogram_records f current
    ⟨s.entity, m, HistogramTotals.increments before totals⟩).mpr
      ⟨before, totals, hheld, hcurrent, hproduces, rfl⟩
  exact ⟨_, hrecord, rfl, HistogramTotals.increments_series before totals s.role _ hgrown⟩

theorem step_series [DecidableEq α] (f : HistogramLedger α)
    (current : KeyMap EntityId (μ × HistogramTotals α)) :
    SeriesBooks f.previous current (f.step current).2.1 (f.step current).2.2 where
  single := known_series_nodup _ _
  firstSeen := f.stats_first_seen current
  resets := f.stats_resets current
  recorded := grown_series_recorded f current

/-- The counts fall short of the series by the sums and the counts that are new. -/
theorem SeriesBooks.total {held : KeyMap EntityId (HistogramTotals α)}
    {now : KeyMap EntityId (μ × HistogramTotals α)} {records : List (HistogramIncrement μ α)}
    {counts : OutcomeCounts} (h : SeriesBooks held now records counts) :
    counts.firstSeen + counts.resets + (knownSeries held now).countP SeriesEntry.hasGrown +
        ((knownSeries held now).countP fun s => s.isNew && !s.isBucket) =
      newEntities held now + (knownSeries held now).length := by
  have hsplit := series_split (knownSeries held now)
  have hfirst := h.firstSeen
  have hresets := h.resets
  omega

theorem SeriesBooks.all_counted_iff {held : KeyMap EntityId (HistogramTotals α)}
    {now : KeyMap EntityId (μ × HistogramTotals α)} {records : List (HistogramIncrement μ α)}
    {counts : OutcomeCounts} (h : SeriesBooks held now records counts) :
    counts.firstSeen + counts.resets + (knownSeries held now).countP SeriesEntry.hasGrown =
        newEntities held now + (knownSeries held now).length ↔
      ∀ s ∈ knownSeries held now, s.before = none → s.isBucket = true := by
  have htotal := h.total
  have hnone : ((knownSeries held now).countP fun s => s.isNew && !s.isBucket) = 0 ↔
      ∀ s ∈ knownSeries held now, s.before = none → s.isBucket = true := by
    simp [List.countP_eq_zero, SeriesEntry.isNew]
  rw [← hnone]
  omega

/-- Before each cycle the totals of the cycle before are held, and nothing else. -/
theorem totals_held (cycles : List (KeyMap EntityId (μ × HistogramTotals α))) (n : ℕ)
    (h : n ≤ cycles.length) :
    (stateAfter HistogramLedger.step .empty (cycles.take n)).previous =
      unrouted (inputBefore .empty cycles n) :=
  last_input_holds HistogramLedger.step
    (fun (f : HistogramLedger α) current => f.previous = unrouted current) .empty .empty rfl
    (fun _ _ => rfl) cycles n h

/-- In every cycle of a run a new entity counts once, and of a known one every new bucket
counts as new, every series that went back counts as reset and every other series that the
cycle before had gives its increment to the record. These are all series of the known
entities exactly if none of them shows its sum or its count for the first time. -/
theorem series_accounted [DecidableEq α]
    (cycles : List (KeyMap EntityId (μ × HistogramTotals α)))
    (n : Fin cycles.length) :
    ∃ records counts,
      (outputs HistogramLedger.step .empty cycles)[n.val]? = some (records, counts) ∧
      SeriesBooks (unrouted (inputBefore .empty cycles n)) cycles[n] records counts ∧
      (counts.firstSeen + counts.resets +
          (knownSeries (unrouted (inputBefore .empty cycles n)) cycles[n]).countP
            SeriesEntry.hasGrown =
          newEntities (unrouted (inputBefore .empty cycles n)) cycles[n] +
            (knownSeries (unrouted (inputBefore .empty cycles n)) cycles[n]).length ↔
        ∀ s ∈ knownSeries (unrouted (inputBefore .empty cycles n)) cycles[n],
          s.before = none → s.isBucket = true) := by
  have hbooks :=
    step_series (stateAfter HistogramLedger.step .empty (cycles.take n)) cycles[n]
  rw [totals_held cycles n n.isLt.le] at hbooks
  exact ⟨_, _, output_at HistogramLedger.step .empty cycles n n.isLt, hbooks,
    hbooks.all_counted_iff⟩

def lateSumCycles : List (KeyMap EntityId (MeshRouting × HistogramTotals Float)) :=
  let flow : MeshFlow :=
    ⟨.inbound, "web-1", ⟨"shop", "web"⟩, ⟨"shop", "web"⟩, "200", none, none, none⟩
  let bucket (v : Float) : TrafficSample Float := .meshTiming ⟨flow, .bucket (.finite 100), v⟩
  let sum (v : Float) : TrafficSample Float := .meshTiming ⟨flow, .sum, v⟩
  [mergeHistograms (meshTimingsOf [bucket 10]), mergeHistograms (meshTimingsOf [bucket 12, sum 50])]

/-- A sum that comes late is no new series, no reset and no increment. -/
theorem late_sum_uncounted :
    ¬ ∀ (cycles : List (KeyMap EntityId (MeshRouting × HistogramTotals Float)))
      (n : Fin cycles.length) (out : List (HistogramIncrement MeshRouting Float) × OutcomeCounts),
      (outputs HistogramLedger.step .empty cycles)[n.val]? = some out →
      out.2.firstSeen + out.2.resets +
          (knownSeries (unrouted (inputBefore .empty cycles n)) cycles[n]).countP
            SeriesEntry.hasGrown =
        newEntities (unrouted (inputBefore .empty cycles n)) cycles[n] +
          (knownSeries (unrouted (inputBefore .empty cycles n)) cycles[n]).length := by
  intro h
  have hcounted := h lateSumCycles ⟨1, by decide⟩ _
    (output_at HistogramLedger.step .empty lateSumCycles 1 (by decide))
  exact absurd hcounted (by decide +kernel)

end ScrapeTelemetry
