import ScrapeTelemetry.Increment.CounterLedger
import ScrapeTelemetry.Proofs.KeyMap.Folds
import ScrapeTelemetry.Proofs.Traffic.Families

/-!
# One cycle of counters

What a ledger of counters makes of two scrapes in a row: which keys get a record,
with which increment, what is held for the next cycle, and how the bookkeeping adds
up. Nothing is assumed of the numbers; a sum may overflow or have no value.
-/

set_option autoImplicit false

namespace ScrapeTelemetry
open Scalar

variable {α μ : Type}

def keysOf (samples : List (Contribution μ α)) : List EntityId :=
  samples.map Contribution.key

theorem outcome_counted (o : Outcome α) :
    (if o.isFirstSeen then 1 else 0) + (if o.isReset then 1 else 0) +
      (if o.increment?.isSome then 1 else 0) = 1 := by
  cases o <;> rfl

variable [Scalar α]

def mergedValue (samples : List (Contribution μ α)) (k : EntityId) : α :=
  ((samples.filter fun s => s.key = k).map Contribution.value).foldl (· + ·) 0

def CounterLedger.Holds (f : CounterLedger α) (samples : List (Contribution μ α)) : Prop :=
  ∀ k, f.previous.find? k =
    if k ∈ keysOf samples then some (mergedValue samples k) else none

def contributed (samples : List (Contribution μ α)) : Counters α :=
  ⟨(keysOf samples).toFinset, mergedValue samples⟩

/-- What one cycle owes to its own counters and to those of the cycle before. -/
structure CounterCycle (before now : Counters α) (records : List (CounterIncrement μ α))
    (counts : OutcomeCounts) (held : CounterLedger α) : Prop where
  single : (records.map CounterIncrement.key).Nodup
  emitted : ∀ k, k ∈ records.map CounterIncrement.key ↔
    k ∈ before.keys ∧ k ∈ now.keys ∧ before.value k ≤ now.value k
  amount : ∀ r ∈ records, r.amount = zeroUnlessFinite (now.value r.key - before.value r.key)
  holds : ∀ k, held.previous.find? k = if k ∈ now.keys then some (now.value k) else none
  first_seen : counts.firstSeen = (now.keys \ before.keys).card
  resets : counts.resets =
    ((now.keys ∩ before.keys).filter fun k => ¬ before.value k ≤ now.value k).card
  counted : counts.records = records.length
  accounted : counts.firstSeen + counts.resets + counts.records = now.keys.card

theorem outcome_increment (p : Option α) (v d : α) :
    (Outcome.of p v).increment? = some d ↔
      ∃ b, p = some b ∧ b ≤ v ∧ zeroUnlessFinite (v - b) = d := by
  cases p with
  | none => simp [Outcome.of, Outcome.increment?]
  | some b =>
    by_cases h : b ≤ v <;> simp [Outcome.of, increment?, Outcome.increment?, h]

theorem merge_counters_find (samples : List (Contribution μ α)) (k : EntityId) :
    ((mergeCounters samples).find? k).map Prod.snd =
      if k ∈ keysOf samples then some (mergedValue samples k) else none := by
  unfold mergedValue
  rw [List.foldl_map]
  exact KeyMap.find?_merge Contribution.key Contribution.routing 0
    (fun x s => x + s.value) samples k

theorem merged_entry_iff (samples : List (Contribution μ α)) (k : EntityId) (p : α → Prop) :
    (∃ e, (mergeCounters samples).find? k = some e ∧ p e.2) ↔
      k ∈ keysOf samples ∧ p (mergedValue samples k) := by
  have hfind := merge_counters_find samples k
  by_cases hk : k ∈ keysOf samples
  · rw [if_pos hk, Option.map_eq_some_iff] at hfind
    obtain ⟨e, he, hvalue⟩ := hfind
    simp [he, hk, ← hvalue]
  · rw [if_neg hk, Option.map_eq_none_iff] at hfind
    simp [hfind, hk]

theorem merge_counters_keys (samples : List (Contribution μ α)) :
    ((mergeCounters samples).toList.map Prod.fst).toFinset = (keysOf samples).toFinset := by
  ext k
  have hfind := merge_counters_find samples k
  rw [List.mem_toFinset, List.mem_toFinset, List.mem_map]
  constructor
  · rintro ⟨⟨j, e⟩, he, rfl⟩
    rw [(KeyMap.mem_toList _ _ _).mp he] at hfind
    by_contra hk
    simp [hk] at hfind
  · intro hk
    rw [if_pos hk, Option.map_eq_some_iff] at hfind
    obtain ⟨e, he, -⟩ := hfind
    exact ⟨(k, e), (KeyMap.mem_toList _ _ _).mpr he, rfl⟩

theorem merge_counters_size (samples : List (Contribution μ α)) :
    (mergeCounters samples).toList.length = (keysOf samples).toFinset.card := by
  rw [← merge_counters_keys]
  exact (KeyMap.card_keys _).symm

theorem empty_holds : (CounterLedger.empty : CounterLedger α).Holds
    ([] : List (Contribution μ α)) := by
  intro k
  simp [CounterLedger.empty, keysOf]

theorem step_holds (f : CounterLedger α) (now : List (Contribution μ α)) :
    (f.step (mergeCounters now)).1.Holds now := by
  intro k
  rw [← merge_counters_find]
  exact KeyMap.find?_mapValues _ _ k

theorem records_key_sublist (f : CounterLedger α) (current : KeyMap EntityId (μ × α)) :
    ((f.recordsOf current).map CounterIncrement.key).Sublist
      (current.toList.map Prod.fst) := by
  unfold CounterLedger.recordsOf
  induction current.toList with
  | nil => simp
  | cons e l ih =>
    cases h : (f.outcome e.1 e.2.2).increment? with
    | none => simpa [h] using ih.cons e.1
    | some d => simpa [h] using ih

theorem mem_records (f : CounterLedger α) (current : KeyMap EntityId (μ × α))
    (r : CounterIncrement μ α) :
    r ∈ f.recordsOf current ↔ ∃ v, current.find? r.key = some (r.routing, v) ∧
      (f.outcome r.key v).increment? = some r.amount := by
  simp only [CounterLedger.recordsOf, List.mem_filterMap, Option.map_eq_some_iff]
  constructor
  · rintro ⟨⟨k, m, v⟩, he, d, hd, rfl⟩
    exact ⟨v, (KeyMap.mem_toList _ _ _).mp he, hd⟩
  · rintro ⟨v, hv, hd⟩
    exact ⟨(r.key, r.routing, v), (KeyMap.mem_toList _ _ _).mpr hv, r.amount, hd, rfl⟩

/-- Every key is new, was reset or has a record, and only one of these. -/
theorem counts_total (f : CounterLedger α) (current : KeyMap EntityId (μ × α)) :
    (f.stats current).firstSeen + (f.stats current).resets + (f.stats current).records =
      current.toList.length := by
  simp only [CounterLedger.stats, CounterLedger.recordsOf, List.length_filterMap_eq_countP,
    Option.isSome_map]
  induction current.toList with
  | nil => rfl
  | cons e l ih =>
    have he := outcome_counted (f.outcome e.1 e.2.2)
    simp only [List.countP_cons, List.length_cons]
    omega

theorem record_grown (f : CounterLedger α) (before now : List (Contribution μ α))
    (h : f.Holds before) (r : CounterIncrement μ α)
    (hr : r ∈ f.recordsOf (mergeCounters now)) :
    (r.key ∈ keysOf before ∧ r.key ∈ keysOf now ∧
      mergedValue before r.key ≤ mergedValue now r.key) ∧
    r.amount = zeroUnlessFinite (mergedValue now r.key - mergedValue before r.key) := by
  obtain ⟨v, hv, hd⟩ := (mem_records _ _ _).mp hr
  obtain ⟨b, hb, hle, hamount⟩ := (outcome_increment _ _ _).mp hd
  have hn := merge_counters_find now r.key
  rw [hv] at hn
  rw [h] at hb
  split at hn <;> simp_all

theorem grown_recorded (f : CounterLedger α) (before now : List (Contribution μ α))
    (h : f.Holds before) (k : EntityId) (hb : k ∈ keysOf before) (hn : k ∈ keysOf now)
    (hle : mergedValue before k ≤ mergedValue now k) :
    ∃ r ∈ f.recordsOf (mergeCounters now), r.key = k := by
  have hk := merge_counters_find now k
  rw [if_pos hn, Option.map_eq_some_iff] at hk
  obtain ⟨⟨m, v⟩, hv, rfl⟩ := hk
  have hd := (outcome_increment _ _ _).mpr ⟨_, (h k).trans (if_pos hb), hle, rfl⟩
  exact ⟨⟨k, m, _⟩, (mem_records _ _ _).mpr ⟨_, hv, hd⟩, rfl⟩

theorem outcome_first_seen (p : Option α) (v : α) :
    (Outcome.of p v).isFirstSeen = true ↔ p = none := by
  cases p with
  | none => simp [Outcome.of, Outcome.isFirstSeen]
  | some b => by_cases h : b ≤ v <;> simp [Outcome.of, increment?, Outcome.isFirstSeen, h]

theorem outcome_reset (p : Option α) (v : α) :
    (Outcome.of p v).isReset = true ↔ ∃ b, p = some b ∧ ¬ b ≤ v := by
  cases p with
  | none => simp [Outcome.of, Outcome.isReset]
  | some b => by_cases h : b ≤ v <;> simp [Outcome.of, increment?, Outcome.isReset, h]

theorem first_seen_keys (f : CounterLedger α) (before now : List (Contribution μ α))
    (h : f.Holds before) :
    (f.stats (mergeCounters now)).firstSeen =
      ((keysOf now).toFinset \ (keysOf before).toFinset).card := by
  apply KeyMap.countP_card
  intro k
  rw [merged_entry_iff now k fun v => (f.outcome k v).isFirstSeen = true]
  simp [CounterLedger.outcome, outcome_first_seen, h k]

theorem reset_keys (f : CounterLedger α) (before now : List (Contribution μ α))
    (h : f.Holds before) :
    (f.stats (mergeCounters now)).resets =
      (((keysOf now).toFinset ∩ (keysOf before).toFinset).filter fun k =>
        ¬ mergedValue before k ≤ mergedValue now k).card := by
  apply KeyMap.countP_card
  intro k
  rw [merged_entry_iff now k fun v => (f.outcome k v).isReset = true]
  simp [CounterLedger.outcome, outcome_reset, h k, and_assoc]

/-- A ledger that holds the scrape before makes of its own scrape what it should. -/
theorem counter_step (f : CounterLedger α) (before now : List (Contribution μ α))
    (h : f.Holds before) :
    CounterCycle (contributed before) (contributed now) (f.recordsOf (mergeCounters now))
      (f.stats (mergeCounters now)) (f.step (mergeCounters now)).1 := by
  constructor
  case single => exact (records_key_sublist _ _).nodup (KeyMap.keys_nodup _)
  case emitted =>
    intro k
    rw [List.mem_map, contributed, contributed, List.mem_toFinset, List.mem_toFinset]
    constructor
    · rintro ⟨r, hr, rfl⟩
      exact (record_grown f before now h r hr).1
    · rintro ⟨hb, hn, hle⟩
      exact grown_recorded f before now h k hb hn hle
  case amount => exact fun r hr => (record_grown f before now h r hr).2
  case holds =>
    intro k
    simp only [contributed, List.mem_toFinset]
    exact step_holds f now k
  case first_seen => exact first_seen_keys f before now h
  case resets => exact reset_keys f before now h
  case counted => rfl
  case accounted => rw [counts_total, merge_counters_size, contributed]

end ScrapeTelemetry
