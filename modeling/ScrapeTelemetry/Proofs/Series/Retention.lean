import ScrapeTelemetry.Proofs.Series.Ring
import ScrapeTelemetry.Series.Store

/-!
# What a store of series keeps

Records may come in any order of time. What is shown of an entity depends on its own
writes: of all its minutes with one remainder the latest has a point, if it is not too
old, and the point is the one written last.
-/

set_option autoImplicit false

namespace ScrapeTelemetry

variable {α β : Type}

namespace Instant

def Within (t : Instant) (m : ℤ) : Prop := ofMinute m ≤ t ∧ t < ofMinute (m + 1)

instance (t : Instant) (m : ℤ) : Decidable (t.Within m) := inferInstanceAs (Decidable (_ ∧ _))

theorem of_minute_lt (m n : ℤ) : ofMinute m < ofMinute n ↔ m < n := by
  change m * 60 * 1000000000 < n * 60 * 1000000000 ↔ m < n
  omega

theorem within_iff (t : Instant) (m : ℤ) : t.Within m ↔ t.minute = m := by
  have hminute : t.minute = t.nanos / 60000000000 := Int.fdiv_eq_ediv_of_nonneg _ (by decide)
  change m * 60 * 1000000000 ≤ t.nanos ∧ t.nanos < (m + 1) * 60 * 1000000000 ↔ t.minute = m
  rw [hminute]
  omega

end Instant

structure Write (β : Type) where
  name : String
  time : Instant
  point : β

def lastWritten (ws : List (Write β)) (name : String) (m : ℤ) : Option β :=
  (ws.filter fun w => w.name = name ∧ w.time.Within m).getLast?.map Write.point

def ownWrites (ws : List (Write β)) (name : String) : List (ℤ × β) :=
  (ws.filter fun w => w.name = name).map fun w => (w.time.minute, w.point)

theorem last_written_own (ws : List (Write β)) (name : String) (m : ℤ) :
    lastWritten ws name m = lastPoint (ownWrites ws name) m := by
  rw [lastWritten, lastPoint, ownWrites, List.filter_map, List.filter_filter, List.getLast?_map,
    Option.map_map]
  congr 2
  apply List.filter_congr
  intro w _
  simp [Instant.within_iff, Bool.and_comm]

namespace MinuteRings

def writeAll (m : MinuteRings β) (capacity : ℕ) (ws : List (Write β)) : MinuteRings β :=
  ws.foldl (fun m w => MinuteRings.write m capacity w.name w.time.minute w.point) m

/-- Every entity that was written has a ring, which its own writes made. -/
theorem find_written (capacity : ℕ) (ws : List (Write β)) (name : String) :
    (writeAll .empty capacity ws).find? name =
      if name ∈ ws.map Write.name then
        some ((MinuteRing.ofCapacity capacity).writeAll (ownWrites ws name))
      else none := by
  have hfold := KeyMap.find?_foldl_started Write.name
    (fun _ => (MinuteRing.ofCapacity capacity : MinuteRing β))
    (fun w r => r.write w.time.minute w.point) ws name
  refine hfold.trans ?_
  rw [ownWrites, MinuteRing.writeAll, List.foldl_map]
  cases hown : ws.filter fun w => w.name = name with
  | nil => rw [if_neg (by simp [KeyMap.mem_map_key, hown])]
  | cons w rest => rw [if_pos (by simp [KeyMap.mem_map_key, hown])]

theorem find_written_iff (capacity : ℕ) (ws : List (Write β)) (name : String)
    (r : MinuteRing β) :
    (writeAll .empty capacity ws).find? name = some r ↔
      name ∈ ws.map Write.name ∧
        r = (MinuteRing.ofCapacity capacity).writeAll (ownWrites ws name) := by
  rw [find_written, Option.ite_none_right_eq_some, Option.some_inj, eq_comm (b := r)]

theorem own_written (capacity : ℕ) (ws : List (Write β)) (name : String) :
    (writeAll .empty capacity (ws.filter fun w => w.name = name)).find? name =
      (writeAll .empty capacity ws).find? name := by
  have hown : ownWrites (ws.filter fun w => w.name = name) name = ownWrites ws name := by
    rw [ownWrites, List.filter_filter]
    simp [ownWrites]
  have hmem : name ∈ (ws.filter fun w => w.name = name).map Write.name ↔
      name ∈ ws.map Write.name := by
    simp
  rw [find_written, find_written, hown]
  simp only [hmem]

def seriesOf (now : ℤ) (e : String × MinuteRing β) : Option (TimeSeries β) :=
  match e.2.window now with
  | [] => none
  | points => some ⟨e.1, points.map fun p => (Instant.ofMinute p.1, p.2)⟩

theorem series_of_some (now : ℤ) (e : String × MinuteRing β) (s : TimeSeries β) :
    seriesOf now e = some s ↔ e.2.window now ≠ [] ∧
      s = ⟨e.1, (e.2.window now).map fun p => (Instant.ofMinute p.1, p.2)⟩ := by
  unfold seriesOf
  cases e.2.window now with
  | nil => simp
  | cons p rest =>
    constructor
    · intro hs
      cases hs
      exact ⟨List.cons_ne_nil p rest, rfl⟩
    · rintro ⟨-, rfl⟩
      rfl

theorem mem_window (m : MinuteRings β) (now : ℤ) (s : TimeSeries β) :
    s ∈ MinuteRings.window m now ↔ ∃ r, m.find? s.name = some r ∧ r.window now ≠ [] ∧
      s.points = (r.window now).map fun p => (Instant.ofMinute p.1, p.2) := by
  have hmem : s ∈ MinuteRings.window m now ↔ ∃ e ∈ m.toList, seriesOf now e = some s :=
    List.mem_filterMap
  rw [hmem]
  constructor
  · rintro ⟨⟨name, r⟩, he, hs⟩
    obtain ⟨hne, rfl⟩ := (series_of_some now _ s).mp hs
    exact ⟨r, (KeyMap.mem_toList _ _ _).mp he, hne, rfl⟩
  · rintro ⟨r, hr, hne, hp⟩
    refine ⟨(s.name, r), (KeyMap.mem_toList _ _ _).mpr hr, (series_of_some now _ s).mpr ⟨hne, ?_⟩⟩
    rw [← hp]

theorem window_names (m : MinuteRings β) (now : ℤ) :
    (MinuteRings.window m now).Pairwise fun a b => a.name < b.name := by
  refine List.pairwise_filterMap.mpr (m.ascending.imp ?_)
  intro a b hab s hs t ht
  rw [((series_of_some now a s).mp hs).2, ((series_of_some now b t).mp ht).2]
  exact compare_lt_iff_lt.mp hab

theorem window_of_name (m : MinuteRings β) (now : ℤ) (name : String) :
    ((MinuteRings.window m now).filter fun s => s.name = name) =
      ((m.find? name).bind fun r => seriesOf now (name, r)).toList := by
  apply KeyMap.filter_made_key m TimeSeries.name
  intro e s hs
  rw [((series_of_some now e s).mp hs).2]

end MinuteRings

/-- The series that are shown of some writes at a time: by name, each with the points of
its own entity that no later write has taken the place of. -/
structure Retained (capacity : ℕ) (ws : List (Write β)) (now : Instant)
    (shown : List (TimeSeries β)) : Prop where
  names : shown.Pairwise fun a b => a.name < b.name
  times : ∀ s ∈ shown, s.points.Pairwise fun a b => a.1 < b.1
  listed : ∀ s ∈ shown, s.points ≠ []
  point : ∀ name t v, (∃ s ∈ shown, s.name = name ∧ (t, v) ∈ s.points) ↔
    ∃ n m, now.Within n ∧ t = .ofMinute m ∧ n - capacity < m ∧ m ≤ n ∧
      lastWritten ws name m = some v ∧
      ∀ w ∈ ws, w.name = name → ∀ k, w.time.Within k → k ≡ m [ZMOD capacity] → k ≤ m
  alone : ∀ name, (shown.filter fun s => s.name = name) =
    MinuteRings.window (.writeAll .empty capacity (ws.filter fun w => w.name = name)) now.minute

namespace MinuteRings

variable (capacity : ℕ) (ws : List (Write β))

theorem written_ring (hpos : 0 < capacity) (name : String) (r : MinuteRing β)
    (h : (writeAll .empty capacity ws).find? name = some r) :
    r.Holds (ownWrites ws name) ∧ r.capacity = capacity := by
  obtain ⟨-, rfl⟩ := (find_written_iff capacity ws name r).mp h
  constructor
  · exact MinuteRing.holds_write_all _ [] _ (MinuteRing.holds_nothing capacity)
  · rw [MinuteRing.write_all_capacity]
    exact max_eq_left hpos

theorem written_of_last (name : String) (m : ℤ) (v : β) (h : lastWritten ws name m = some v) :
    ∃ r, (writeAll .empty capacity ws).find? name = some r := by
  rw [last_written_own] at h
  obtain ⟨w, hw, -⟩ := List.mem_map.mp (mem_of_last_point h)
  obtain ⟨hw, hname⟩ := List.mem_filter.mp hw
  have hmem : name ∈ ws.map Write.name := List.mem_map.mpr ⟨w, hw, of_decide_eq_true hname⟩
  exact ⟨_, (find_written_iff capacity ws name _).mpr ⟨hmem, rfl⟩⟩

theorem own_not_later (name : String) (m : ℤ) (c : ℕ) :
    (∀ p ∈ ownWrites ws name, p.1 ≡ m [ZMOD c] → p.1 ≤ m) ↔
      ∀ w ∈ ws, w.name = name → ∀ k, w.time.Within k → k ≡ m [ZMOD c] → k ≤ m := by
  simp only [ownWrites, List.forall_mem_map, List.mem_filter, decide_eq_true_eq, and_imp,
    Instant.within_iff, forall_eq']

/-- What the ring of an entity shows, said of the entity's writes. -/
theorem ring_shows (hpos : 0 < capacity) (name : String) (r : MinuteRing β)
    (hr : (writeAll .empty capacity ws).find? name = some r) (now m : ℤ) (v : β) :
    (m, v) ∈ r.window now ↔ (now - capacity < m ∧ m ≤ now) ∧ lastWritten ws name m = some v ∧
      ∀ w ∈ ws, w.name = name → ∀ k, w.time.Within k → k ≡ m [ZMOD capacity] → k ≤ m := by
  obtain ⟨hholds, hcapacity⟩ := written_ring capacity ws hpos name r hr
  rw [r.mem_window _ hholds, hcapacity, own_not_later, last_written_own]

theorem mem_points (now : Instant) (name : String) (t : Instant) (v : β) :
    (∃ s ∈ MinuteRings.window (writeAll .empty capacity ws) now.minute,
        s.name = name ∧ (t, v) ∈ s.points) ↔
      ∃ r, (writeAll .empty capacity ws).find? name = some r ∧
        ∃ m, (m, v) ∈ r.window now.minute ∧ Instant.ofMinute m = t := by
  constructor
  · rintro ⟨s, hs, rfl, hp⟩
    obtain ⟨r, hr, -, hpoints⟩ := (mem_window _ _ s).mp hs
    rw [hpoints] at hp
    obtain ⟨⟨m, u⟩, hm, he⟩ := List.mem_map.mp hp
    cases he
    exact ⟨r, hr, m, hm, rfl⟩
  · rintro ⟨r, hr, m, hm, rfl⟩
    refine ⟨⟨name, _⟩, (mem_window _ _ _).mpr ⟨r, hr, List.ne_nil_of_mem hm, rfl⟩, rfl, ?_⟩
    exact List.mem_map.mpr ⟨(m, v), hm, rfl⟩

theorem alone_named (name : String) (now : ℤ) :
    let own := MinuteRings.window (writeAll .empty capacity (ws.filter fun w => w.name = name)) now
    (own.filter fun s => s.name = name) = own := by
  apply List.filter_eq_self.mpr
  intro s hs
  obtain ⟨r, hr, -⟩ := (mem_window _ _ s).mp hs
  obtain ⟨w, hw, hname⟩ := List.mem_map.mp ((find_written_iff _ _ _ r).mp hr).1
  rw [← hname]
  exact (List.mem_filter.mp hw).2

theorem written_size : (writeAll .empty capacity ws).size = (ws.map Write.name).toFinset.card := by
  rw [← KeyMap.card_keys]
  congr 1
  ext name
  rw [List.mem_toFinset, List.mem_toFinset, KeyMap.mem_keys, find_written]
  split <;> simp_all

end MinuteRings

theorem retained_window (capacity : ℕ) (hpos : 0 < capacity) (ws : List (Write β))
    (now : Instant) :
    Retained capacity ws now (MinuteRings.window (.writeAll .empty capacity ws) now.minute) := by
  constructor
  · exact MinuteRings.window_names _ _
  · intro s hs
    obtain ⟨r, hr, -, hpoints⟩ := (MinuteRings.mem_window _ _ s).mp hs
    obtain ⟨hholds, -⟩ := MinuteRings.written_ring capacity ws hpos s.name r hr
    rw [hpoints, List.pairwise_map]
    exact (r.window_ascending _ hholds now.minute).imp fun h => (Instant.of_minute_lt _ _).mpr h
  · intro s hs
    obtain ⟨r, -, hne, hpoints⟩ := (MinuteRings.mem_window _ _ s).mp hs
    rw [hpoints]
    exact fun hc => hne (List.map_eq_nil_iff.mp hc)
  · intro name t v
    rw [MinuteRings.mem_points]
    constructor
    · rintro ⟨r, hr, m, hm, rfl⟩
      obtain ⟨⟨hold, hnew⟩, hlast, hle⟩ :=
        (MinuteRings.ring_shows capacity ws hpos name r hr _ m v).mp hm
      exact ⟨now.minute, m, (Instant.within_iff _ _).mpr rfl, rfl, hold, hnew, hlast, hle⟩
    · rintro ⟨n, m, hn, rfl, hold, hnew, hlast, hle⟩
      rw [← (Instant.within_iff _ _).mp hn] at hold hnew
      obtain ⟨r, hr⟩ := MinuteRings.written_of_last capacity ws name m v hlast
      exact ⟨r, hr, m, (MinuteRings.ring_shows capacity ws hpos name r hr _ m v).mpr
        ⟨⟨hold, hnew⟩, hlast, hle⟩, rfl⟩
  · intro name
    rw [← MinuteRings.alone_named, MinuteRings.window_of_name, MinuteRings.window_of_name,
      MinuteRings.own_written]

structure Recording (α : Type) where
  nodes : List (NodeUse α)
  slos : List (Aggregate α)
  time : Instant

def nodeWrites (l : List (Recording α)) : List (Write (UsePoint α)) :=
  l.flatMap fun r => r.nodes.map fun n => ⟨n.node, r.time, n.point⟩

def trafficWrites (l : List (Recording α)) : List (Write (TrafficPoint α)) :=
  l.flatMap fun r => r.slos.map fun s => ⟨s.seriesName, r.time, s.point⟩

namespace SeriesStore

def after (c : SeriesStore α) (l : List (Recording α)) : SeriesStore α :=
  l.foldl (fun c r => c.record r.nodes r.slos r.time) c

theorem after_eq (c : SeriesStore α) (l : List (Recording α)) :
    c.after l = ⟨c.capacity, .writeAll c.nodes c.capacity (nodeWrites l),
      .writeAll c.slos c.capacity (trafficWrites l)⟩ := by
  induction l generalizing c with
  | nil => rfl
  | cons r l ih =>
    refine (ih (c.record r.nodes r.slos r.time)).trans ?_
    simp only [record, nodeWrites, trafficWrites, MinuteRings.writeAll, List.flatMap_cons,
      List.foldl_append, List.foldl_map]

/-- After any records, in any order of time, the series of nodes and of aggregates show
what the store retains of them; every entity ever recorded has a ring. -/
theorem series_of_run (capacity : ℕ) (l : List (Recording α)) (now : Instant) :
    let store := (SeriesStore.ofCapacity capacity).after l
    Retained (max capacity 1) (nodeWrites l) now (store.nodeSeries now) ∧
      Retained (max capacity 1) (trafficWrites l) now (store.trafficSeries now) ∧
      store.ringCount = ((nodeWrites l).map Write.name).toFinset.card +
        ((trafficWrites l).map Write.name).toFinset.card := by
  intro store
  have hpos : 0 < max capacity 1 := by omega
  have hstore : store = ⟨max capacity 1, .writeAll .empty (max capacity 1) (nodeWrites l),
      .writeAll .empty (max capacity 1) (trafficWrites l)⟩ := after_eq _ l
  rw [hstore]
  refine ⟨retained_window _ hpos _ now, retained_window _ hpos _ now, ?_⟩
  rw [ringCount, MinuteRings.written_size, MinuteRings.written_size]

end SeriesStore
end ScrapeTelemetry
