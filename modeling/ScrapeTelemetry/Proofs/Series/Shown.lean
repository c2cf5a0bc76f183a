import ScrapeTelemetry.Proofs.Series.Ring

/-!
# What a ring shows

A window can be read minute by minute: a minute is shown where its slot holds it. So there are
no more points than slots. With nothing written ahead of its end, a window has every minute of
its own that was ever written, whatever the order: what could have taken a slot is more than a
whole turn of the ring away.
-/

set_option autoImplicit false

namespace ScrapeTelemetry

variable {β : Type}

theorem last_point_of_mem {ws : List (ℤ × β)} {w : ℤ × β} (h : w ∈ ws) :
    ∃ v, lastPoint ws w.1 = some v := by
  have hown : w ∈ ws.filter fun u => u.1 = w.1 := List.mem_filter.mpr ⟨h, by simp⟩
  rw [lastPoint, List.getLast?_eq_some_getLast (List.ne_nil_of_mem hown)]
  exact ⟨_, rfl⟩

namespace MinuteRing

variable (r : MinuteRing β)

def at? (m : ℤ) : Option (ℤ × β) := (r.slots.find? (r.slotOf m)).filter fun e => e.1 = m

def scan (now : ℤ) : List (ℤ × β) :=
  (List.range r.capacity).filterMap fun i : ℕ => r.at? (now - r.capacity + 1 + i)

theorem at_some_iff (m : ℤ) (e : ℤ × β) :
    r.at? m = some e ↔ r.slots.find? (r.slotOf m) = some e ∧ e.1 = m := by
  rw [at?, Option.filter_eq_some_iff, decide_eq_true_eq]

theorem mem_scan (now m : ℤ) (v : β) :
    (m, v) ∈ r.scan now ↔ (now - r.capacity < m ∧ m ≤ now) ∧
      r.slots.find? (r.slotOf m) = some (m, v) := by
  simp only [scan, List.mem_filterMap, List.mem_range, at_some_iff]
  constructor
  · rintro ⟨i, hi, hfind, rfl⟩
    exact ⟨by omega, hfind⟩
  · rintro ⟨⟨hold, hnew⟩, hfind⟩
    have hminute : now - r.capacity + 1 + ((m - now + r.capacity - 1).toNat : ℤ) = m := by omega
    refine ⟨(m - now + r.capacity - 1).toNat, by omega, ?_⟩
    rw [hminute]
    exact ⟨hfind, rfl⟩

theorem scan_ascending (now : ℤ) : (r.scan now).Pairwise fun a b => a.1 < b.1 := by
  rw [scan, List.pairwise_filterMap]
  apply List.pairwise_lt_range.imp
  intro i j hij a ha b hb
  rw [((r.at_some_iff _ a).mp ha).2, ((r.at_some_iff _ b).mp hb).2]
  omega

/-- The points that are held and lie in the window are those met on the way through it. -/
theorem window_eq_scan (ws : List (ℤ × β)) (h : r.Holds ws) (now : ℤ) :
    r.window now = r.scan now := by
  have : Std.Antisymm fun a b : ℤ × β => a.1 < b.1 := ⟨fun a b hab hba => absurd hba hab.asymm⟩
  have : Std.Irrefl fun a b : ℤ × β => a.1 < b.1 := ⟨fun a => lt_irrefl a.1⟩
  apply List.Pairwise.eq_of_mem_iff (r.window_ascending ws h now) (r.scan_ascending now)
  rintro ⟨m, v⟩
  rw [r.mem_window ws h, r.mem_scan, r.held_iff ws h]

theorem scan_length_le (now : ℤ) : (r.scan now).length ≤ r.capacity :=
  (List.length_filterMap_le _ _).trans_eq List.length_range

/-- No minute of the window shares its slot with a later one up to its end. -/
theorem latest_in_window {capacity : ℕ} {now m n : ℤ} (hold : now - capacity < m) (hnew : n ≤ now)
    (h : n ≡ m [ZMOD capacity]) : n ≤ m := by
  by_contra hlater
  have hturn := Int.le_of_dvd (by omega) h.symm.dvd
  omega

/-- The points of a window: in order of time, no more than there are slots, and of each minute
the last one written, unless a later minute has its slot. -/
structure Shows (capacity : ℕ) (ws : List (ℤ × β)) (now : ℤ) (shown : List (ℤ × β)) : Prop where
  ascending : shown.Pairwise fun a b => a.1 < b.1
  length_le : shown.length ≤ capacity
  mem_iff : ∀ m v, (m, v) ∈ shown ↔ (now - capacity < m ∧ m ≤ now) ∧ lastPoint ws m = some v ∧
    ∀ w ∈ ws, w.1 ≡ m [ZMOD capacity] → w.1 ≤ m
  complete : (∀ w ∈ ws, w.1 ≤ now) → ∀ w ∈ ws, now - capacity < w.1 → ∃ v, (w.1, v) ∈ shown

/-- After any writes, in any order, a window shows just the minutes that no later one has
replaced, each with its last point; and all of its minutes if none was written ahead of it. -/
theorem window_of_writes (capacity : ℕ) (ws : List (ℤ × β)) (now : ℤ) :
    Shows (max capacity 1) ws now (((ofCapacity capacity).writeAll ws).window now) := by
  have hholds : ((ofCapacity capacity).writeAll ws).Holds ws :=
    holds_write_all _ [] ws (holds_nothing capacity)
  have hcapacity : ((ofCapacity capacity).writeAll ws : MinuteRing β).capacity = max capacity 1 :=
    write_all_capacity _ ws
  have hmem := fun m v => mem_window _ ws hholds now m v
  rw [hcapacity] at hmem
  constructor
  case ascending => exact window_ascending _ ws hholds now
  case length_le =>
    rw [window_eq_scan _ ws hholds, ← hcapacity]
    exact scan_length_le _ now
  case mem_iff => exact hmem
  case complete =>
    intro hahead w hw hold
    obtain ⟨v, hlast⟩ := last_point_of_mem hw
    refine ⟨v, (hmem w.1 v).mpr ⟨⟨hold, hahead w hw⟩, hlast, fun u hu hsame => ?_⟩⟩
    exact latest_in_window hold (hahead u hu) hsame

end MinuteRing
end ScrapeTelemetry
