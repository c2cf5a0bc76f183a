import ScrapeTelemetry.Proofs.Node.Rates
import ScrapeTelemetry.Proofs.Slo.Finite

/-!
# Finite node figures

Shares and rates are guarded, and the total is a reading. What is in use is the total less
what is available, and has no finite value only where less than nothing is available.
-/

set_option autoImplicit false

namespace ScrapeTelemetry
open Scalar

variable {α : Type} [Scalar α]

def NodeUse.numbers (u : NodeUse α) : List α :=
  [u.cpuShare, u.memory.share, u.memory.used, u.memory.total, u.diskReadRate, u.diskWriteRate,
    u.networkReceiveRate, u.networkTransmitRate]

namespace NodeTotals

structure MemoryOf (readings : List (NodeReading α)) (c : NodeTotals α) : Prop where
  total : ∀ v, c.memoryTotal = some v → ∃ r ∈ readings, r.value = v
  available : ∀ v, c.memoryAvailable = some v →
    ∃ r ∈ readings, r.series = .memoryAvailable ∧ r.value = v

theorem memory_of_add {readings : List (NodeReading α)} {c : NodeTotals α}
    (h : MemoryOf readings c) {r : NodeReading α} (hr : r ∈ readings) :
    MemoryOf readings (c.add r.series r.value) := by
  cases hs : r.series with
  | memoryTotal => exact ⟨fun v hv => ⟨r, hr, Option.some.inj hv⟩, h.available⟩
  | memoryAvailable => exact ⟨h.total, fun v hv => ⟨r, hr, hs, Option.some.inj hv⟩⟩
  | cpuSeconds | diskReadBytes | diskWrittenBytes => exact ⟨h.total, h.available⟩
  | networkReceiveBytes | networkTransmitBytes =>
    unfold NodeTotals.add
    simp only
    split <;> exact ⟨h.total, h.available⟩

theorem memory_of_readings (readings : List (NodeReading α)) :
    MemoryOf readings (readings.foldl (fun c r => c.add r.series r.value) .zero) := by
  apply List.foldlRecOn readings _ (motive := MemoryOf readings)
  · constructor <;> exact fun v h => absurd h (Option.some_ne_none v).symm
  · exact fun c hc r hr => memory_of_add hc hr

theorem memory_finite [ZeroNeutral α] (c : NodeTotals α)
    (htotal : ∀ v, c.memoryTotal = some v → isFinite v = true) :
    isFinite c.memory.share = true ∧ isFinite c.memory.total = true := by
  have hzero : isFinite (0 : α) = true := ZeroNeutral.zero_finite
  unfold memory
  split
  · rename_i total available ht _
    split
    · exact ⟨share_finite _ _, htotal total ht⟩
    · exact ⟨hzero, larger_finite (htotal total ht) hzero⟩
  · rename_i total ht _
    exact ⟨hzero, larger_finite (htotal total ht) hzero⟩
  · exact ⟨hzero, hzero⟩

theorem used_finite (c : NodeTotals Float)
    (htotal : ∀ v, c.memoryTotal = some v → isFinite v = true)
    (havailable : ∀ v, c.memoryAvailable = some v → isFinite v = true ∧ ¬ v < 0) :
    isFinite c.memory.used = true := by
  unfold memory
  split
  · rename_i total available ht ha
    split
    · rename_i hpos
      obtain ⟨hfinite, hsign⟩ := havailable available ha
      obtain ⟨_, hamount⟩ := amount_of_sign (htotal total ht) (sign_of_not_lt (float_lt_asymm hpos))
      obtain ⟨_, hless⟩ := amount_of_sign hfinite (sign_of_not_lt hsign)
      exact larger_finite (difference_finite hamount hless) ZeroNeutral.zero_finite
    · exact ZeroNeutral.zero_finite
  · exact ZeroNeutral.zero_finite
  · exact ZeroNeutral.zero_finite

end NodeTotals

namespace NodeMonitor

theorem mem_own_readings (readings : List (NodeReading α)) (k : String) (r : NodeReading α) :
    r ∈ ownReadings readings k ↔ r ∈ readings ∧ isFinite r.value = true ∧ r.node = k := by
  rw [ownReadings, List.mem_filter, List.mem_filter, decide_eq_true_eq, and_assoc]

/-- A node that is reported has its memory from its own finite readings. -/
theorem use_of_readings (m : NodeMonitor α) (readings : List (NodeReading α)) (t : Instant)
    {u : NodeUse α} (hu : u ∈ (m.step readings t).2) :
    ∃ c, u = .between u.node t (m.previous.find? u.node) c ∧
      NodeTotals.MemoryOf (ownReadings readings u.node) c := by
  obtain ⟨c, hfind, hbetween⟩ := m.merged_of_use readings t hu
  refine ⟨c, hbetween, ?_⟩
  rw [find_merged] at hfind
  split at hfind
  · cases hfind
  · rw [← Option.some.inj hfind]
    exact NodeTotals.memory_of_readings _

theorem between_memory (k : String) (t : Instant) (before? : Option (NodeTotals α × Instant))
    (now : NodeTotals α) : (NodeUse.between k t before? now).memory = now.memory := by
  cases before? <;> rfl

theorem between_finite_iff [ZeroNeutral α] (k : String) (t : Instant)
    (before? : Option (NodeTotals α × Instant)) (now : NodeTotals α)
    (htotal : ∀ v, now.memoryTotal = some v → isFinite v = true) :
    (∀ x ∈ (NodeUse.between k t before? now).numbers, isFinite x = true) ↔
      isFinite (NodeUse.between k t before? now).memory.used = true := by
  have hzero : isFinite (0 : α) = true := ZeroNeutral.zero_finite
  obtain ⟨hshare, hmemory⟩ := now.memory_finite htotal
  rw [between_memory]
  simp only [NodeUse.numbers, between_memory, List.forall_mem_cons]
  constructor
  · exact fun h => h.2.2.1
  · intro hused
    cases before? with
    | none =>
      exact ⟨hzero, hshare, hused, hmemory, hzero, hzero, hzero, hzero, List.forall_mem_nil _⟩
    | some b =>
      exact ⟨share_finite _ _, hshare, hused, hmemory, rate_finite _ _ _, rate_finite _ _ _,
        rate_finite _ _ _, rate_finite _ _ _, List.forall_mem_nil _⟩

theorem total_finite {readings : List (NodeReading α)} {k : String} {c : NodeTotals α}
    (h : NodeTotals.MemoryOf (ownReadings readings k) c) :
    ∀ v, c.memoryTotal = some v → isFinite v = true := by
  intro v hv
  obtain ⟨r, hr, rfl⟩ := h.total v hv
  exact ((mem_own_readings _ _ r).mp hr).2.1

/-- A node shows only finite numbers if and only if its memory in use is finite. -/
theorem use_finite_iff [ZeroNeutral α] (m : NodeMonitor α) (readings : List (NodeReading α))
    (t : Instant) {u : NodeUse α} (hu : u ∈ (m.step readings t).2) :
    (∀ x ∈ u.numbers, isFinite x = true) ↔ isFinite u.memory.used = true := by
  obtain ⟨c, hu, hmemory⟩ := use_of_readings m readings t hu
  rw [hu]
  exact between_finite_iff _ _ _ c (total_finite hmemory)

/-- Where the memory in use is not finite, a reading says that less than none is available. -/
theorem negative_available (m : NodeMonitor Float) (readings : List (NodeReading Float))
    (t : Instant) {u : NodeUse Float} (hu : u ∈ (m.step readings t).2)
    (hused : isFinite u.memory.used = false) :
    ∃ r ∈ readings, r.node = u.node ∧ r.series = .memoryAvailable ∧ r.value < 0 := by
  obtain ⟨c, hu, hmemory⟩ := use_of_readings m readings t hu
  rw [hu, between_memory] at hused
  by_contra hnone
  have hfinite : isFinite c.memory.used = true := by
    apply NodeTotals.used_finite c (total_finite hmemory)
    intro v hv
    obtain ⟨r, hr, hseries, rfl⟩ := hmemory.available v hv
    obtain ⟨hr, hvalue, hnode⟩ := (mem_own_readings _ _ r).mp hr
    exact ⟨hvalue, fun hneg => hnone ⟨r, hr, hnode, hseries, hneg⟩⟩
  rw [hfinite] at hused
  exact Bool.noConfusion hused

end NodeMonitor
end ScrapeTelemetry
