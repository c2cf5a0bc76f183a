import ScrapeTelemetry.Proofs.Node.Memory
import ScrapeTelemetry.Proofs.Number.Shares

/-!
# Memory in use within the total

The memory of a node is two gauges, scraped apart, that need not agree. Where more is
available than there is, none is in use. Where less than none is available, more is in use
than there is.
-/

set_option autoImplicit false

namespace ScrapeTelemetry
open Scalar

variable {α : Type} [Scalar α]

inductive MemoryGauge where
  | total
  | available

namespace MemoryGauge

def quantity : MemoryGauge → NodeQuantity
  | total => .memoryTotal
  | available => .memoryAvailable

def held (g : MemoryGauge) (c : NodeTotals α) : Option α :=
  match g with
  | total => c.memoryTotal
  | available => c.memoryAvailable

def lastOf (g : MemoryGauge) (readings : List (NodeReading α)) (node : String) : Option α :=
  ((readings.filter fun r => r.node = node ∧ isFinite r.value ∧ r.series = g.quantity).map
    NodeReading.value).getLast?

theorem held_add (g : MemoryGauge) (c : NodeTotals α) (q : NodeQuantity) (v : α) :
    g.held (c.add q v) = if q = g.quantity then some v else g.held c := by
  cases g <;> cases q <;>
    first
      | rfl
      | (rename_i device
         by_cases h : device = "lo" <;> simp [held, quantity, NodeTotals.add, isLoopback, h])

theorem held_foldl (g : MemoryGauge) (readings : List (NodeReading α)) (c : NodeTotals α) :
    g.held (readings.foldl (fun c r => c.add r.series r.value) c) =
      ((readings.filter fun r => r.series = g.quantity).map
        NodeReading.value).getLast?.or (g.held c) := by
  induction readings using List.reverseRecOn with
  | nil => rfl
  | append_singleton readings r ih =>
    rw [List.foldl_concat, held_add, ih]
    by_cases h : r.series = g.quantity <;> simp [h]

theorem held_merged (g : MemoryGauge) {readings : List (NodeReading α)} {k : String}
    {c : NodeTotals α} (h : (NodeMonitor.mergeCounters readings).find? k = some c) :
    g.held c = g.lastOf readings k := by
  rw [NodeMonitor.find_merged] at h
  split at h
  · cases h
  · have hnone : g.held (.zero : NodeTotals α) = none := by cases g <;> rfl
    rw [← Option.some.inj h, held_foldl, hnone, Option.or_none, lastOf,
      NodeMonitor.ownReadings, List.filter_filter, List.filter_filter]
    congr 3
    funext r
    by_cases hnode : r.node = k <;> simp [hnode, Bool.and_comm]

end MemoryGauge

def GaugesAgree (total? available? : Option Rat) : Prop :=
  ∀ total ∈ total?, ∀ available ∈ available?, 0 < total → 0 ≤ available

namespace NodeTotals

theorem memory_measured {c : NodeTotals Rat} {total available : Rat}
    (ht : c.memoryTotal = some total) (ha : c.memoryAvailable = some available)
    (hpos : 0 < total) :
    c.memory = ⟨shareOf (max (total - available) 0) total, max (total - available) 0, total⟩ := by
  have hmemory : c.memory =
      ⟨shareOf (larger (total - available) 0) total, larger (total - available) 0, total⟩ := by
    unfold memory
    simp only [ht, ha]
    exact if_pos hpos
  rw [hmemory, larger_exact]

/-- Without both gauges, or without any memory, nothing is in use. -/
theorem memory_unmeasured {c : NodeTotals Rat}
    (h : ∀ total ∈ c.memoryTotal, ∀ available ∈ c.memoryAvailable, ¬ 0 < total) :
    c.memory.used = 0 ∧ c.memory.share = 0 ∧ 0 ≤ c.memory.total := by
  have hlarger (total : Rat) : 0 ≤ larger total 0 := by
    rw [larger_exact]
    exact le_max_right total 0
  unfold memory
  split
  · rename_i total available ht ha
    rw [if_neg (h total ht available ha)]
    exact ⟨rfl, rfl, hlarger total⟩
  · exact ⟨rfl, rfl, hlarger _⟩
  · exact ⟨rfl, rfl, le_rfl⟩

theorem memory_range (c : NodeTotals Rat) :
    0 ≤ c.memory.used ∧ 0 ≤ c.memory.share ∧
      (c.memory.used ≤ c.memory.total ↔ GaugesAgree c.memoryTotal c.memoryAvailable) ∧
      (c.memory.share ≤ 100 ↔ GaugesAgree c.memoryTotal c.memoryAvailable) := by
  by_cases hmeasured : ∃ total ∈ c.memoryTotal, ∃ available ∈ c.memoryAvailable, 0 < total
  · obtain ⟨total, ht, available, ha, hpos⟩ := hmeasured
    have hused : 0 ≤ max (total - available) 0 := le_max_right _ _
    have hagree : max (total - available) 0 ≤ total ↔
        GaugesAgree c.memoryTotal c.memoryAvailable := by
      rw [max_le_iff, sub_le_self_iff, and_iff_left hpos.le]
      constructor
      · intro hle total' ht' available' ha' _
        obtain rfl := Option.some.inj (ha.symm.trans ha')
        exact hle
      · exact fun hagree => hagree total ht available ha hpos
    rw [memory_measured ht ha hpos]
    exact ⟨hused, share_of_nonneg hused total, hagree,
      (share_of_le_hundred_iff hpos _).trans hagree⟩
  · have hunmeasured : ∀ total ∈ c.memoryTotal, ∀ available ∈ c.memoryAvailable, ¬ 0 < total :=
      fun total ht available ha hpos => hmeasured ⟨total, ht, available, ha, hpos⟩
    obtain ⟨hused, hshare, htotal⟩ := memory_unmeasured hunmeasured
    have hagree : GaugesAgree c.memoryTotal c.memoryAvailable :=
      fun total ht available ha hpos => absurd hpos (hunmeasured total ht available ha)
    rw [hused, hshare]
    exact ⟨le_rfl, le_rfl, iff_of_true htotal hagree, iff_of_true (by norm_num) hagree⟩

end NodeTotals

namespace NodeMonitor

/-- No node shows less than nothing in use. Its memory in use stays within its total, and the
share of it within a hundred, if and only if the last values of its gauges agree. -/
theorem memory_range_iff (m : NodeMonitor Rat) (readings : List (NodeReading Rat))
    (t : Instant) : ∀ u ∈ (m.step readings t).2,
      0 ≤ u.memory.used ∧ 0 ≤ u.memory.share ∧
      (u.memory.used ≤ u.memory.total ↔ GaugesAgree (MemoryGauge.total.lastOf readings u.node)
        (MemoryGauge.available.lastOf readings u.node)) ∧
      (u.memory.share ≤ 100 ↔ GaugesAgree (MemoryGauge.total.lastOf readings u.node)
        (MemoryGauge.available.lastOf readings u.node)) := by
  intro u hu
  obtain ⟨c, hmerged, hbetween⟩ := m.merged_of_use readings t hu
  have hmemory : u.memory = c.memory := by
    rw [hbetween, between_memory]
  rw [hmemory, ← MemoryGauge.held_merged .total hmerged,
    ← MemoryGauge.held_merged .available hmerged]
  exact c.memory_range

def twoNodes : List (NodeReading Rat) :=
  [⟨"n1", .memoryTotal, 8000⟩, ⟨"n1", .memoryAvailable, -2000⟩, ⟨"n2", .memoryTotal, 8000⟩,
   ⟨"n2", .memoryAvailable, -2000⟩, ⟨"n2", .memoryAvailable, 9000⟩]

theorem two_nodes_range :
    ∃ u ∈ ((empty : NodeMonitor Rat).step twoNodes (.ofSeconds 0)).2, u.node = "n2" ∧
      0 ≤ u.memory.used ∧ 0 ≤ u.memory.share ∧
      (u.memory.used ≤ u.memory.total ↔ GaugesAgree (MemoryGauge.total.lastOf twoNodes u.node)
        (MemoryGauge.available.lastOf twoNodes u.node)) ∧
      (u.memory.share ≤ 100 ↔ GaugesAgree (MemoryGauge.total.lastOf twoNodes u.node)
        (MemoryGauge.available.lastOf twoNodes u.node)) := by
  have hsecond : 1 < ((empty : NodeMonitor Rat).step twoNodes (.ofSeconds 0)).2.length := by
    decide +kernel
  have hmem := List.getElem_mem hsecond
  exact ⟨_, hmem, rfl, memory_range_iff empty twoNodes (.ofSeconds 0) _ hmem⟩

/-- Where less than none is available, more is in use than there is. -/
theorem more_in_use_than_there_is :
    ¬ ∀ (m : NodeMonitor Rat) (readings : List (NodeReading Rat)) (t : Instant),
      ∀ u ∈ (m.step readings t).2, (0 ≤ u.memory.used ∧ u.memory.used ≤ u.memory.total) ∧
        0 ≤ u.memory.share ∧ u.memory.share ≤ 100 := by
  intro h
  have hrange := h empty twoNodes (.ofSeconds 0)
  revert hrange
  decide +kernel

end NodeMonitor
end ScrapeTelemetry
