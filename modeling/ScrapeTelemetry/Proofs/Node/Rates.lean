import ScrapeTelemetry.Node.Use
import ScrapeTelemetry.Proofs.KeyMap.Order
import ScrapeTelemetry.Proofs.Number.Shares
import ScrapeTelemetry.Proofs.Number.Signs
import ScrapeTelemetry.Proofs.Runs

/-!
# Nodes between two scrapes

What a monitor reports of a node is decided by the readings of two scrapes in a row. No
reset, new device or clock that runs backwards makes a rate negative, and none takes the
share of processor time out of its range.
-/

set_option autoImplicit false

namespace ScrapeTelemetry
open Scalar

variable {α : Type} [Scalar α]

inductive Flow where
  | diskRead
  | diskWritten
  | networkReceived
  | networkTransmitted

namespace Flow

def counts : Flow → NodeQuantity → Bool
  | diskRead, .diskReadBytes _ => true
  | diskWritten, .diskWrittenBytes _ => true
  | networkReceived, .networkReceiveBytes device => device != "lo"
  | networkTransmitted, .networkTransmitBytes device => device != "lo"
  | _, _ => false

def total (f : Flow) (c : NodeTotals α) : α :=
  match f with
  | diskRead => c.diskRead
  | diskWritten => c.diskWritten
  | networkReceived => c.networkReceived
  | networkTransmitted => c.networkTransmitted

def rate (f : Flow) (u : NodeUse α) : α :=
  match f with
  | diskRead => u.diskReadRate
  | diskWritten => u.diskWriteRate
  | networkReceived => u.networkReceiveRate
  | networkTransmitted => u.networkTransmitRate

def amount? (f : Flow) (node : String) : TrafficSample α → Option α
  | .node r => if r.node = node ∧ isFinite r.value ∧ f.counts r.series then some r.value else none
  | _ => none

def sumOf (f : Flow) (samples : List (TrafficSample α)) (node : String) : α :=
  (samples.filterMap (f.amount? node)).foldl (· + ·) 0

theorem total_add (f : Flow) (c : NodeTotals α) (q : NodeQuantity) (v : α) :
    f.total (c.add q v) = if f.counts q then f.total c + v else f.total c := by
  cases f <;> cases q <;>
    first
      | rfl
      | (rename_i device
         by_cases h : device = "lo" <;> simp [total, counts, NodeTotals.add, isLoopback, h])

theorem total_zero (f : Flow) : f.total (.zero : NodeTotals α) = 0 := by
  cases f <;> rfl

theorem total_foldl (f : Flow) (readings : List (NodeReading α)) (c : NodeTotals α) :
    f.total (readings.foldl (fun c r => c.add r.series r.value) c) =
      ((readings.filter fun r => f.counts r.series).map NodeReading.value).foldl (· + ·)
        (f.total c) := by
  induction readings generalizing c with
  | nil => rfl
  | cons r readings ih =>
    rw [List.foldl_cons, ih, total_add]
    cases h : f.counts r.series <;> simp [h]

end Flow

def SeenNode (samples : List (TrafficSample α)) (node : String) : Prop :=
  ∃ r, .node r ∈ samples ∧ r.node = node ∧ isFinite r.value = true

/-- What one scrape owes to its own samples and to those of the scrape before. -/
structure NodeCycle (before now : List (TrafficSample α)) (beforeAt collectedAt : Instant)
    (uses : List (NodeUse α)) (held : NodeMonitor α) : Prop where
  ascending : (uses.map NodeUse.node).Pairwise (· < ·)
  nodes : ∀ k, k ∈ uses.map NodeUse.node ↔ SeenNode now k
  tracked : held.nodeCount = uses.length
  fresh : ∀ u ∈ uses, ¬ SeenNode before u.node → u.cpuShare = 0 ∧ ∀ f : Flow, f.rate u = 0
  known : ∀ u ∈ uses, SeenNode before u.node → ∀ f : Flow,
    f.rate u = ratePerSecond (f.sumOf now u.node) (f.sumOf before u.node)
      (beforeAt.secondsTo collectedAt)
  nonneg : ∀ u ∈ uses, ∀ f : Flow, 0 ≤ f.rate u

namespace NodeMonitor

def ownReadings (readings : List (NodeReading α)) (k : String) : List (NodeReading α) :=
  (readings.filter fun r => isFinite r.value).filter fun r => r.node = k

omit [Scalar α] in
theorem mem_node_readings (samples : List (TrafficSample α)) (r : NodeReading α) :
    r ∈ nodeReadingsOf samples ↔ .node r ∈ samples := by
  rw [nodeReadingsOf, List.mem_filterMap]
  constructor
  · rintro ⟨s, hs, hr⟩
    cases s <;> cases hr
    exact hs
  · exact fun hr => ⟨.node r, hr, rfl⟩

theorem own_readings_iff (samples : List (TrafficSample α)) (k : String) :
    ownReadings (nodeReadingsOf samples) k ≠ [] ↔ SeenNode samples k := by
  simp only [ownReadings, SeenNode, ne_eq, List.filter_eq_nil_iff, List.mem_filter, not_forall,
    decide_eq_true_eq, not_not, mem_node_readings]
  constructor
  · rintro ⟨r, ⟨hr, hfinite⟩, hnode⟩
    exact ⟨r, hr, hnode, hfinite⟩
  · rintro ⟨r, hr, hnode, hfinite⟩
    exact ⟨r, ⟨hr, hfinite⟩, hnode⟩

/-- The readings of a node that count for a flow are what its samples add to it. -/
theorem own_amounts (samples : List (TrafficSample α)) (k : String) (f : Flow) :
    ((ownReadings (nodeReadingsOf samples) k).filter fun r => f.counts r.series).map
        NodeReading.value = samples.filterMap (f.amount? k) := by
  rw [ownReadings, List.filter_filter, List.filter_filter, nodeReadingsOf, List.filter_filterMap,
    List.map_filterMap]
  congr 1
  funext s
  cases s with
  | node r =>
    by_cases hnode : r.node = k <;> cases hfinite : isFinite r.value <;>
      cases hcounts : f.counts r.series <;> simp [Flow.amount?, hnode, hfinite, hcounts]
  | _ => rfl

theorem own_flow (samples : List (TrafficSample α)) (k : String) (f : Flow) :
    f.total ((ownReadings (nodeReadingsOf samples) k).foldl
      (fun c r => c.add r.series r.value) .zero) = f.sumOf samples k := by
  rw [f.total_foldl, f.total_zero, own_amounts, Flow.sumOf]

/-- The totals of a node are those of its finite readings; without one it has none. -/
theorem find_merged (readings : List (NodeReading α)) (k : String) :
    (mergeCounters readings).find? k =
      if ownReadings readings k = [] then none
      else some ((ownReadings readings k).foldl (fun c r => c.add r.series r.value) .zero) := by
  have hfind := KeyMap.find?_foldl_started NodeReading.node (fun _ => NodeTotals.zero)
    (fun r c => c.add r.series r.value) (readings.filter fun r => isFinite r.value) k
  rw [mergeCounters, hfind, ownReadings]
  cases (readings.filter fun r => isFinite r.value).filter fun r => r.node = k <;> rfl

theorem merged_isSome (samples : List (TrafficSample α)) (k : String) :
    ((mergeCounters (nodeReadingsOf samples)).find? k).isSome ↔ SeenNode samples k := by
  rw [find_merged, ← own_readings_iff]
  split <;> simp_all

theorem merged_flow {samples : List (TrafficSample α)} {k : String} {c : NodeTotals α}
    (h : (mergeCounters (nodeReadingsOf samples)).find? k = some c) (f : Flow) :
    f.total c = f.sumOf samples k := by
  rw [find_merged] at h
  split at h
  · cases h
  · rw [← own_flow, Option.some.inj h]

def Holds (m : NodeMonitor α) (readings : List (NodeReading α)) (at_ : Instant) : Prop :=
  m.previous = (mergeCounters readings).mapValues fun _ c => (c, at_)

theorem rate_between (f : Flow) (k : String) (t t' : Instant) (c c' : NodeTotals α) :
    f.rate (.between k t' (some (c, t)) c') =
      ratePerSecond (f.total c') (f.total c) (t.secondsTo t') := by
  cases f <;> rfl

theorem step_uses (m : NodeMonitor α) (readings : List (NodeReading α)) (t : Instant) :
    (m.step readings t).2 = (mergeCounters readings).toList.map fun e =>
      .between e.1 t (m.previous.find? e.1) e.2 := rfl

theorem between_node (k : String) (t : Instant) (before? : Option (NodeTotals α × Instant))
    (c : NodeTotals α) : (NodeUse.between k t before? c).node = k := by
  cases before? <;> rfl

theorem use_nodes (m : NodeMonitor α) (readings : List (NodeReading α)) (t : Instant) :
    (m.step readings t).2.map NodeUse.node = (mergeCounters readings).keys := by
  rw [step_uses, List.map_map]
  apply List.map_congr_left
  exact fun e _ => between_node e.1 t _ e.2

/-- A node that is reported is one of the scrape, with the totals of its readings. -/
theorem merged_of_use (m : NodeMonitor α) (readings : List (NodeReading α)) (t : Instant)
    {u : NodeUse α} (hu : u ∈ (m.step readings t).2) :
    ∃ c, (mergeCounters readings).find? u.node = some c ∧
      u = .between u.node t (m.previous.find? u.node) c := by
  rw [step_uses] at hu
  obtain ⟨⟨k, c⟩, he, rfl⟩ := List.mem_map.mp hu
  rw [between_node]
  exact ⟨c, (KeyMap.mem_toList _ _ _).mp he, rfl⟩

/-- A monitor that holds the scrape before makes of its own scrape what it should. -/
theorem step_cycle [NonnegRates α] (m : NodeMonitor α) (before now : List (TrafficSample α))
    (t t' : Instant) (h : m.Holds (nodeReadingsOf before) t) :
    NodeCycle before now t t' (m.step (nodeReadingsOf now) t').2
      (m.step (nodeReadingsOf now) t').1 := by
  have huse : ∀ u ∈ (m.step (nodeReadingsOf now) t').2,
      ∃ c, u = .between u.node t' (m.previous.find? u.node) c ∧
        ∀ f : Flow, f.total c = f.sumOf now u.node := by
    intro u hu
    obtain ⟨c, hmerged, hbetween⟩ := m.merged_of_use (nodeReadingsOf now) t' hu
    exact ⟨c, hbetween, merged_flow hmerged⟩
  have hbefore (k : String) : m.previous.find? k =
      ((mergeCounters (nodeReadingsOf before)).find? k).map fun c => (c, t) := by
    rw [h, KeyMap.find?_mapValues]
  constructor
  · rw [use_nodes]
    apply (KeyMap.keys_ascending _).imp
    intro a b hab
    exact compare_lt_iff_lt.mp hab
  · intro k
    rw [use_nodes, KeyMap.mem_keys, merged_isSome]
  · exact (List.length_map _).trans (List.length_map _).symm
  · intro u hu hnew
    obtain ⟨c, hu, -⟩ := huse u hu
    rw [← merged_isSome, Option.not_isSome_iff_eq_none] at hnew
    rw [hbefore, hnew] at hu
    rw [hu]
    exact ⟨rfl, fun f => by cases f <;> rfl⟩
  · intro u hu hseen f
    obtain ⟨c, hu, hnow⟩ := huse u hu
    obtain ⟨b, hb⟩ := Option.isSome_iff_exists.mp ((merged_isSome before u.node).mpr hseen)
    rw [hbefore, hb] at hu
    rw [← merged_flow hb, ← hnow]
    conv_lhs => rw [hu]
    exact rate_between f u.node t t' b c
  · intro u hu f
    obtain ⟨c, hu, -⟩ := huse u hu
    rw [hu]
    cases m.previous.find? u.node with
    | none => cases f <;> exact NonnegRates.zero_nonneg
    | some b =>
      rw [rate_between]
      exact NonnegRates.rate_nonneg _ _ _

def scrape (m : NodeMonitor α) (s : List (TrafficSample α) × Instant) :
    NodeMonitor α × List (NodeUse α) :=
  m.step (nodeReadingsOf s.1) s.2

/-- Before each scrape of a run the monitor holds the scrape before. -/
theorem cycles_of_run [NonnegRates α] (scrapes : List (List (TrafficSample α) × Instant))
    (n : Fin scrapes.length) :
    ∃ uses, (outputs scrape .empty scrapes)[n.val]? = some uses ∧
      NodeCycle (inputBefore ([], default) scrapes n).1 scrapes[n].1
        (inputBefore ([], default) scrapes n).2 scrapes[n].2 uses
        (stateAfter scrape .empty (scrapes.take (n + 1))) := by
  have hheld := last_input_holds scrape
    (fun (m : NodeMonitor α) s => m.Holds (nodeReadingsOf s.1) s.2) .empty ([], default) rfl
    (fun _ _ => rfl) scrapes n n.isLt.le
  refine ⟨_, output_at scrape .empty scrapes n n.isLt, ?_⟩
  rw [state_next scrape .empty scrapes n n.isLt]
  exact step_cycle _ _ _ _ _ hheld

theorem increase_nonneg (current previous : Rat) : 0 ≤ increase current previous := by
  have hplain : increase current previous =
      if current < previous then 0 else current - previous := rfl
  rw [hplain]
  split
  · exact le_rfl
  · linarith

/-- Idle time counts at most as much as all time, also where only one of them was reset. -/
theorem cpu_share_range (before now : NodeTotals Rat) :
    0 ≤ before.cpuShare now ∧ before.cpuShare now ≤ 100 := by
  have htotal := increase_nonneg now.cpuTotal before.cpuTotal
  have hidle := increase_nonneg now.cpuIdle before.cpuIdle
  unfold NodeTotals.cpuShare
  simp only [smaller_exact]
  exact ⟨share_of_nonneg (sub_nonneg.mpr (min_le_right _ _)) _,
    share_of_le_hundred (sub_le_self _ (le_min hidle htotal))⟩

theorem step_shares (m : NodeMonitor Rat) (readings : List (NodeReading Rat)) (t : Instant) :
    ∀ u ∈ (m.step readings t).2, 0 ≤ u.cpuShare ∧ u.cpuShare ≤ 100 := by
  intro u hu
  rw [step_uses] at hu
  obtain ⟨e, -, rfl⟩ := List.mem_map.mp hu
  cases m.previous.find? e.1 with
  | none => exact ⟨le_rfl, by norm_num [NodeUse.between]⟩
  | some b => exact cpu_share_range b.1 e.2

/-- In every cycle of a run each node with a finite reading is reported once, by name. A
node that the scrape before had no reading of shows no share and no rates; any other node
shows the rates of its flows between the two scrapes, none below zero. With exact numbers
the share of processor time is one of a hundred. -/
theorem nodes_of_run (scrapes : List (List (TrafficSample Float) × Instant))
    (ideal : List (List (TrafficSample Rat) × Instant)) :
    (∀ n : Fin scrapes.length, ∃ uses, (outputs scrape .empty scrapes)[n.val]? = some uses ∧
      NodeCycle (inputBefore ([], default) scrapes n).1 scrapes[n].1
        (inputBefore ([], default) scrapes n).2 scrapes[n].2 uses
        (stateAfter scrape .empty (scrapes.take (n + 1)))) ∧
    ∀ n : Fin ideal.length, ∃ uses, (outputs scrape .empty ideal)[n.val]? = some uses ∧
      NodeCycle (inputBefore ([], default) ideal n).1 ideal[n].1
        (inputBefore ([], default) ideal n).2 ideal[n].2 uses
        (stateAfter scrape .empty (ideal.take (n + 1))) ∧
      ∀ u ∈ uses, 0 ≤ u.cpuShare ∧ u.cpuShare ≤ 100 := by
  refine ⟨cycles_of_run scrapes, fun n => ?_⟩
  obtain ⟨uses, huses, hcycle⟩ := cycles_of_run ideal n
  refine ⟨uses, huses, hcycle, ?_⟩
  rw [output_at scrape .empty ideal n n.isLt] at huses
  rw [← Option.some.inj huses]
  exact step_shares _ _ _

def sdaGrows (sda sdb lo eth : Rat) : List (TrafficSample Rat) :=
  [.node ⟨"web-1", .diskReadBytes "sda", sda⟩, .node ⟨"web-1", .networkReceiveBytes "lo", lo⟩,
    .ingressCount ⟨⟨.kong, "shop", none, none, "200", "GET"⟩, 7⟩,
    .node ⟨"web-1", .networkReceiveBytes "eth0", eth⟩, .node ⟨"web-1", .diskReadBytes "sdb", sdb⟩]

def secondNodeComes : List (List (TrafficSample Rat) × Instant) :=
  [(sdaGrows 100 300 5 10, .ofSeconds 0),
    (.node ⟨"web-2", .cpuSeconds "0" "idle", 8⟩ :: sdaGrows 520 50 900 40, .ofSeconds 10)]

theorem second_node_uses :
    ∃ uses, (outputs scrape .empty secondNodeComes)[1]? = some uses ∧
      (∀ k, k ∈ uses.map NodeUse.node ↔ k = "web-2" ∨ k = "web-1") ∧
      (∀ u ∈ uses, u.node = "web-1" →
        u.diskReadRate = 17 ∧ u.networkReceiveRate = 3 ∧ u.cpuShare ≤ 100) ∧
      ∀ u ∈ uses, u.node = "web-2" → u.cpuShare = 0 ∧ u.diskReadRate = 0 := by
  obtain ⟨uses, huses, hcycle, hshare⟩ := (nodes_of_run [] secondNodeComes).2 ⟨1, by decide⟩
  have hbefore (k : String) : SeenNode (sdaGrows 100 300 5 10) k ↔ k = "web-1" := by
    simp [SeenNode, sdaGrows, eq_comm, isFinite]
  refine ⟨uses, huses, ?_, ?_, ?_⟩
  · intro k
    rw [hcycle.nodes]
    simp [SeenNode, secondNodeComes, sdaGrows, eq_comm, isFinite]
  · intro u hu hnode
    have hseen := (hbefore u.node).mpr hnode
    have hdisk := hcycle.known u hu hseen .diskRead
    have hnetwork := hcycle.known u hu hseen .networkReceived
    rw [hnode] at hdisk hnetwork
    refine ⟨hdisk.trans ?_, hnetwork.trans ?_, (hshare u hu).2⟩
    · decide +kernel
    · decide +kernel
  · intro u hu hnode
    have hnew : ¬ SeenNode (sdaGrows 100 300 5 10) u.node := by
      rw [hbefore, hnode]
      decide
    obtain ⟨hcpu, hrates⟩ := hcycle.fresh u hu hnew
    exact ⟨hcpu, hrates .diskRead⟩

end NodeMonitor
end ScrapeTelemetry
