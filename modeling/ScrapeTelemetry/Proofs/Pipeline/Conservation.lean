import ScrapeTelemetry.Proofs.Pipeline.Run
import ScrapeTelemetry.Proofs.Slo.Totals

/-!
# Conservation of requests

From the kept samples of two scrapes to the aggregates no increment is lost or counted
twice. Numbers are exact here; double precision numbers round each sum on the way.
-/

set_option autoImplicit false

namespace ScrapeTelemetry

variable {μ : Type}

/-- By how much the counters that two scrapes share have grown together; one that went
backwards has not grown. -/
def sharedGrowth (before now : Counters Rat) : Rat :=
  ∑ k ∈ before.keys ∩ now.keys, max 0 (now.value k - before.value k)

/-- The records of a cycle have all growth of the counters that the two scrapes share. -/
theorem cycle_growth {before now : Counters Rat} {records : List (CounterIncrement μ Rat)}
    {counts : OutcomeCounts} {held : CounterLedger Rat}
    (h : CounterCycle before now records counts held) :
    (records.map CounterIncrement.amount).sum = sharedGrowth before now := by
  have hamount : records.map CounterIncrement.amount =
      (records.map CounterIncrement.key).map fun k => now.value k - before.value k := by
    rw [List.map_map]
    exact List.map_congr_left h.amount
  rw [hamount, ← List.sum_toFinset _ h.single, sharedGrowth]
  have hgrown : ∀ k, k ∈ (records.map CounterIncrement.key).toFinset ↔
      k ∈ before.keys ∩ now.keys ∧ before.value k ≤ now.value k := by
    intro k
    rw [List.mem_toFinset, h.emitted, Finset.mem_inter, and_assoc]
  calc
    ∑ k ∈ (records.map CounterIncrement.key).toFinset, (now.value k - before.value k) =
      ∑ k ∈ (records.map CounterIncrement.key).toFinset,
        max 0 (now.value k - before.value k) := by
      apply Finset.sum_congr rfl
      intro k hk
      exact (max_eq_right (sub_nonneg.mpr ((hgrown k).mp hk).2)).symm
    _ = ∑ k ∈ before.keys ∩ now.keys, max 0 (now.value k - before.value k) := by
      apply Finset.sum_subset
      · exact fun k hk => ((hgrown k).mp hk).1
      · intro k hk hnone
        have hback : ¬ before.value k ≤ now.value k := fun hle => hnone ((hgrown k).mpr ⟨hk, hle⟩)
        exact max_eq_left (sub_nonpos.mpr (not_le.mp hback).le)

/-- With exact numbers the aggregates of every cycle have all growth since the scrape
before: ingress requests as they are, mesh requests at the workload that received them or
at the edge that called, except for calls that name nobody. -/
theorem Pipeline.requests_conserved (recognizer : Recognizer) (filter : BusinessFilter)
    (interval : Duration) (capacity : ℕ) (cycles : List (Collection Rat))
    (n : Fin cycles.length) :
    let start : Pipeline Rat := .ofParts recognizer filter interval capacity
    let before := start.kept (inputBefore [] (cycles.map Collection.samples) n)
    let now := start.kept cycles[n].samples
    ∃ report, (start.run cycles)[n.val]? = some report ∧
      requestsOf Aggregate.isIngress report.aggregates =
        sharedGrowth (countersOf .ingress before) (countersOf .ingress now) ∧
      requestsOf Aggregate.isService report.aggregates +
          requestsOf Aggregate.isEdge report.aggregates +
          amountOf (fun r => r.mesh.callsUnknown)
            ((start.after (cycles.take n)).ledger.step now).2.meshCounts =
        sharedGrowth (countersOf .mesh before) (countersOf .mesh now) := by
  intro start before now
  obtain ⟨report, hreport, haggregates⟩ := start.report_at cycles n
  obtain ⟨hingress, hmesh⟩ := start.counters_held rfl cycles n n.isLt.le
  refine ⟨report, hreport, ?_, ?_⟩
  · rw [haggregates, ingress_requests, amount_of_all, ← ingress_counters, ← ingress_counters]
    exact cycle_growth (counter_step _ _ _ hingress)
  · rw [haggregates, service_requests, edge_requests, mesh_records_split, amount_of_all,
      ← mesh_counters, ← mesh_counters]
    exact cycle_growth (counter_step _ _ _ hmesh)

def meshAnswers (direction dst : String) (v : Rat) : Sample Rat :=
  ⟨"response_total", .counter, .ofList [("direction", direction), ("namespace", "shop"),
    ("deployment", "web"), ("pod", "web-1"), ("dst_deployment", dst), ("status_code", "200")], v⟩

def shopScrape (ingress inbound named unnamed : Rat) : List (Sample Rat) :=
  [⟨"traefik_service_requests_total", .counter, .ofList [("service", "api"), ("code", "200")],
    ingress⟩, meshAnswers "inbound" "" inbound, ⟨"up", .gauge, .empty, 1⟩,
    meshAnswers "outbound" "cart" named, meshAnswers "outbound" "" unnamed]

def exactPipeline : Pipeline Rat := .ofParts {} ⟨[], [4191], [], true⟩ (.ofSeconds 15) 60

/-- The counter of the call with a name is set back. -/
theorem shop_scrape_conserved :
    let cycles : List (Collection Rat) := [⟨shopScrape 10 40 9 3, .ofSeconds 0, none⟩,
      ⟨shopScrape 16 45 2 7, .ofSeconds 15, none⟩]
    ∃ report, (exactPipeline.run cycles)[1]? = some report ∧
      requestsOf Aggregate.isIngress report.aggregates = 6 ∧
      requestsOf Aggregate.isService report.aggregates +
          requestsOf Aggregate.isEdge report.aggregates +
          amountOf (fun r => r.mesh.callsUnknown)
            ((exactPipeline.after (cycles.take 1)).ledger.step
              (exactPipeline.kept (shopScrape 16 45 2 7))).2.meshCounts = 9 := by
  intro cycles
  obtain ⟨report, hreport, hingress, hmesh⟩ := Pipeline.requests_conserved {} ⟨[], [4191], [], true⟩
    (.ofSeconds 15) 60 cycles ⟨1, by decide⟩
  refine ⟨report, hreport, hingress.trans ?_, hmesh.trans ?_⟩
  · decide +kernel
  · decide +kernel

end ScrapeTelemetry
