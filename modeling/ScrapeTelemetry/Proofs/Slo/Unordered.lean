import ScrapeTelemetry.Proofs.Latency.Merge
import ScrapeTelemetry.Proofs.Slo.Entries

/-!
# Aggregates of records in any order

Nothing tells in which order the records of a cycle arrive. With exact numbers every sum of
an aggregate, every entry of its breakdowns and every merged histogram takes its records in
any order, so the aggregates are the same.
-/

set_option autoImplicit false

namespace ScrapeTelemetry
open Scalar

variable {μ ν κ : Type}

theorem breakdown_unordered (key : μ → String) {counts counts' : List (CounterIncrement μ Rat)}
    (h : counts.Perm counts') (m : KeyMap String Rat) :
    counts.foldl (fun m r => m.accumulate (key r.routing) 0 (· + r.amount)) m =
      counts'.foldl (fun m r => m.accumulate (key r.routing) 0 (· + r.amount)) m := by
  apply KeyMap.foldl_accumulateAt_perm (fun r => some (key r.routing)) 0
    (fun (r : CounterIncrement μ Rat) b => b + r.amount) _ h
  intro r s b
  exact add_right_comm b r.amount s.amount

namespace RequestSums
variable (code : μ → String) (isError tls : μ → Bool) (method : μ → String)

theorem count_unordered {counts counts' : List (CounterIncrement μ Rat)}
    (h : counts.Perm counts') (t : RequestSums Rat) :
    counts.foldl (countRecord code isError tls method) t =
      counts'.foldl (countRecord code isError tls method) t := by
  rw [count_records, count_records]
  congr 1
  · exact exact_sum_unordered (h.map _) _
  · exact exact_sum_unordered ((h.filter _).map _) _
  · exact exact_sum_unordered ((h.filter _).map _) _
  · exact breakdown_unordered code h _
  · exact breakdown_unordered method (h.filter _) _

theorem count_comm (t : RequestSums Rat) (r s : CounterIncrement μ Rat) :
    countRecord code isError tls method (countRecord code isError tls method t r) s =
      countRecord code isError tls method (countRecord code isError tls method t s) r :=
  count_unordered code isError tls method (.swap s r []) t

theorem timing_comm (t : RequestSums Rat) (r s : HistogramIncrement ν Rat) :
    (t.addTiming r).addTiming s = (t.addTiming s).addTiming r := by
  simp only [addTiming, addLatency, Histogram.merge_right_comm t.latency r.histogram s.histogram]

end RequestSums

section Placed
variable [Ord κ] [Std.TransOrd κ] [Std.LawfulEqOrd κ] [DecidableEq κ]

theorem placed_unordered (place : μ → Option κ) (placeTiming : ν → Option κ) (code : μ → String)
    (isError tls : μ → Bool) (method : μ → String)
    {counts counts' : List (CounterIncrement μ Rat)} (hcounts : counts.Perm counts')
    {timings timings' : List (HistogramIncrement ν Rat)} (htimings : timings.Perm timings') :
    sumPlaced place placeTiming (.countRecord code isError tls method) counts timings =
      sumPlaced place placeTiming (.countRecord code isError tls method) counts' timings' := by
  have hcount := KeyMap.foldl_accumulateAt_perm
    (fun r : CounterIncrement μ Rat => place r.routing) RequestSums.zero
    (fun r t => RequestSums.countRecord code isError tls method t r)
    (fun r s t => RequestSums.count_comm code isError tls method t r s) hcounts .empty
  have htiming := KeyMap.foldl_accumulateAt_perm
    (fun r : HistogramIncrement ν Rat => placeTiming r.routing) RequestSums.zero
    (fun r t => RequestSums.addTiming t r)
    (fun r s t => RequestSums.timing_comm t r s) htimings
  unfold sumPlaced
  rw [hcount]
  exact htiming _

end Placed

/-- With exact numbers the aggregates of a cycle do not depend on the order of its records,
of whatever kind they are. -/
theorem aggregates_unordered (d d' : Increments Rat)
    (hingress : d.ingressCounts.Perm d'.ingressCounts)
    (hingressTiming : d.ingressTiming.Perm d'.ingressTiming)
    (hmesh : d.meshCounts.Perm d'.meshCounts) (hmeshTiming : d.meshTiming.Perm d'.meshTiming)
    (window : Rat) : d.aggregates window = d'.aggregates window := by
  have hbackends : sumIngress d = sumIngress d' := by
    rw [sum_ingress_placed, sum_ingress_placed]
    exact placed_unordered _ _ _ _ _ _ hingress hingressTiming
  have hworkloads : sumWorkloads d = sumWorkloads d' := by
    rw [sumWorkloads, sumWorkloads, sum_mesh_placed, sum_mesh_placed]
    exact placed_unordered _ _ _ _ _ _ hmesh hmeshTiming
  have hedges : sumEdges d = sumEdges d' := by
    rw [sumEdges, sumEdges, sum_mesh_placed, sum_mesh_placed]
    exact placed_unordered _ _ _ _ _ _ hmesh hmeshTiming
  rw [Increments.aggregates, Increments.aggregates, hbackends, hworkloads, hedges]

def arrivals : Increments Rat where
  ingressCounts := [⟨⟨"api|200|GET"⟩, ⟨"api", "200", "GET"⟩, 90⟩,
    ⟨⟨"api|503|PUT"⟩, ⟨"api", "503", "PUT"⟩, 10⟩]
  ingressTiming := [⟨⟨"api|200|GET"⟩, ⟨"api", "200", "GET"⟩,
      (Histogram.empty.addToBucket (.finite 10) 60).addToCount 90⟩,
    ⟨⟨"api|503|PUT"⟩, ⟨"api", "503", "PUT"⟩,
      (Histogram.empty.addToBucket (.finite 50) 7).addToBucket .posInf 10⟩]
  meshCounts := [⟨⟨"web-1|db"⟩,
      ⟨⟨.outbound, ⟨"shop", "web"⟩, ⟨"shop", "db"⟩, "200"⟩, "success", true⟩, 20⟩,
    ⟨⟨"web-2|db"⟩,
      ⟨⟨.outbound, ⟨"shop", "web"⟩, ⟨"shop", "db"⟩, "404"⟩, "failure", false⟩, 5⟩]
  meshTiming := []
  stats := .zero

def arrivalsReversed : Increments Rat where
  ingressCounts := arrivals.ingressCounts.reverse
  ingressTiming := arrivals.ingressTiming.reverse
  meshCounts := arrivals.meshCounts.reverse
  meshTiming := arrivals.meshTiming.reverse
  stats := .zero

theorem arrivals_reversed :
    arrivals.ingressCounts.Perm arrivalsReversed.ingressCounts ∧
      arrivals.ingressTiming.Perm arrivalsReversed.ingressTiming ∧
      arrivals.meshCounts.Perm arrivalsReversed.meshCounts ∧
      arrivals.meshTiming.Perm arrivalsReversed.meshTiming ∧
      (arrivals.aggregates 10).length = 2 ∧
      arrivals.aggregates 10 = arrivalsReversed.aggregates 10 := by
  have hingress : arrivals.ingressCounts.Perm arrivalsReversed.ingressCounts :=
    (List.reverse_perm _).symm
  have hingressTiming : arrivals.ingressTiming.Perm arrivalsReversed.ingressTiming :=
    (List.reverse_perm _).symm
  have hmesh : arrivals.meshCounts.Perm arrivalsReversed.meshCounts := (List.reverse_perm _).symm
  have hmeshTiming : arrivals.meshTiming.Perm arrivalsReversed.meshTiming :=
    (List.reverse_perm _).symm
  exact ⟨hingress, hingressTiming, hmesh, hmeshTiming, by decide +kernel,
    aggregates_unordered arrivals arrivalsReversed hingress hingressTiming hmesh hmeshTiming 10⟩

end ScrapeTelemetry
