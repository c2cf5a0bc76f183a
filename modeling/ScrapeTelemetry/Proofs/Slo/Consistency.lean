import ScrapeTelemetry.Proofs.Number.Shares
import ScrapeTelemetry.Proofs.Slo.Entries
import ScrapeTelemetry.Proofs.Slo.Totals

/-!
# Figures that agree with one another

Requests, errors and both breakdowns of an aggregate are sums over the same records. Where
no record is negative, a sum over some of them lies between zero and the requests, and a
share of the requests between zero and a hundred.
-/

set_option autoImplicit false

namespace ScrapeTelemetry
open Scalar

variable {μ ν κ : Type}

structure PercentOf (requests share : Rat) : Prop where
  nonneg : 0 ≤ share
  le_hundred : share ≤ 100
  silent : ¬ 0 < requests → share = 0

structure SloFigures.Consistent (f : SloFigures Rat) : Prop where
  errors_nonneg : 0 ≤ f.errors
  errors_le : f.errors ≤ f.requests
  statusCodes : f.statusCodes.totalOver (fun _ => true) = f.requests
  successRate : PercentOf f.requests f.successRate
  errorRate : PercentOf f.requests f.errorRate
  complementary : 0 < f.requests → f.successRate + f.errorRate = 100

def Aggregate.Consistent (d : Increments Rat) : Aggregate Rat → Prop
  | .ingress backend f methods =>
    f.Consistent ∧ f.errors = f.statusCodes.totalOver isErrorCode ∧
      methods.totalOver (fun _ => true) ≤ f.requests ∧
      (methods.totalOver (fun _ => true) = f.requests ↔
        ∀ r ∈ d.ingressCounts, r.routing.backend = backend → r.routing.method = "" →
          r.amount = 0)
  | .service _ f tlsShare => f.Consistent ∧ PercentOf f.requests tlsShare
  | .edge _ f tlsShare =>
    f.Consistent ∧ f.errors = f.statusCodes.totalOver isNoSuccess ∧
      PercentOf f.requests tlsShare

section Amounts
variable {records : List (CounterIncrement μ Rat)}

theorem amount_nonneg (h : ∀ r ∈ records, 0 ≤ r.amount)
    (chosen : μ → Bool) : 0 ≤ amountOf chosen records := by
  apply List.sum_nonneg
  intro x hx
  obtain ⟨r, hr, rfl⟩ := List.mem_map.mp hx
  exact h r (List.mem_of_mem_filter hr)

theorem amount_parts (chosen : μ → Bool) (records : List (CounterIncrement μ Rat)) :
    amountOf chosen records + amountOf (fun m => !chosen m) records =
      amountOf (fun _ => true) records := by
  simp only [amount_of_sum, ← List.sum_map_add]
  congr 1
  apply List.map_congr_left
  intro r _
  cases chosen r.routing <;> simp

theorem amount_le (h : ∀ r ∈ records, 0 ≤ r.amount)
    (chosen : μ → Bool) : amountOf chosen records ≤ amountOf (fun _ => true) records := by
  rw [← amount_parts chosen records]
  exact le_add_of_nonneg_right (amount_nonneg h _)

/-- Some records have the amount of all if the others have none. -/
theorem amount_eq_iff (h : ∀ r ∈ records, 0 ≤ r.amount)
    (chosen : μ → Bool) :
    amountOf chosen records = amountOf (fun _ => true) records ↔
      ∀ r ∈ records, chosen r.routing = false → r.amount = 0 := by
  rw [← amount_parts chosen records, left_eq_add]
  constructor
  · intro hzero r hr hchosen
    apply List.all_zero_of_le_zero_le_of_sum_eq_zero ?_ hzero
    · exact List.mem_map_of_mem (List.mem_filter.mpr ⟨hr, by simp [hchosen]⟩)
    · intro x hx
      obtain ⟨s, hs, rfl⟩ := List.mem_map.mp hx
      exact h s (List.mem_of_mem_filter hs)
  · intro hnone
    apply List.sum_eq_zero
    intro x hx
    obtain ⟨r, hr, rfl⟩ := List.mem_map.mp hx
    obtain ⟨hr, hchosen⟩ := List.mem_filter.mp hr
    exact hnone r hr (by simpa using hchosen)

end Amounts

structure SumsOf (code : μ → String) (isError tls : μ → Bool) (method : μ → String)
    (counts : List (CounterIncrement μ Rat)) (t : RequestSums Rat) : Prop where
  requests : t.requests = amountOf (fun _ => true) counts
  errors : t.errors = amountOf isError counts
  tls : t.tls = amountOf tls counts
  statusCodes : ∀ chosen, t.statusCodes.totalOver chosen =
    amountOf (fun r => chosen (code r)) counts
  methods : t.methods.totalOver (fun _ => true) = amountOf (fun r => !(method r).isEmpty) counts

section Sums
variable {code : μ → String} {isError tls : μ → Bool} {method : μ → String}
  {counts : List (CounterIncrement μ Rat)} {t : RequestSums Rat}

theorem amounts_summed (chosen : μ → Bool) (records : List (CounterIncrement μ Rat)) :
    ((records.filter fun r => chosen r.routing).map CounterIncrement.amount).foldl (· + ·)
      (RequestSums.zero : RequestSums Rat).requests = amountOf chosen records := by
  rw [zero_requests]
  exact List.sum_eq_foldl.symm

theorem sums_of_records (timings : List (HistogramIncrement ν Rat)) :
    SumsOf code isError tls method counts
      (.ofRecords code isError tls method counts timings) := by
  have hbreakdown (key : μ → String) (chosen : String → Bool)
      (records : List (CounterIncrement μ Rat)) :
      (records.foldl (fun m r => m.accumulate (key r.routing) 0 (· + r.amount))
        (KeyMap.empty : KeyMap String Rat)).totalOver chosen =
        amountOf (fun r => chosen (key r)) records :=
    (KeyMap.total_over_foldl chosen (fun r : CounterIncrement μ Rat => key r.routing)
      CounterIncrement.amount 0 Nat.cast_zero records .empty).trans (zero_add _)
  unfold RequestSums.ofRecords
  rw [RequestSums.count_records, RequestSums.add_timings]
  refine ⟨?_, amounts_summed isError counts, amounts_summed tls counts,
    fun chosen => hbreakdown code chosen counts, ?_⟩
  · rw [← amounts_summed, List.filter_true]
  · refine (hbreakdown method _ _).trans ?_
    unfold amountOf
    rw [List.filter_true]

theorem share_percent {part total : Rat} (hpart : 0 ≤ part) (hle : part ≤ total) :
    PercentOf total (shareOf part total) :=
  ⟨share_of_nonneg hpart total, share_of_le_hundred hle, fun hsilent => share_of_nothing hsilent part⟩

theorem SumsOf.consistent (ht : SumsOf code isError tls method counts t)
    (hcounts : ∀ r ∈ counts, 0 ≤ r.amount) (window : Rat) :
    (t.figures window).Consistent := by
  have hnonneg : 0 ≤ t.errors := by
    rw [ht.errors]
    exact amount_nonneg hcounts isError
  have hle : t.errors ≤ t.requests := by
    rw [ht.errors, ht.requests]
    exact amount_le hcounts isError
  constructor
  · exact hnonneg
  · exact hle
  · exact (ht.statusCodes _).trans ht.requests.symm
  · exact share_percent (sub_nonneg.mpr hle) (sub_le_self _ hnonneg)
  · exact share_percent hnonneg hle
  · exact shares_complementary

theorem SumsOf.tls_percent (ht : SumsOf code isError tls method counts t)
    (hcounts : ∀ r ∈ counts, 0 ≤ r.amount) : PercentOf t.requests t.tlsShare := by
  apply share_percent
  · rw [ht.tls]
    exact amount_nonneg hcounts tls
  · rw [ht.tls, ht.requests]
    exact amount_le hcounts tls

/-- Where the code of a record tells whether it is an error, so does the breakdown. -/
theorem SumsOf.errors_by_code {isErrorOf : String → Bool}
    (ht : SumsOf code (fun r => isErrorOf (code r)) tls method counts t) :
    t.errors = t.statusCodes.totalOver isErrorOf :=
  ht.errors.trans (ht.statusCodes isErrorOf).symm

theorem SumsOf.methods_le (ht : SumsOf code isError tls method counts t)
    (hcounts : ∀ r ∈ counts, 0 ≤ r.amount) :
    t.methods.totalOver (fun _ => true) ≤ t.requests := by
  rw [ht.methods, ht.requests]
  exact amount_le hcounts _

theorem SumsOf.methods_eq_iff (ht : SumsOf code isError tls method counts t)
    (hcounts : ∀ r ∈ counts, 0 ≤ r.amount) :
    t.methods.totalOver (fun _ => true) = t.requests ↔
      ∀ r ∈ counts, method r.routing = "" → r.amount = 0 := by
  rw [ht.methods, ht.requests, amount_eq_iff hcounts]
  simp only [Bool.not_eq_eq_eq_not, Bool.not_false, String.isEmpty_iff]

end Sums

/-- Each entry of a map of sums is made of the records that are placed at its key. -/
theorem placed_sums_of [Ord κ] [Std.TransOrd κ] [Std.LawfulEqOrd κ] [DecidableEq κ]
    (place : μ → Option κ) (placeTiming : ν → Option κ) (code : μ → String)
    (isError tls : μ → Bool) (method : μ → String) (counts : List (CounterIncrement μ Rat))
    (timings : List (HistogramIncrement ν Rat)) {e : κ × RequestSums Rat}
    (he : e ∈ (sumPlaced place placeTiming (.countRecord code isError tls method) counts
      timings).toList) :
    SumsOf code isError tls method (counts.filter fun r => place r.routing = some e.1) e.2 := by
  rw [placed_sums place placeTiming _ counts timings ((KeyMap.mem_toList _ e.1 e.2).mp he)]
  exact sums_of_records _

theorem ingress_consistent (d : Increments Rat) (window : Rat)
    (hd : ∀ r ∈ d.ingressCounts, 0 ≤ r.amount) {e : String × RequestSums Rat}
    (he : e ∈ (sumIngress d).toList) :
    (Aggregate.ingress e.1 (e.2.figures window) e.2.methods).Consistent d := by
  rw [sum_ingress_placed] at he
  have ht := placed_sums_of _ _ _ _ _ _ _ _ he
  have hcounts : ∀ r ∈ d.ingressCounts.filter fun r => some r.routing.backend = some e.1,
      0 ≤ r.amount := fun r hr => hd r (List.mem_of_mem_filter hr)
  refine ⟨ht.consistent hcounts window, ht.errors_by_code, ht.methods_le hcounts, ?_⟩
  refine (ht.methods_eq_iff hcounts).trans ?_
  simp only [List.mem_filter, Option.some.injEq, decide_eq_true_eq, and_imp]

theorem mesh_consistent [Ord κ] [Std.TransOrd κ] [Std.LawfulEqOrd κ] [DecidableEq κ]
    (place : MeshRouting → Option κ) (isError : ResponseRouting → Bool) (d : Increments Rat)
    (window : Rat) (hd : ∀ r ∈ d.meshCounts, 0 ≤ r.amount) {e : κ × RequestSums Rat}
    (he : e ∈ (sumMesh place isError d).toList) :
    (e.2.figures window).Consistent ∧ PercentOf e.2.requests e.2.tlsShare := by
  rw [sum_mesh_placed] at he
  have ht := placed_sums_of _ _ _ _ _ _ _ _ he
  have hcounts : ∀ r ∈ d.meshCounts.filter fun r => place r.routing.mesh = some e.1,
      0 ≤ r.amount := fun r hr => hd r (List.mem_of_mem_filter hr)
  exact ⟨ht.consistent hcounts window, ht.tls_percent hcounts⟩

theorem edge_errors (d : Increments Rat) {e : Edge × RequestSums Rat}
    (he : e ∈ (sumEdges d).toList) : e.2.errors = e.2.statusCodes.totalOver isNoSuccess := by
  rw [sumEdges, sum_mesh_placed] at he
  exact (placed_sums_of _ _ _ _ _ _ _ _ he).errors_by_code

/-- Where no increment of a cycle is negative, the figures of each of its aggregates agree
with one another, whatever the window is. -/
theorem aggregates_consistent (d : Increments Rat) (window : Rat)
    (hingress : ∀ r ∈ d.ingressCounts, 0 ≤ r.amount)
    (hmesh : ∀ r ∈ d.meshCounts, 0 ≤ r.amount) :
    ∀ a ∈ d.aggregates window, a.Consistent d := by
  intro a ha
  simp only [Increments.aggregates, List.mem_append, List.mem_map] at ha
  rcases ha with (⟨e, he, rfl⟩ | ⟨e, he, rfl⟩) | ⟨e, he, rfl⟩
  · exact ingress_consistent d window hingress he
  · exact mesh_consistent _ _ d window hmesh he
  · have hedge := mesh_consistent _ _ d window hmesh he
    exact ⟨hedge.1, edge_errors d he, hedge.2⟩

def mixedTraffic : Increments Rat where
  ingressCounts := [⟨⟨"api|200|GET"⟩, ⟨"api", "200", "GET"⟩, 90⟩,
    ⟨⟨"api|503|"⟩, ⟨"api", "503", ""⟩, 10⟩]
  ingressTiming := []
  meshCounts := [⟨⟨"web-1"⟩,
      ⟨⟨.inbound, ⟨"shop", "web"⟩, ⟨"shop", "web"⟩, "500"⟩, "failure", true⟩, 20⟩,
    ⟨⟨"web-1|db"⟩,
      ⟨⟨.outbound, ⟨"shop", "web"⟩, ⟨"shop", "db"⟩, "404"⟩, "success", false⟩, 5⟩]
  meshTiming := []
  stats := .zero

theorem mixed_traffic_consistent :
    (∀ r ∈ mixedTraffic.ingressCounts, 0 ≤ r.amount) ∧
      (∀ r ∈ mixedTraffic.meshCounts, 0 ≤ r.amount) ∧
      (mixedTraffic.aggregates 10).length = 3 ∧
      ∀ a ∈ mixedTraffic.aggregates 10, a.Consistent mixedTraffic := by
  have hingress : ∀ r ∈ mixedTraffic.ingressCounts, 0 ≤ r.amount := by decide +kernel
  have hmesh : ∀ r ∈ mixedTraffic.meshCounts, 0 ≤ r.amount := by decide +kernel
  exact ⟨hingress, hmesh, by decide +kernel,
    aggregates_consistent mixedTraffic 10 hingress hmesh⟩

end ScrapeTelemetry
