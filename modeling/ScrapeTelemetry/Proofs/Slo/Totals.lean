import ScrapeTelemetry.Proofs.KeyMap.Folds
import ScrapeTelemetry.Slo.Aggregate

/-!
# Requests of all aggregates together

With exact numbers a fold into a keyed map moves amounts and changes none. What the
aggregates of one kind have together is what the records placed among them have.
-/

set_option autoImplicit false

namespace ScrapeTelemetry

namespace Aggregate

variable {α : Type}

def isIngress : Aggregate α → Bool
  | ingress .. => true
  | _ => false

def isService : Aggregate α → Bool
  | service .. => true
  | _ => false

def isEdge : Aggregate α → Bool
  | edge .. => true
  | _ => false

end Aggregate

def requestsOf (kind : Aggregate Rat → Bool) (l : List (Aggregate Rat)) : Rat :=
  ((l.filter kind).map fun a => a.figures.requests).sum

def amountOf {μ : Type} (chosen : μ → Bool) (records : List (CounterIncrement μ Rat)) : Rat :=
  ((records.filter fun r => chosen r.routing).map CounterIncrement.amount).sum

def MeshRouting.callsUnknown (r : MeshRouting) : Bool :=
  r.direction = .outbound && r.dst.isUnknown

theorem zero_requests : (RequestSums.zero : RequestSums Rat).requests = 0 := Nat.cast_zero

theorem count_method_requests (t : RequestSums Rat) (method : String) (d : Rat) :
    (t.countMethod method d).requests = t.requests := by
  unfold RequestSums.countMethod
  split <;> rfl

theorem count_tls_requests (t : RequestSums Rat) (tls : Bool) (d : Rat) :
    (t.countTls tls d).requests = t.requests := by
  unfold RequestSums.countTls
  split <;> rfl

theorem amount_of_sum {μ : Type} (chosen : μ → Bool)
    (records : List (CounterIncrement μ Rat)) :
    amountOf chosen records =
      (records.map fun r => if chosen r.routing then r.amount else 0).sum := by
  unfold amountOf
  induction records with
  | nil => rfl
  | cons r records ih => cases h : chosen r.routing <;> simp [h, ih]

theorem amount_of_all {μ : Type} (records : List (CounterIncrement μ Rat)) :
    amountOf (fun _ => true) records = (records.map CounterIncrement.amount).sum := by
  simp [amountOf]

theorem sum_ingress_total (d : Increments Rat) :
    (sumIngress d).total RequestSums.requests = amountOf (fun _ => true) d.ingressCounts := by
  unfold sumIngress
  rw [KeyMap.total_foldl RequestSums.requests (fun _ => 0),
    KeyMap.total_foldl RequestSums.requests CounterIncrement.amount]
  · simp [amountOf, KeyMap.total_empty]
  · intro m r
    apply KeyMap.total_accumulate
    · exact zero_requests
    · intro t
      rw [count_method_requests]
      rfl
  · intro m r
    apply KeyMap.total_accumulate
    · exact zero_requests
    · exact fun t => (add_zero t.requests).symm

theorem sum_mesh_total {κ : Type} [Ord κ] [Std.TransOrd κ] [Std.LawfulEqOrd κ]
    (place : MeshRouting → Option κ) (isError : ResponseRouting → Bool)
    (d : Increments Rat) :
    (sumMesh place isError d).total RequestSums.requests =
      amountOf (fun r => (place r.mesh).isSome) d.meshCounts := by
  unfold sumMesh
  rw [KeyMap.total_foldl RequestSums.requests (fun _ => 0),
    KeyMap.total_foldl RequestSums.requests
      (fun r => if (place r.routing.mesh).isSome then r.amount else 0)]
  · simp [amount_of_sum, KeyMap.total_empty]
  · intro m r
    cases place r.routing.mesh with
    | none => exact (add_zero _).symm
    | some k =>
      apply KeyMap.total_accumulate
      · exact zero_requests
      · intro t
        rw [count_tls_requests]
        rfl
  · intro m r
    cases place r.routing with
    | none => exact (add_zero _).symm
    | some k =>
      apply KeyMap.total_accumulate
      · exact zero_requests
      · exact fun t => (add_zero t.requests).symm

theorem ingress_requests (d : Increments Rat) (window : Rat) :
    requestsOf Aggregate.isIngress (d.aggregates window) =
      amountOf (fun _ => true) d.ingressCounts := by
  rw [← sum_ingress_total]
  simp [requestsOf, Increments.aggregates, KeyMap.total, List.filter_map, Function.comp_def,
    Aggregate.isIngress, Aggregate.figures, RequestSums.figures]

theorem service_requests (d : Increments Rat) (window : Rat) :
    requestsOf Aggregate.isService (d.aggregates window) =
      amountOf (fun r => r.mesh.received?.isSome) d.meshCounts := by
  rw [← sum_mesh_total, ← sumWorkloads]
  simp [requestsOf, Increments.aggregates, KeyMap.total, List.filter_map, Function.comp_def,
    Aggregate.isService, Aggregate.figures, RequestSums.figures]

theorem edge_requests (d : Increments Rat) (window : Rat) :
    requestsOf Aggregate.isEdge (d.aggregates window) =
      amountOf (fun r => r.mesh.called?.isSome) d.meshCounts := by
  rw [← sum_mesh_total, ← sumEdges]
  simp [requestsOf, Increments.aggregates, KeyMap.total, List.filter_map, Function.comp_def,
    Aggregate.isEdge, Aggregate.figures, RequestSums.figures]

/-- A mesh record goes to one workload or to one edge, or it calls the unknown. -/
theorem mesh_records_split (records : List (CounterIncrement ResponseRouting Rat)) :
    amountOf (fun r => r.mesh.received?.isSome) records +
        amountOf (fun r => r.mesh.called?.isSome) records +
        amountOf (fun r => r.mesh.callsUnknown) records =
      amountOf (fun _ => true) records := by
  simp only [amount_of_sum, ← List.sum_map_add]
  congr 1
  apply List.map_congr_left
  intro r _
  unfold MeshRouting.received? MeshRouting.called? MeshRouting.callsUnknown
  cases r.routing.mesh.direction
  · simp
  · cases r.routing.mesh.dst.isUnknown <;> simp

end ScrapeTelemetry
