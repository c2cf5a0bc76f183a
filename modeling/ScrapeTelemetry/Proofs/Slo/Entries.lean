import ScrapeTelemetry.Proofs.KeyMap.Order
import ScrapeTelemetry.Slo.Aggregate

/-!
# What the aggregates have of the records

Every key that some record is placed at has one aggregate, and every figure of it is made
of the records of that key alone, in their order. Nothing is assumed of the numbers.
-/

set_option autoImplicit false

namespace ScrapeTelemetry
open Scalar

variable {α μ ν κ ε : Type} [Scalar α]

def summed (records : List (CounterIncrement μ α)) : α :=
  (records.map CounterIncrement.amount).foldl (· + ·) 0

def shown (records : List (CounterIncrement μ α)) : Option α :=
  if records.isEmpty then none else some (summed records)

def merged (records : List (HistogramIncrement ν α)) : Histogram α :=
  (records.map HistogramIncrement.histogram).foldl Histogram.merge .empty

/-- The figures of an entry that has these records, of which `isError` picks the errors. -/
structure FiguresOf (code : μ → String) (isError : μ → Bool)
    (counts : List (CounterIncrement μ α)) (timings : List (HistogramIncrement ν α))
    (f : SloFigures α) : Prop where
  requests : f.requests = summed counts
  errors : f.errors = summed (counts.filter fun r => isError r.routing)
  statusCodes : ∀ c, f.statusCodes.find? c = shown (counts.filter fun r => code r.routing = c)
  latency : f.latency = .ofHistogram (merged timings)

structure IngressEntry (counts : List (CounterIncrement IngressRouting α))
    (timings : List (HistogramIncrement IngressRouting α))
    (e : SloFigures α × KeyMap String α) : Prop where
  figures : FiguresOf IngressRouting.code (fun r => isErrorCode r.code) counts timings e.1
  methods : ∀ m, e.2.find? m =
    if m.isEmpty then none else shown (counts.filter fun r => r.routing.method = m)

structure MeshEntry (isError : ResponseRouting → Bool)
    (counts : List (CounterIncrement ResponseRouting α))
    (timings : List (HistogramIncrement MeshRouting α)) (e : SloFigures α × α) : Prop where
  figures : FiguresOf (fun r => r.mesh.statusCode) isError counts timings e.1
  tlsShare : e.2 = shareOf (summed (counts.filter fun r => r.routing.tls)) (summed counts)

def MeshRouting.ReceivedBy (r : MeshRouting) (w : Workload) : Prop :=
  r.direction = .inbound ∧ r.workload = w

def MeshRouting.CallsOver (r : MeshRouting) (e : Edge) : Prop :=
  r.direction = .outbound ∧ r.dst.isUnknown = false ∧ r.workload = e.src ∧ r.dst = e.dst

instance (r : MeshRouting) (w : Workload) : Decidable (r.ReceivedBy w) :=
  inferInstanceAs (Decidable (_ ∧ _))

instance (r : MeshRouting) (e : Edge) : Decidable (r.CallsOver e) :=
  inferInstanceAs (Decidable (_ ∧ _ ∧ _ ∧ _))

structure EntriesOf [Ord κ] (counts : κ → List (CounterIncrement μ α))
    (timings : κ → List (HistogramIncrement ν α))
    (Entry : List (CounterIncrement μ α) → List (HistogramIncrement ν α) → ε → Prop)
    (l : List (κ × ε)) : Prop where
  ascending : l.Pairwise fun a b => compare a.1 b.1 = .lt
  keys : ∀ k, k ∈ l.map Prod.fst ↔ counts k ≠ [] ∨ timings k ≠ []
  each : ∀ e ∈ l, Entry (counts e.1) (timings e.1) e.2

namespace RequestSums

def countRecord (code : μ → String) (isError tls : μ → Bool) (method : μ → String)
    (t : RequestSums α) (r : CounterIncrement μ α) : RequestSums α :=
  ((t.countRequests (code r.routing) r.amount (isError r.routing)).countTls
    (tls r.routing) r.amount).countMethod (method r.routing) r.amount

def addTiming (t : RequestSums α) (r : HistogramIncrement ν α) : RequestSums α :=
  t.addLatency r.histogram

variable (code : μ → String) (isError tls : μ → Bool) (method : μ → String)

theorem count_records (records : List (CounterIncrement μ α)) (t : RequestSums α) :
    records.foldl (countRecord code isError tls method) t =
      { requests := (records.map CounterIncrement.amount).foldl (· + ·) t.requests
        errors := ((records.filter fun r => isError r.routing).map
          CounterIncrement.amount).foldl (· + ·) t.errors
        tls := ((records.filter fun r => tls r.routing).map
          CounterIncrement.amount).foldl (· + ·) t.tls
        statusCodes := records.foldl
          (fun m r => m.accumulate (code r.routing) 0 (· + r.amount)) t.statusCodes
        methods := (records.filter fun r => !(method r.routing).isEmpty).foldl
          (fun m r => m.accumulate (method r.routing) 0 (· + r.amount)) t.methods
        latency := t.latency } := by
  induction records generalizing t with
  | nil => rfl
  | cons r records ih =>
    rw [List.foldl_cons, ih]
    cases herror : isError r.routing <;> cases htls : tls r.routing <;>
      cases hmethod : (method r.routing).isEmpty <;>
      simp [countRecord, countRequests, countTls, countMethod, herror, htls, hmethod]

theorem add_timings (records : List (HistogramIncrement ν α)) (t : RequestSums α) :
    records.foldl addTiming t =
      { t with
        latency := (records.map HistogramIncrement.histogram).foldl Histogram.merge
          t.latency } := by
  induction records generalizing t with
  | nil => rfl
  | cons r records ih => rw [List.foldl_cons, ih]; rfl

def ofRecords (counts : List (CounterIncrement μ α)) (timings : List (HistogramIncrement ν α)) :
    RequestSums α :=
  timings.foldl addTiming (counts.foldl (countRecord code isError tls method) .zero)

theorem breakdown (key : μ → String) (records : List (CounterIncrement μ α)) (k : String) :
    (records.foldl (fun m r => m.accumulate (key r.routing) 0 (· + r.amount))
      (KeyMap.empty : KeyMap String α)).find? k =
      shown (records.filter fun r => key r.routing = k) := by
  have hfold := KeyMap.find?_foldl_started (fun r : CounterIncrement μ α => key r.routing)
    (fun _ => (0 : α)) (fun r v => v + r.amount) records k
  rw [hfold]
  unfold shown summed
  cases records.filter fun r => decide (key r.routing = k) with
  | nil => rfl
  | cons r rest => rw [List.foldl_map]; rfl

theorem figures_of_records (counts : List (CounterIncrement μ α))
    (timings : List (HistogramIncrement ν α)) (window : α) :
    FiguresOf code isError counts timings
      ((ofRecords code isError tls method counts timings).figures window) := by
  unfold ofRecords
  rw [count_records, add_timings]
  exact ⟨rfl, rfl, breakdown code counts, rfl⟩

theorem tls_of_records (counts : List (CounterIncrement μ α))
    (timings : List (HistogramIncrement ν α)) :
    (ofRecords code isError tls method counts timings).tlsShare =
      shareOf (summed (counts.filter fun r => tls r.routing)) (summed counts) := by
  unfold ofRecords
  rw [count_records, add_timings]
  rfl

theorem methods_of_records (counts : List (CounterIncrement μ α))
    (timings : List (HistogramIncrement ν α)) (m : String) :
    (ofRecords code isError tls method counts timings).methods.find? m =
      if m.isEmpty then none else shown (counts.filter fun r => method r.routing = m) := by
  unfold ofRecords
  rw [count_records, add_timings]
  refine (breakdown method _ m).trans ?_
  rw [List.filter_filter]
  cases hm : m.isEmpty with
  | true =>
    have hnone : (counts.filter fun r =>
        decide (method r.routing = m) && !(method r.routing).isEmpty) = [] := by
      rw [List.filter_eq_nil_iff]
      intro r _ hr
      simp only [Bool.and_eq_true, decide_eq_true_eq] at hr
      simp [hr.1, hm] at hr
    rw [hnone]
    rfl
  | false =>
    congr 1
    apply List.filter_congr
    intro r _
    by_cases hr : method r.routing = m <;> simp [hr, hm]

end RequestSums

section
variable [Ord κ] [Std.TransOrd κ] [Std.LawfulEqOrd κ]

def sumPlaced (place : μ → Option κ) (placeTiming : ν → Option κ)
    (count : RequestSums α → CounterIncrement μ α → RequestSums α)
    (counts : List (CounterIncrement μ α)) (timings : List (HistogramIncrement ν α)) :
    KeyMap κ (RequestSums α) :=
  timings.foldl
    (fun m r => m.accumulateAt (placeTiming r.routing) .zero (·.addTiming r))
    (counts.foldl (fun m r => m.accumulateAt (place r.routing) .zero (count · r)) .empty)

variable [DecidableEq κ] (place : μ → Option κ) (placeTiming : ν → Option κ)
  (count : RequestSums α → CounterIncrement μ α → RequestSums α)
  (counts : List (CounterIncrement μ α)) (timings : List (HistogramIncrement ν α))

theorem find_placed (k : κ) :
    (sumPlaced place placeTiming count counts timings).find? k =
      (timings.filter fun r => placeTiming r.routing = some k).foldl
        (fun o r => some ((o.getD .zero).addTiming r))
        ((counts.filter fun r => place r.routing = some k).foldl
          (fun o r => some (count (o.getD .zero) r)) none) := by
  unfold sumPlaced
  rw [KeyMap.find?_foldl_accumulateAt (fun r : HistogramIncrement ν α => placeTiming r.routing)
      (fun _ => RequestSums.zero) (fun r t => RequestSums.addTiming t r),
    KeyMap.find?_foldl_accumulateAt (fun r : CounterIncrement μ α => place r.routing)
      (fun _ => RequestSums.zero) (fun r t => count t r)]
  rfl

/-- A key has sums if a record is placed at it, and they are those of its records. -/
theorem placed_isSome (k : κ) :
    ((sumPlaced place placeTiming count counts timings).find? k).isSome ↔
      (counts.filter fun r => place r.routing = some k) ≠ [] ∨
        (timings.filter fun r => placeTiming r.routing = some k) ≠ [] := by
  rw [find_placed,
    KeyMap.foldl_isSome RequestSums.zero (fun r t => RequestSums.addTiming t r),
    KeyMap.foldl_isSome RequestSums.zero (fun r t => count t r)]
  simp only [Option.isSome_none, Bool.false_eq_true, false_or]

theorem placed_sums {k : κ} {t : RequestSums α}
    (h : (sumPlaced place placeTiming count counts timings).find? k = some t) :
    t = (timings.filter fun r => placeTiming r.routing = some k).foldl RequestSums.addTiming
      ((counts.filter fun r => place r.routing = some k).foldl count .zero) := by
  have hsums := congrArg (Option.getD · RequestSums.zero) h
  rw [find_placed] at hsums
  rw [KeyMap.foldl_getD RequestSums.zero (fun r t => RequestSums.addTiming t r),
    KeyMap.foldl_getD RequestSums.zero (fun r t => count t r)] at hsums
  exact hsums.symm

theorem entries_of_placed (code : μ → String) (isError tls : μ → Bool) (method : μ → String)
    (make : RequestSums α → ε)
    (Entry : List (CounterIncrement μ α) → List (HistogramIncrement ν α) → ε → Prop)
    (hentry : ∀ cs ts, Entry cs ts (make (.ofRecords code isError tls method cs ts))) :
    EntriesOf (fun k => counts.filter fun r => place r.routing = some k)
      (fun k => timings.filter fun r => placeTiming r.routing = some k) Entry
      ((sumPlaced place placeTiming (.countRecord code isError tls method) counts
        timings).toList.map fun e => (e.1, make e.2)) := by
  constructor
  · exact List.pairwise_map.mpr (KeyMap.ascending _)
  · intro k
    rw [← placed_isSome place placeTiming (.countRecord code isError tls method),
      ← KeyMap.mem_keys, List.map_map]
    rfl
  · intro e he
    obtain ⟨⟨k, t⟩, ht, rfl⟩ := List.mem_map.mp he
    have hsums := placed_sums place placeTiming _ counts timings ((KeyMap.mem_toList _ k t).mp ht)
    rw [hsums]
    exact hentry _ _

end

theorem received_iff (r : MeshRouting) (w : Workload) :
    r.received? = some w ↔ r.ReceivedBy w := by
  unfold MeshRouting.received? MeshRouting.ReceivedBy
  cases r.direction <;> simp

theorem called_iff (r : MeshRouting) (e : Edge) : r.called? = some e ↔ r.CallsOver e := by
  unfold MeshRouting.called? MeshRouting.CallsOver
  cases e
  cases r.direction
  · simp
  · cases r.dst.isUnknown <;> simp

theorem sum_ingress_placed (d : Increments α) :
    sumIngress d = sumPlaced (fun r => some r.backend) (fun r => some r.backend)
      (.countRecord IngressRouting.code (fun r => isErrorCode r.code) (fun _ => false)
        IngressRouting.method) d.ingressCounts d.ingressTiming :=
  rfl

theorem sum_mesh_placed [Ord κ] [Std.TransOrd κ] [Std.LawfulEqOrd κ]
    (place : MeshRouting → Option κ) (isError : ResponseRouting → Bool) (d : Increments α) :
    sumMesh place isError d = sumPlaced (fun r => place r.mesh) place
      (.countRecord (fun r => r.mesh.statusCode) isError ResponseRouting.tls fun _ => "")
      d.meshCounts d.meshTiming :=
  rfl

theorem ingress_entries (d : Increments α) (window : α) :
    EntriesOf (fun k => d.ingressCounts.filter fun r => r.routing.backend = k)
      (fun k => d.ingressTiming.filter fun r => r.routing.backend = k) IngressEntry
      ((sumIngress d).toList.map fun e => (e.1, e.2.figures window, e.2.methods)) := by
  have hentries := entries_of_placed (fun r : IngressRouting => some r.backend)
    (fun r : IngressRouting => some r.backend) d.ingressCounts d.ingressTiming
    IngressRouting.code (fun r => isErrorCode r.code) (fun _ => false) IngressRouting.method
    (fun t => (t.figures window, t.methods)) IngressEntry fun cs ts =>
      ⟨RequestSums.figures_of_records _ _ _ _ cs ts window,
        RequestSums.methods_of_records _ _ _ _ cs ts⟩
  rw [sum_ingress_placed]
  simpa only [Option.some.injEq] using hentries

theorem mesh_entries [Ord κ] [Std.TransOrd κ] [Std.LawfulEqOrd κ] [DecidableEq κ]
    (place : MeshRouting → Option κ) (isError : ResponseRouting → Bool) (d : Increments α)
    (window : α) :
    EntriesOf (fun k => d.meshCounts.filter fun r => place r.routing.mesh = some k)
      (fun k => d.meshTiming.filter fun r => place r.routing = some k) (MeshEntry isError)
      ((sumMesh place isError d).toList.map fun e =>
        (e.1, e.2.figures window, e.2.tlsShare)) := by
  rw [sum_mesh_placed]
  exact entries_of_placed (fun r : ResponseRouting => place r.mesh) place d.meshCounts
    d.meshTiming (fun r => r.mesh.statusCode) isError ResponseRouting.tls (fun _ => "")
    (fun t => (t.figures window, t.tlsShare)) (MeshEntry isError) fun cs ts =>
      ⟨RequestSums.figures_of_records _ _ _ _ cs ts window,
        RequestSums.tls_of_records _ _ _ _ cs ts⟩

/-- The aggregates of a cycle are those of the ingress services, then of the workloads,
then of the edges. Each part ascends by key and has an entry for each key with a record,
and a record counts for the entry of its own key and for no other. -/
theorem aggregates_by_key (d : Increments α) (window : α) :
    ∃ (ingress : List (String × SloFigures α × KeyMap String α))
      (services : List (Workload × SloFigures α × α))
      (edges : List (Edge × SloFigures α × α)),
      d.aggregates window =
        ingress.map (fun e => .ingress e.1 e.2.1 e.2.2) ++
          services.map (fun e => .service e.1 e.2.1 e.2.2) ++
          edges.map (fun e => .edge e.1 e.2.1 e.2.2) ∧
      EntriesOf (fun k => d.ingressCounts.filter fun r => r.routing.backend = k)
        (fun k => d.ingressTiming.filter fun r => r.routing.backend = k) IngressEntry ingress ∧
      EntriesOf (fun k => d.meshCounts.filter fun r => r.routing.mesh.ReceivedBy k)
        (fun k => d.meshTiming.filter fun r => r.routing.ReceivedBy k)
        (MeshEntry fun r => r.classification != "success") services ∧
      EntriesOf (fun k => d.meshCounts.filter fun r => r.routing.mesh.CallsOver k)
        (fun k => d.meshTiming.filter fun r => r.routing.CallsOver k)
        (MeshEntry fun r => isNoSuccess r.mesh.statusCode) edges := by
  refine ⟨(sumIngress d).toList.map fun e => (e.1, e.2.figures window, e.2.methods),
    (sumWorkloads d).toList.map fun e => (e.1, e.2.figures window, e.2.tlsShare),
    (sumEdges d).toList.map fun e => (e.1, e.2.figures window, e.2.tlsShare), ?_, ?_, ?_, ?_⟩
  · simp [Increments.aggregates, Function.comp_def]
  · exact ingress_entries d window
  · have hservices := mesh_entries MeshRouting.received?
      (fun r => r.classification != "success") d window
    simp only [received_iff] at hservices
    exact hservices
  · have hedges := mesh_entries MeshRouting.called?
      (fun r => isNoSuccess r.mesh.statusCode) d window
    simp only [called_iff] at hedges
    exact hedges

end ScrapeTelemetry
