import ScrapeTelemetry.Proofs.Slo.Entries
import ScrapeTelemetry.Proofs.Text.Joins
import ScrapeTelemetry.Series.Store

/-!
# Which aggregates have a series of their own

A series has the text of its entity for a name. Texts of different entities are the same
where a slash or an arrow inside a part can be taken for the one between two parts, or
where a namespace begins as the names of ingress series do. In a cycle without two such
entities no aggregate writes to the series of another.
-/

set_option autoImplicit false

namespace ScrapeTelemetry

namespace Workload

def SlashMoves (w v : Workload) : Prop :=
  ∃ t, v.ns = w.ns ++ "/" ++ t ∧ w.name = t ++ "/" ++ v.name

def ReadsAs (w v : Workload) : Prop := w = v ∨ w.SlashMoves v ∨ v.SlashMoves w

/-- The namespace begins as the name of an ingress series does, and the text after that
beginning is the ingress service. -/
def ReadsAsIngress (w : Workload) (backend : String) : Prop :=
  ∃ t, w.ns = "ingress:" ++ t ∧ backend = t ++ "/" ++ w.name

theorem display_eq_iff (w v : Workload) : w.display = v.display ↔ w.ReadsAs v := by
  have hjoined := joined_eq_iff slash_overlaps w.ns w.name v.ns v.name
  simp only [SeparatorMoves, String.empty_append, String.append_empty] at hjoined
  rw [display, display, hjoined, ReadsAs, SlashMoves, SlashMoves]
  cases w
  cases v
  rw [Workload.mk.injEq]

theorem ingress_name_iff (w : Workload) (backend : String) :
    "ingress:" ++ backend = w.display ↔ w.ReadsAsIngress backend := by
  have hslash : '/' ∉ "ingress:".toList := by decide
  exact beginning_split hslash backend w.ns w.name

end Workload

namespace Edge

def asWorkload (e : Edge) : Workload := ⟨e.src.ns, e.src.name ++ " -> " ++ e.dst.display⟩

def ArrowMoves (e f : Edge) : Prop :=
  ∃ t, f.src.display ++ " " = e.src.display ++ " -> " ++ t ∧
    e.dst.display = t ++ "-> " ++ f.dst.display

def ReadsAs (e f : Edge) : Prop :=
  (e.src.ReadsAs f.src ∧ e.dst.ReadsAs f.dst) ∨ e.ArrowMoves f ∨ f.ArrowMoves e

theorem display_as_workload (e : Edge) : e.asWorkload.display = e.display := by
  simp only [asWorkload, display, Workload.display, String.append_assoc]

theorem ingress_name_iff (e : Edge) (backend : String) :
    "ingress:" ++ backend = e.display ↔ e.asWorkload.ReadsAsIngress backend := by
  rw [← display_as_workload]
  exact e.asWorkload.ingress_name_iff backend

theorem workload_name_iff (e : Edge) (w : Workload) :
    w.display = e.display ↔ w.ReadsAs e.asWorkload := by
  rw [← display_as_workload]
  exact w.display_eq_iff e.asWorkload

theorem display_eq_iff (e f : Edge) : e.display = f.display ↔ e.ReadsAs f := by
  have harrow : " " ++ "-> " = " -> " := by decide
  have hjoined := joined_eq_iff arrow_overlaps e.src.display e.dst.display f.src.display
    f.dst.display
  simp only [SeparatorMoves, harrow, Workload.display_eq_iff] at hjoined
  exact hjoined

end Edge

inductive Entity where
  | ingress (backend : String)
  | service (service : Workload)
  | edge (edge : Edge)
  deriving DecidableEq, Repr

namespace Entity

def seriesName : Entity → String
  | ingress backend => "ingress:" ++ backend
  | service w => w.display
  | edge e => e.display

def ReadsAs : Entity → Entity → Prop
  | ingress k, ingress l => k = l
  | ingress k, service w | service w, ingress k => w.ReadsAsIngress k
  | ingress k, edge e | edge e, ingress k => e.asWorkload.ReadsAsIngress k
  | service w, service v => w.ReadsAs v
  | service w, edge e | edge e, service w => w.ReadsAs e.asWorkload
  | edge e, edge f => e.ReadsAs f

theorem series_name_eq_iff (x y : Entity) : x.seriesName = y.seriesName ↔ x.ReadsAs y := by
  cases x with
  | ingress k =>
    cases y with
    | ingress l => exact String.append_right_inj _
    | service w => exact w.ingress_name_iff k
    | edge e => exact e.ingress_name_iff k
  | service w =>
    cases y with
    | ingress k => exact eq_comm.trans (w.ingress_name_iff k)
    | service v => exact w.display_eq_iff v
    | edge e => exact e.workload_name_iff w
  | edge e =>
    cases y with
    | ingress k => exact eq_comm.trans (e.ingress_name_iff k)
    | service w => exact eq_comm.trans (e.workload_name_iff w)
    | edge f => exact e.display_eq_iff f

end Entity

variable {α : Type}

def Aggregate.entity : Aggregate α → Entity
  | ingress backend _ _ => .ingress backend
  | service w _ _ => .service w
  | edge e _ _ => .edge e

theorem Aggregate.name_of_entity (a : Aggregate α) : a.seriesName = a.entity.seriesName := by
  cases a <;> rfl

namespace Increments

variable [Scalar α] (d : Increments α) (window : α)

def Has : Entity → Prop
  | .ingress k => (∃ r ∈ d.ingressCounts, r.routing.backend = k) ∨
      ∃ r ∈ d.ingressTiming, r.routing.backend = k
  | .service w => (∃ r ∈ d.meshCounts, r.routing.mesh.ReceivedBy w) ∨
      ∃ r ∈ d.meshTiming, r.routing.ReceivedBy w
  | .edge e => (∃ r ∈ d.meshCounts, r.routing.mesh.CallsOver e) ∨
      ∃ r ∈ d.meshTiming, r.routing.CallsOver e

def ReadApart : Prop := ∀ x y, d.Has x → d.Has y → x.ReadsAs y → x = y

def entities : List Entity :=
  (sumIngress d).keys.map .ingress ++ (sumWorkloads d).keys.map .service ++
    (sumEdges d).keys.map .edge

theorem aggregate_entities : (d.aggregates window).map Aggregate.entity = d.entities := by
  simp only [aggregates, entities, KeyMap.keys, KeyMap.toList, List.map_append, List.map_map]
  rfl

theorem entities_nodup : d.entities.Nodup := by
  have hingress : ((sumIngress d).keys.map Entity.ingress).Nodup :=
    List.Nodup.map (fun _ _ h => Entity.ingress.inj h) (KeyMap.keys_nodup _)
  have hservice : ((sumWorkloads d).keys.map Entity.service).Nodup :=
    List.Nodup.map (fun _ _ h => Entity.service.inj h) (KeyMap.keys_nodup _)
  have hedge : ((sumEdges d).keys.map Entity.edge).Nodup :=
    List.Nodup.map (fun _ _ h => Entity.edge.inj h) (KeyMap.keys_nodup _)
  refine (hingress.append hservice ?_).append hedge ?_
  · simp [List.disjoint_left]
  · simp only [List.disjoint_left, List.mem_append, List.mem_map]
    rintro x (⟨k, -, rfl⟩ | ⟨w, -, rfl⟩) ⟨e, -, he⟩ <;> cases he

theorem mem_ingress_keys (k : String) : k ∈ (sumIngress d).keys ↔ d.Has (.ingress k) := by
  rw [KeyMap.mem_keys, sum_ingress_placed, placed_isSome]
  simp [Has, List.filter_eq_nil_iff]

theorem mem_mesh_keys {κ : Type} [Ord κ] [Std.TransOrd κ] [Std.LawfulEqOrd κ] [DecidableEq κ]
    (place : MeshRouting → Option κ) (isError : ResponseRouting → Bool) (k : κ) :
    k ∈ (sumMesh place isError d).keys ↔ (∃ r ∈ d.meshCounts, place r.routing.mesh = some k) ∨
      ∃ r ∈ d.meshTiming, place r.routing = some k := by
  rw [KeyMap.mem_keys, sum_mesh_placed, placed_isSome]
  simp [List.filter_eq_nil_iff]

theorem mem_entities (x : Entity) : x ∈ d.entities ↔ d.Has x := by
  cases x with
  | ingress k =>
    rw [← mem_ingress_keys]
    simp [entities]
  | service w =>
    have hkeys := d.mem_mesh_keys MeshRouting.received? (fun r => r.classification != "success") w
    simp only [received_iff] at hkeys
    refine Iff.trans ?_ hkeys
    simp [entities, sumWorkloads]
  | edge e =>
    have hkeys := d.mem_mesh_keys MeshRouting.called? (fun r => isNoSuccess r.mesh.statusCode) e
    simp only [called_iff] at hkeys
    refine Iff.trans ?_ hkeys
    simp [entities, sumEdges]

theorem series_names :
    (d.aggregates window).map Aggregate.seriesName = d.entities.map Entity.seriesName := by
  rw [← aggregate_entities d window, List.map_map]
  exact List.map_congr_left fun a _ => a.name_of_entity

theorem names_nodup_iff :
    ((d.aggregates window).map Aggregate.seriesName).Nodup ↔ d.ReadApart := by
  rw [series_names, List.nodup_map_iff_inj_on d.entities_nodup]
  simp only [mem_entities, Entity.series_name_eq_iff, ReadApart]
  exact ⟨fun h x y hx hy => h x hx y hy, fun h x hx y hy => h x y hx hy⟩

end Increments

theorem filter_own_key {σ κ : Type} [DecidableEq κ] (key : σ → κ) {l : List σ}
    (hkeys : (l.map key).Nodup) {a : σ} (ha : a ∈ l) : (l.filter fun s => key s = key a) = [a] := by
  induction l with
  | nil => cases ha
  | cons b l ih =>
    obtain ⟨hb, hl⟩ := List.nodup_cons.mp hkeys
    rcases List.mem_cons.mp ha with rfl | ha
    · have hnone : (l.filter fun s => key s = key a) = [] := by
        rw [List.filter_eq_nil_iff]
        intro s hs hkey
        exact hb (of_decide_eq_true hkey ▸ List.mem_map_of_mem hs)
      rw [List.filter_cons_of_pos (by simp), hnone]
    · have hne : key b ≠ key a := fun h => hb (h ▸ List.mem_map_of_mem ha)
      rw [List.filter_cons_of_neg (by simpa using hne), ih hl ha]

/-- An aggregate whose name no other of the list has is the only one that writes to its
ring. -/
theorem SeriesStore.find_recorded (c : SeriesStore α) (nodes : List (NodeUse α))
    {slos : List (Aggregate α)} (hnames : (slos.map Aggregate.seriesName).Nodup) (time : Instant)
    {a : Aggregate α} (ha : a ∈ slos) :
    (c.record nodes slos time).slos.find? a.seriesName =
      some (((c.slos.find? a.seriesName).getD (.ofCapacity c.capacity)).write time.minute
        a.point) := by
  have hfold := KeyMap.find?_foldl_accumulate Aggregate.seriesName
    (fun _ => MinuteRing.ofCapacity c.capacity)
    (fun (s : Aggregate α) r => r.write time.minute s.point) slos c.slos a.seriesName
  rw [filter_own_key Aggregate.seriesName hnames ha] at hfold
  exact hfold

def PlainText (s : String) : Prop := '/' ∉ s.toList ∧ '>' ∉ s.toList

def Workload.Plain (w : Workload) : Prop :=
  PlainText w.ns ∧ PlainText w.name ∧ beginsWith w.ns "ingress:" = false

def Entity.Plain : Entity → Prop
  | ingress _ => True
  | service w => w.Plain
  | edge e => e.src.Plain ∧ e.dst.Plain

instance (s : String) : Decidable (PlainText s) := inferInstanceAs (Decidable (_ ∧ _))

instance (w : Workload) : Decidable w.Plain := inferInstanceAs (Decidable (_ ∧ _ ∧ _))

instance (x : Entity) : Decidable x.Plain :=
  match x with
  | .ingress _ => inferInstanceAs (Decidable True)
  | .service w => inferInstanceAs (Decidable w.Plain)
  | .edge e => inferInstanceAs (Decidable (e.src.Plain ∧ e.dst.Plain))

theorem slash_of_moved {w v : Workload} (h : w.SlashMoves v) : '/' ∈ v.ns.toList := by
  obtain ⟨t, hns, -⟩ := h
  simp [hns]

theorem head_of_moved {e f : Edge} (h : e.ArrowMoves f) : '>' ∈ e.dst.display.toList := by
  obtain ⟨t, -, hdst⟩ := h
  simp [hdst]

namespace Workload

theorem not_ingress {w : Workload} (hns : beginsWith w.ns "ingress:" = false)
    (backend : String) : ¬ w.ReadsAsIngress backend := by
  rintro ⟨t, ht, -⟩
  simp [ht, beginsWith] at hns

theorem Plain.display {w : Workload} (hw : w.Plain) : '>' ∉ w.display.toList := by
  simp [Workload.display, hw.1.2, hw.2.1.2]

theorem Plain.eq {w v : Workload} (hw : w.Plain) (hv : v.Plain) (h : w.ReadsAs v) : w = v := by
  rcases h with h | h | h
  · exact h
  · exact absurd (slash_of_moved h) hv.1.1
  · exact absurd (slash_of_moved h) hw.1.1

theorem Plain.not_edge {w : Workload} {e : Edge} (hw : w.Plain) (he : e.src.Plain) :
    ¬ w.ReadsAs e.asWorkload := by
  rintro (h | h | h)
  · refine absurd ?_ hw.2.1.2
    simp [h, Edge.asWorkload]
  · exact absurd (slash_of_moved h) he.1.1
  · exact absurd (slash_of_moved h) hw.1.1

end Workload

theorem Edge.not_ingress {e : Edge} (he : e.src.Plain) (backend : String) :
    ¬ e.asWorkload.ReadsAsIngress backend := by
  have hns : beginsWith e.asWorkload.ns "ingress:" = false := he.2.2
  exact Workload.not_ingress hns backend

theorem Edge.eq_of_plain {e f : Edge} (he : e.src.Plain ∧ e.dst.Plain)
    (hf : f.src.Plain ∧ f.dst.Plain) (h : e.ReadsAs f) : e = f := by
  rcases h with ⟨hsrc, hdst⟩ | h | h
  · have hsame := he.1.eq hf.1 hsrc
    have hdsts := he.2.eq hf.2 hdst
    cases e
    cases f
    rw [Edge.mk.injEq]
    exact ⟨hsame, hdsts⟩
  · exact absurd (head_of_moved h) he.2.display
  · exact absurd (head_of_moved h) hf.2.display

theorem Entity.eq_of_plain {x y : Entity} (hx : x.Plain) (hy : y.Plain) (h : x.ReadsAs y) :
    x = y := by
  cases x with
  | ingress k =>
    cases y with
    | ingress l => exact congrArg ingress h
    | service w => exact absurd h (Workload.not_ingress hy.2.2 k)
    | edge e => exact absurd h (Edge.not_ingress hy.1 k)
  | service w =>
    cases y with
    | ingress k => exact absurd h (Workload.not_ingress hx.2.2 k)
    | service v => exact congrArg service (Workload.Plain.eq hx hy h)
    | edge e => exact absurd h (Workload.Plain.not_edge hx hy.1)
  | edge e =>
    cases y with
    | ingress k => exact absurd h (Edge.not_ingress hx.1 k)
    | service w => exact absurd h (Workload.Plain.not_edge hy hx.1)
    | edge f => exact congrArg edge (Edge.eq_of_plain hx hy h)

/-- Each aggregate of a cycle has a series of its own if and only if no two entities of the
cycle can be read from one name. Its ring then gets its own point of the cycle and no
other. Plain texts of namespaces and workloads are never read in two ways. -/
theorem own_series_iff [Scalar α] (d : Increments α) (window : α) :
    (((d.aggregates window).map Aggregate.seriesName).Nodup ↔ d.ReadApart) ∧
      (d.ReadApart → ∀ (c : SeriesStore α) (nodes : List (NodeUse α)) (time : Instant),
        ∀ a ∈ d.aggregates window,
          (c.record nodes (d.aggregates window) time).slos.find? a.seriesName =
            some (((c.slos.find? a.seriesName).getD (.ofCapacity c.capacity)).write
              time.minute a.point)) ∧
      ((∀ x, d.Has x → x.Plain) → d.ReadApart) := by
  have hnames := d.names_nodup_iff window
  refine ⟨hnames, ?_, ?_⟩
  · intro hapart c nodes time a ha
    exact c.find_recorded nodes (hnames.mpr hapart) time ha
  · intro hplain x y hx hy h
    exact Entity.eq_of_plain (hplain x hx) (hplain y hy) h

def plainShop : Increments Float where
  ingressCounts := [⟨⟨"shop/web|200|GET"⟩, ⟨"shop/web", "200", "GET"⟩, 90⟩]
  ingressTiming := []
  meshCounts := [⟨⟨"web-1"⟩,
      ⟨⟨.inbound, ⟨"shop", "web"⟩, ⟨"shop", "web"⟩, "200"⟩, "success", true⟩, 20⟩,
    ⟨⟨"web-1|db"⟩,
      ⟨⟨.outbound, ⟨"shop", "web"⟩, ⟨"shop", "db"⟩, "200"⟩, "success", true⟩, 5⟩]
  meshTiming := []
  stats := .zero

theorem plain_shop_own_series :
    (∀ x, plainShop.Has x → x.Plain) ∧ plainShop.ReadApart ∧
      ((plainShop.aggregates 10).map Aggregate.seriesName).Nodup := by
  have hentities : ∀ x ∈ plainShop.entities, x.Plain := by decide +kernel
  have hplain : ∀ x, plainShop.Has x → x.Plain :=
    fun x hx => hentities x ((plainShop.mem_entities x).mpr hx)
  obtain ⟨hnames, -, hapart⟩ := own_series_iff plainShop 10
  exact ⟨hplain, hapart hplain, hnames.mpr (hapart hplain)⟩

def slashedShop : Increments Float where
  ingressCounts := []
  ingressTiming := []
  meshCounts := [⟨⟨"v1"⟩,
      ⟨⟨.inbound, ⟨"shop/api", "v1"⟩, ⟨"shop/api", "v1"⟩, "200"⟩, "success", true⟩, 10⟩,
    ⟨⟨"api/v1"⟩,
      ⟨⟨.inbound, ⟨"shop", "api/v1"⟩, ⟨"shop", "api/v1"⟩, "200"⟩, "success", true⟩, 20⟩]
  meshTiming := []
  stats := .zero

theorem slashed_workloads_share_series :
    ¬ ∀ (d : Increments Float) (window : Float),
      ((d.aggregates window).map Aggregate.seriesName).Nodup := by
  intro h
  have hapart := (slashedShop.names_nodup_iff 10).mp (h slashedShop 10)
  have hsame := hapart (.service ⟨"shop", "api/v1"⟩) (.service ⟨"shop/api", "v1"⟩)
    (.inl ⟨_, List.mem_cons_of_mem _ List.mem_cons_self, by decide⟩)
    (.inl ⟨_, List.mem_cons_self, by decide⟩) (.inr (.inl ⟨"api", by decide, by decide⟩))
  exact absurd hsame (by decide)

end ScrapeTelemetry
