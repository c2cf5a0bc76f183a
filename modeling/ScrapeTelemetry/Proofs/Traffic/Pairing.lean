import Mathlib
import ScrapeTelemetry.Traffic.Business
import ScrapeTelemetry.Traffic.Recognizer

/-!
# Requests and their latency stay together

The requests of a source are counted in one metric and timed in another. The samples of
both with the same labels are recognized together, as the same traffic, and a filter keeps
both or neither: the labels by which a series of a histogram is told apart say nothing
about the requests.
-/

set_option autoImplicit false

namespace ScrapeTelemetry
open Scalar

variable {α : Type}

inductive RequestMetric where
  | traefik
  | nginx
  | kongRequests
  | kongStatus
  | mesh
  deriving DecidableEq, Repr

inductive LatencyMetric where
  | traefik
  | nginx
  | kongRequest
  | kongTyped
  | mesh
  deriving DecidableEq, Repr

inductive LatencySeries where
  | bucket (bound : String)
  | sum
  | count
  deriving DecidableEq, Repr

def RequestMetric.name : RequestMetric → String
  | traefik => "traefik_service_requests_total"
  | nginx => "nginx_ingress_controller_requests"
  | kongRequests => "kong_http_requests_total"
  | kongStatus => "kong_http_status"
  | mesh => "response_total"

def RequestMetric.vendor? : RequestMetric → Option Vendor
  | traefik => some .traefik
  | nginx => some .nginx
  | kongRequests | kongStatus => some .kong
  | mesh => none

namespace LatencyMetric

def stem : LatencyMetric → String
  | traefik => "traefik_service_request_duration_seconds"
  | nginx => "nginx_ingress_controller_request_duration_seconds"
  | kongRequest => "kong_request_latency_ms"
  | kongTyped => "kong_latency"
  | mesh => "response_latency_ms"

def vendor? : LatencyMetric → Option Vendor
  | traefik => some .traefik
  | nginx => some .nginx
  | kongRequest | kongTyped => some .kong
  | mesh => none

def scale [Scalar α] : LatencyMetric → α
  | traefik | nginx => 1000
  | kongRequest | kongTyped | mesh => 1

def ofRequests (labels : Labels) : LatencyMetric → Labels
  | kongTyped => labels.insert "type" "request"
  | _ => labels

end LatencyMetric

namespace LatencySeries

def ending : LatencySeries → String
  | bucket _ => "_bucket"
  | sum => "_sum"
  | count => "_count"

def bounded (labels : Labels) : LatencySeries → Labels
  | bucket bound => labels.insert "le" bound
  | _ => labels

def IsReadable : LatencySeries → Prop
  | bucket bound => ∃ n, Numeral.read? bound.toList = some n ∧ n ≠ .undefined
  | _ => True

end LatencySeries

def requestSample (r : RequestMetric) (kind : SampleKind) (labels : Labels) (v : α) : Sample α :=
  ⟨r.name, kind, labels, v⟩

def latencySample (l : LatencyMetric) (series : LatencySeries) (kind : SampleKind)
    (labels : Labels) (v : α) : Sample α :=
  ⟨l.stem ++ series.ending, kind, series.bounded (l.ofRequests labels), v⟩

namespace Sample

def backend? (s : Sample α) : Vendor → Option String
  | .nginx => s.nginxBackend?
  | .traefik | .kong => s.label? "service"

def isIdentified (s : Sample α) : Option Vendor → Bool
  | some vendor => (s.backend? vendor).isSome
  | none => s.direction?.isSome

end Sample

def SameTrafficLabels (s t : Sample α) : Prop :=
  ∀ key, key ≠ "le" → key ≠ "type" → s.label? key = t.label? key

theorem label_insert (name name' : String) (kind kind' : SampleKind) (labels : Labels)
    (v w : α) (key key' value : String) (h : key ≠ key') :
    (Sample.mk name kind (labels.insert key' value) v).label? key =
      (Sample.mk name' kind' labels w).label? key := by
  simp only [Sample.label?, KeyMap.find?_insert, if_neg h]

theorem latency_labels (r : RequestMetric) (l : LatencyMetric) (series : LatencySeries)
    (kind kind' : SampleKind) (labels : Labels) (v w : α) :
    SameTrafficLabels (requestSample r kind labels v)
      (latencySample l series kind' labels w) := by
  intro key hle htype
  have htyped : (requestSample r kind labels v).label? key =
      (Sample.mk l.stem kind' (l.ofRequests labels) w).label? key := by
    cases l with
    | kongTyped => exact (label_insert _ _ _ _ _ _ _ _ _ _ htype).symm
    | _ => rfl
  rw [htyped]
  cases series with
  | bucket bound => exact (label_insert _ _ _ _ _ _ _ _ _ _ hle).symm
  | sum => rfl
  | count => rfl

namespace SameTrafficLabels

variable {s t : Sample α} (h : SameTrafficLabels s t)
include h

theorem label_or_empty (key : String) (hle : key ≠ "le") (htype : key ≠ "type") :
    s.labelOrEmpty key = t.labelOrEmpty key := by
  rw [Sample.labelOrEmpty, Sample.labelOrEmpty, h key hle htype]

theorem any_label (keys : List String) (hle : "le" ∉ keys) (htype : "type" ∉ keys) :
    s.anyLabel? keys = t.anyLabel? keys := by
  induction keys with
  | nil => rfl
  | cons key keys ih =>
    rw [List.mem_cons, not_or] at hle htype
    have hkey := h key (Ne.symm hle.1) (Ne.symm htype.1)
    have hkeys := ih hle.2 htype.2
    simp only [Sample.anyLabel?, List.findSome?_cons] at hkeys ⊢
    rw [hkey, hkeys]

theorem ingress_route (vendor : Vendor) (backend : String) :
    s.ingressRoute vendor backend = t.ingressRoute vendor backend := by
  unfold Sample.ingressRoute
  rw [h "namespace" (by decide) (by decide), h "path" (by decide) (by decide),
    h.any_label codeLabels (by decide) (by decide),
    h.label_or_empty "method" (by decide) (by decide)]

theorem backend (vendor : Vendor) : s.backend? vendor = t.backend? vendor := by
  have hservice := h "service" (by decide) (by decide)
  cases vendor with
  | traefik => exact hservice
  | kong => exact hservice
  | nginx =>
    unfold Sample.backend? Sample.nginxBackend?
    rw [hservice, h "namespace" (by decide) (by decide), h "host" (by decide) (by decide)]

theorem direction : s.direction? = t.direction? := by
  rw [Sample.direction?, Sample.direction?, h "direction" (by decide) (by decide)]

theorem called_workload (workload : Workload) :
    s.calledWorkload workload = t.calledWorkload workload := by
  unfold Sample.calledWorkload
  rw [h.any_label calledOwnerLabels (by decide) (by decide),
    h "dst_namespace" (by decide) (by decide), h "authority" (by decide) (by decide)]

theorem mesh_flow : s.meshFlow? = t.meshFlow? := by
  unfold Sample.meshFlow?
  rw [h.direction, h.label_or_empty "pod" (by decide) (by decide),
    h.label_or_empty "namespace" (by decide) (by decide),
    h.any_label ownerLabels (by decide) (by decide),
    h.label_or_empty "status_code" (by decide) (by decide),
    h "target_addr" (by decide) (by decide), h "authority" (by decide) (by decide),
    h "route_name" (by decide) (by decide)]
  simp only [h.called_workload]

end SameTrafficLabels

theorem ingress_count_some (s : Sample α) (vendor : Vendor) (backend? : Option String)
    (hkind : s.kind ≠ .gauge) :
    s.ingressCount? vendor backend? =
      backend?.map fun key => .ingressCount ⟨s.ingressRoute vendor key, s.value⟩ := by
  unfold Sample.ingressCount?
  simp only [if_neg hkind]
  exact Option.map_eq_bind.symm

section

variable [Scalar α]

theorem series_role_some (l : LatencyMetric) (series : LatencySeries) (hread : series.IsReadable)
    (kind : SampleKind) (labels : Labels) (v scale : α) :
    ((latencySample l series kind labels v).seriesRole? scale).isSome := by
  have hname : (latencySample l series kind labels v).name = l.stem ++ series.ending := rfl
  unfold Sample.seriesRole?
  rw [hname]
  cases series with
  | bucket bound =>
    obtain ⟨n, hn, hdefined⟩ := hread
    have hbucket : endsWith (l.stem ++ "_bucket") "_bucket" = true := by cases l <;> decide
    have hbound : bound.isEmpty = false := by
      have hnone : Numeral.read? "".toList = none := by decide
      rw [Bool.eq_false_iff, ne_eq, String.isEmpty_iff]
      rintro rfl
      rw [hnone] at hn
      cases hn
    have hle : (latencySample l (.bucket bound) kind labels v).label? "le" = some bound := by
      simp only [Sample.label?, latencySample, LatencySeries.bounded, KeyMap.find?_insert,
        if_true, hbound]
      rfl
    rw [LatencySeries.ending, if_pos hbucket, hle]
    simp [hn, hdefined]
  | sum =>
    have hbucket : endsWith (l.stem ++ "_sum") "_bucket" = false := by cases l <;> decide
    have hsum : endsWith (l.stem ++ "_sum") "_sum" = true := by cases l <;> decide
    rw [LatencySeries.ending, hbucket, hsum]
    rfl
  | count =>
    have hbucket : endsWith (l.stem ++ "_count") "_bucket" = false := by cases l <;> decide
    have hsum : endsWith (l.stem ++ "_count") "_sum" = false := by cases l <;> decide
    have hcount : endsWith (l.stem ++ "_count") "_count" = true := by cases l <;> decide
    rw [LatencySeries.ending, hbucket, hsum, hcount]
    rfl

theorem recognize_request (n : Recognizer) (r : RequestMetric) (kind : SampleKind)
    (labels : Labels) (v : α) (hv : Scalar.isFinite v = true) :
    n.recognize (requestSample r kind labels v) =
      match r.vendor? with
      | some vendor => (requestSample r kind labels v).ingressCount? vendor
          ((requestSample r kind labels v).backend? vendor)
      | none => (requestSample r kind labels v).meshCount? := by
  have hname : (requestSample r kind labels v).name = r.name := rfl
  have hvalue : (requestSample r kind labels v).value = v := rfl
  unfold Recognizer.recognize
  rw [hvalue, hv, hname]
  cases r <;>
    simp +decide only [RequestMetric.vendor?, Sample.backend?, if_true, if_false, false_and]

theorem recognize_latency (n : Recognizer) (l : LatencyMetric) (series : LatencySeries)
    (kind : SampleKind) (labels : Labels) (v : α) (hv : Scalar.isFinite v = true) :
    n.recognize (latencySample l series kind labels v) =
      match l.vendor? with
      | some vendor => (latencySample l series kind labels v).ingressTiming? vendor
          ((latencySample l series kind labels v).backend? vendor) l.scale
      | none => (latencySample l series kind labels v).meshTiming? := by
  have hname : (latencySample l series kind labels v).name = l.stem ++ series.ending := rfl
  have hvalue : (latencySample l series kind labels v).value = v := rfl
  have htyped : (latencySample .kongTyped series kind labels v).label? "type" =
      some "request" := by
    have hinsert : (Sample.mk (LatencyMetric.stem .kongTyped) kind
        (labels.insert "type" "request") v).label? "type" = some "request" := by
      simp only [Sample.label?, KeyMap.find?_insert, if_true]
      rfl
    cases series with
    | bucket bound =>
      exact (label_insert _ _ _ _ _ _ _ _ _ _ (by decide : "type" ≠ "le")).trans hinsert
    | sum => exact hinsert
    | count => exact hinsert
  unfold Recognizer.recognize
  rw [hvalue, hv, hname]
  cases l <;> cases series <;>
    simp +decide only [LatencySeries.ending, LatencyMetric.vendor?, LatencyMetric.scale,
      Sample.backend?, if_true, if_false, false_and, htyped, and_true]

theorem ingress_timing_some (s : Sample α) (vendor : Vendor) (backend? : Option String)
    (scale : α) (hrole : (s.seriesRole? scale).isSome) :
    ∃ part value, s.ingressTiming? vendor backend? scale =
      backend?.map fun key => .ingressTiming ⟨s.ingressRoute vendor key, part, value⟩ := by
  obtain ⟨⟨part, value⟩, hsome⟩ := Option.isSome_iff_exists.mp hrole
  refine ⟨part, value, ?_⟩
  unfold Sample.ingressTiming?
  rw [hsome]
  exact Option.map_eq_bind.symm

theorem mesh_timing_some (s : Sample α) (hrole : (s.seriesRole? 1).isSome) :
    ∃ part value, s.meshTiming? =
      s.meshFlow?.map fun flow => .meshTiming ⟨flow, part, value⟩ := by
  obtain ⟨⟨part, value⟩, hsome⟩ := Option.isSome_iff_exists.mp hrole
  refine ⟨part, value, ?_⟩
  unfold Sample.meshTiming?
  rw [hsome]
  rfl

end

def SameTraffic : TrafficSample α → TrafficSample α → Prop
  | .ingressCount c, .ingressTiming t => c.route = t.route ∧ c.entityId = t.entityId
  | .meshCount c, .meshTiming t => c.flow = t.flow
  | _, _ => False

theorem same_traffic_admitted {q t : TrafficSample α} (h : SameTraffic q t)
    (f : BusinessFilter) : f.admits q = f.admits t := by
  unfold SameTraffic at h
  split at h
  · exact congrArg f.admitsIngress h.1
  · exact congrArg f.admitsMesh h
  · exact h.elim

theorem joined_of_map {β : Type} (o : Option β) (f g : β → TrafficSample α)
    (h : ∀ b, SameTraffic (f b) (g b)) :
    (o.map f).isSome = (o.map g).isSome ∧ (o.map f).isSome = o.isSome ∧
      ∀ q ∈ o.map f, ∀ t ∈ o.map g,
        SameTraffic q t ∧ ∀ filter : BusinessFilter, filter.admits q = filter.admits t := by
  refine ⟨by rw [Option.isSome_map, Option.isSome_map], Option.isSome_map, ?_⟩
  intro q hq t ht
  obtain ⟨b, hb, rfl⟩ := Option.map_eq_some_iff.mp hq
  obtain ⟨c, hc, rfl⟩ := Option.map_eq_some_iff.mp ht
  obtain rfl := Option.some.inj (hb.symm.trans hc)
  exact ⟨h b, same_traffic_admitted (h b)⟩

/-- Of requests and their latency both are recognized, as the same traffic, or neither: it
takes labels that say whose traffic it is. -/
theorem requests_and_latency_joined [Scalar α] (n : Recognizer) (r : RequestMetric)
    (l : LatencyMetric) (hmetrics : r.vendor? = l.vendor?) (series : LatencySeries)
    (hread : series.IsReadable) (kind kind' : SampleKind) (hkind : kind ≠ .gauge)
    (labels : Labels) (v w : α) (hv : isFinite v = true) (hw : isFinite w = true) :
    (n.recognize (requestSample r kind labels v)).isSome =
        (n.recognize (latencySample l series kind' labels w)).isSome ∧
      (n.recognize (requestSample r kind labels v)).isSome =
        (requestSample r kind labels v).isIdentified r.vendor? ∧
      ∀ q ∈ n.recognize (requestSample r kind labels v),
        ∀ t ∈ n.recognize (latencySample l series kind' labels w),
          SameTraffic q t ∧ ∀ filter : BusinessFilter, filter.admits q = filter.admits t := by
  have hlabels := latency_labels r l series kind kind' labels v w
  have hrole := series_role_some l series hread kind' labels w
  rw [recognize_request n r kind labels v hv, recognize_latency n l series kind' labels w hw,
    ← hmetrics]
  cases r.vendor? with
  | some vendor =>
    obtain ⟨part, value, htiming⟩ := ingress_timing_some _ vendor
      ((latencySample l series kind' labels w).backend? vendor) l.scale (hrole l.scale)
    have hcount := ingress_count_some (requestSample r kind labels v) vendor
      ((requestSample r kind labels v).backend? vendor) hkind
    rw [← hlabels.backend vendor] at htiming
    simp only [hcount, htiming, ← hlabels.backend vendor]
    apply joined_of_map
    intro key
    have hroute := hlabels.ingress_route vendor key
    exact ⟨hroute, congrArg IngressRoute.entityId hroute⟩
  | none =>
    obtain ⟨part, value, htiming⟩ := mesh_timing_some _ (hrole 1)
    have hidentified : (requestSample r kind labels v).isIdentified none =
        (requestSample r kind labels v).meshFlow?.isSome := Option.isSome_map.symm
    simp only [htiming, ← hlabels.mesh_flow, Sample.meshCount?, hidentified]
    apply joined_of_map
    intro flow
    rfl

def shopLabels : Labels :=
  .ofList [("service", "web"), ("namespace", "shop"), ("path", "/cart"), ("status", "200"),
    ("method", "get"), ("type", "kong"), ("le", "")]

/-- The labels of the requests may hold anything under the names that histograms use. -/
theorem shop_requests_joined :
    RequestMetric.kongStatus.vendor? = LatencyMetric.kongTyped.vendor? ∧
    (LatencySeries.bucket "0.5").IsReadable ∧ SampleKind.counter ≠ .gauge ∧
    isFinite (7 : Rat) = true ∧ isFinite (3 : Rat) = true ∧
    (requestSample .kongStatus .counter shopLabels (7 : Rat)).isIdentified (some .kong) = true ∧
    ∃ q t, Recognizer.recognize {} (requestSample .kongStatus .counter shopLabels (7 : Rat)) =
        some q ∧
      Recognizer.recognize {} (latencySample .kongTyped (.bucket "0.5") .histogramBucket shopLabels
        (3 : Rat)) = some t ∧
      SameTraffic q t ∧ ∀ filter : BusinessFilter, filter.admits q = filter.admits t := by
  have hread : (LatencySeries.bucket "0.5").IsReadable :=
    ⟨.finite ⟨false, 5, -1⟩, by decide, by decide⟩
  have hknown : (requestSample .kongStatus .counter shopLabels (7 : Rat)).isIdentified
      (some .kong) = true := by decide +kernel
  obtain ⟨hboth, hidentified, hjoined⟩ := requests_and_latency_joined {} .kongStatus .kongTyped rfl
    (.bucket "0.5") hread .counter .histogramBucket (by decide) shopLabels (7 : Rat) (3 : Rat)
    rfl rfl
  obtain ⟨q, hq⟩ := Option.isSome_iff_exists.mp (hidentified.trans hknown)
  obtain ⟨t, ht⟩ := Option.isSome_iff_exists.mp (hboth.symm.trans (hidentified.trans hknown))
  exact ⟨rfl, hread, by decide, rfl, rfl, hknown, q, t, hq, ht, hjoined q hq t ht⟩

end ScrapeTelemetry
