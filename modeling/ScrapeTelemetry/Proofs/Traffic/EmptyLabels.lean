import ScrapeTelemetry.Proofs.Traffic.Pairing

/-!
# Empty labels

A label without a value says nothing: whatever is read of a sample is read through the
labels that have one. So samples that differ in empty labels only are recognized alike, and
an empty label hides none that would be read in its place.
-/

set_option autoImplicit false

namespace ScrapeTelemetry
open Scalar

variable {α : Type}

structure SameButEmpty (s t : Sample α) : Prop where
  name : s.name = t.name
  kind : s.kind = t.kind
  value : s.value = t.value
  labels : ∀ key text, text ≠ "" →
    (s.labels.find? key = some text ↔ t.labels.find? key = some text)

theorem label_iff (s : Sample α) (key text : String) :
    s.label? key = some text ↔ s.labels.find? key = some text ∧ text ≠ "" := by
  unfold Sample.label?
  cases s.labels.find? key with
  | none => simp
  | some v => grind [String.isEmpty_iff]

namespace SameButEmpty

variable {s t : Sample α} (h : SameButEmpty s t)
include h

theorem label : s.label? = t.label? := by
  funext key
  apply Option.ext
  intro text
  rw [label_iff, label_iff]
  exact and_congr_left fun htext => h.labels key text htext

/-- What is read of an ingress or of the mesh leaves the labels of histograms out. -/
theorem same_traffic_labels : SameTrafficLabels s t := fun key _ _ => congrFun h.label key

theorem any_label (keys : List String) : s.anyLabel? keys = t.anyLabel? keys := by
  rw [Sample.anyLabel?, Sample.anyLabel?, h.label]

theorem ingress_count (vendor : Vendor) (backend? : Option String) :
    s.ingressCount? vendor backend? = t.ingressCount? vendor backend? := by
  unfold Sample.ingressCount?
  rw [h.kind, h.value]
  simp only [h.same_traffic_labels.ingress_route]

theorem mesh_count : s.meshCount? = t.meshCount? := by
  unfold Sample.meshCount? Sample.classification
  rw [h.same_traffic_labels.mesh_flow, h.label, h.value]

theorem node_quantity : s.nodeQuantity? = t.nodeQuantity? := by
  unfold Sample.nodeQuantity?
  rw [h.name, h.label]

theorem node_reading (n : Recognizer) : n.nodeReading? s = n.nodeReading? t := by
  have hnode : n.nodeOf? s = n.nodeOf? t := by
    rw [Recognizer.nodeOf?, Recognizer.nodeOf?, h.any_label, h.label]
  rw [Recognizer.nodeReading?, Recognizer.nodeReading?, h.node_quantity, hnode, h.value]

variable [Scalar α]

theorem series_role (scale : α) : s.seriesRole? scale = t.seriesRole? scale := by
  unfold Sample.seriesRole?
  rw [h.name, h.label, h.value]

theorem ingress_timing (vendor : Vendor) (backend? : Option String) (scale : α) :
    s.ingressTiming? vendor backend? scale = t.ingressTiming? vendor backend? scale := by
  unfold Sample.ingressTiming?
  rw [h.series_role]
  simp only [h.same_traffic_labels.ingress_route]

theorem mesh_timing : s.meshTiming? = t.meshTiming? := by
  rw [Sample.meshTiming?, Sample.meshTiming?, h.series_role, h.same_traffic_labels.mesh_flow]

end SameButEmpty

/-- Samples that differ in empty labels only are recognized alike. -/
theorem empty_labels_unread [Scalar α] (n : Recognizer) {s t : Sample α}
    (h : SameButEmpty s t) : n.recognize s = n.recognize t := by
  have hnginx : s.nginxBackend? = t.nginxBackend? := h.same_traffic_labels.backend .nginx
  unfold Recognizer.recognize
  simp only [h.value, h.name, h.label, hnginx, h.ingress_count, h.ingress_timing, h.mesh_count,
    h.mesh_timing, h.node_reading]

def namedCall : Sample Rat :=
  ⟨"response_total", .counter, .ofList [("direction", "outbound"), ("pod", "web-1"),
    ("namespace", "shop"), ("dst_service", "db"), ("status_code", "200")], 7⟩

def halfNamedCall : Sample Rat :=
  { namedCall with
    labels := (namedCall.labels.insert "dst_deployment" "").insert "classification" "" }

theorem half_named_call_read :
    SameButEmpty halfNamedCall namedCall ∧
      Recognizer.recognize {} halfNamedCall = Recognizer.recognize {} namedCall ∧
      ∃ c : MeshCount Rat, Recognizer.recognize {} namedCall = some (.meshCount c) ∧
        c.flow.dst = ⟨"shop", "db"⟩ ∧ c.classification = "success" := by
  have hsame : SameButEmpty halfNamedCall namedCall := by
    refine ⟨rfl, rfl, rfl, fun key text htext => ?_⟩
    have hdeployment : namedCall.labels.find? "dst_deployment" = none := by decide +kernel
    have hclass : namedCall.labels.find? "classification" = none := by decide +kernel
    simp only [halfNamedCall, KeyMap.find?_insert]
    grind
  exact ⟨hsame, empty_labels_unread {} hsame, _, rfl, by decide +kernel, by decide +kernel⟩

end ScrapeTelemetry
