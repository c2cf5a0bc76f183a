import ScrapeTelemetry.Number.Scalar
import ScrapeTelemetry.Proofs.Text.Ports
import ScrapeTelemetry.Traffic.Business

/-!
# What is no business traffic

The filter drops a sample if and only if a rule of its settings excludes it. Probe patterns
exclude paths and routes, but no authority: a call whose authority alone is that of a
probe passes.
-/

set_option autoImplicit false

namespace ScrapeTelemetry

variable {α : Type}

namespace FilterSettings

variable (s : FilterSettings)

def Probes (text : String) : Prop :=
  ∃ source ∈ s.probePaths, ∃ p, Pattern.ofText? source = some p ∧ p.isMatch text = true

def ExcludesRoute (r : IngressRoute) : Prop :=
  (s.dropInternalIngress = true ∧ ∃ name, r.backend = name ++ "@internal") ∨
    (∃ ns ∈ r.ns, ns ∈ s.deniedNamespaces) ∨ ∃ path ∈ r.path, s.Probes path

def ExcludesFlow (m : MeshFlow) : Prop :=
  (m.workload.ns ∈ s.deniedNamespaces ∨ m.dst.ns ∈ s.deniedNamespaces) ∨
    (∃ port ∈ s.adminPorts,
      port ∈ m.targetPort ∨ ∃ address ∈ m.authority, HasPort address port) ∨
    ∃ route ∈ m.route, route = "probe" ∨ (∃ name, route = name ++ ":probe") ∨ s.Probes route

def Excludes : TrafficSample α → Prop
  | .ingressCount x => s.ExcludesRoute x.route
  | .ingressTiming x => s.ExcludesRoute x.route
  | .meshCount x => s.ExcludesFlow x.flow
  | .meshTiming x => s.ExcludesFlow x.flow
  | .node _ => False

def ProbesAuthority : TrafficSample α → Prop
  | .meshCount x => ∃ address ∈ x.flow.authority, s.Probes address
  | .meshTiming x => ∃ address ∈ x.flow.authority, s.Probes address
  | _ => False

end FilterSettings

theorem mapM_of_all {σ τ : Type} {f : σ → Option τ} {l : List σ}
    (h : ∀ a ∈ l, (f a).isSome) : ∃ ts, l.mapM f = some ts := by
  induction l with
  | nil => exact ⟨[], rfl⟩
  | cons a l ih =>
    obtain ⟨t, ht⟩ := Option.isSome_iff_exists.mp (h a List.mem_cons_self)
    obtain ⟨ts, hts⟩ := ih fun a ha => h a (List.mem_cons_of_mem _ ha)
    exact ⟨t :: ts, by rw [List.mapM_cons, ht, hts]; rfl⟩

theorem any_of_mapM {σ τ : Type} {f : σ → Option τ} {l : List σ} {ts : List τ}
    (h : l.mapM f = some ts) (p : τ → Bool) :
    ts.any p = true ↔ ∃ a ∈ l, ∃ t, f a = some t ∧ p t = true := by
  induction l generalizing ts with
  | nil =>
    cases h
    simp
  | cons a l ih =>
    simp only [List.mapM_cons, bind, Option.bind_eq_some_iff, pure, Option.some.injEq] at h
    obtain ⟨t, ht, rest, hrest, rfl⟩ := h
    simp [ih hrest, ht]

theorem ends_with_iff (text ending : String) :
    endsWith text ending = true ↔ ∃ start, text = start ++ ending := by
  rw [endsWith, List.isSuffixOf_iff_suffix]
  constructor
  · rintro ⟨start, h⟩
    exact ⟨.ofList start, String.toList_inj.mp (by simpa using h.symm)⟩
  · rintro ⟨start, rfl⟩
    exact ⟨start.toList, (String.toList_append ..).symm⟩

namespace BusinessFilter

variable {s : FilterSettings} {f : BusinessFilter}

theorem of_settings_iff : ofSettings s = .ok f ↔
    ∃ probes, s.probePaths.mapM Pattern.ofText? = some probes ∧
      f = ⟨s.deniedNamespaces, s.adminPorts, probes, s.dropInternalIngress⟩ := by
  rw [ofSettings]
  cases s.probePaths.mapM Pattern.ofText? with
  | none => simp
  | some probes => simp [eq_comm]

variable (h : ofSettings s = .ok f)
include h

theorem is_probe_iff (text : String) : f.isProbe text = true ↔ s.Probes text := by
  obtain ⟨probes, hprobes, rfl⟩ := of_settings_iff.mp h
  exact any_of_mapM hprobes fun p => p.isMatch text

theorem is_denied_iff (ns : String) : f.isDenied ns = true ↔ ns ∈ s.deniedNamespaces := by
  obtain ⟨probes, -, rfl⟩ := of_settings_iff.mp h
  exact List.contains_iff_mem

theorem is_admin_iff (port : ℕ) : f.isAdmin port = true ↔ port ∈ s.adminPorts := by
  obtain ⟨probes, -, rfl⟩ := of_settings_iff.mp h
  exact List.contains_iff_mem

theorem is_probe_route_iff (route : String) : f.isProbeRoute route = true ↔
    route = "probe" ∨ (∃ name, route = name ++ ":probe") ∨ s.Probes route := by
  simp only [isProbeRoute, Bool.or_eq_true, beq_iff_eq, ends_with_iff, is_probe_iff h, or_assoc]

theorem admits_ingress_iff (r : IngressRoute) :
    f.admitsIngress r = false ↔ s.ExcludesRoute r := by
  have hinternal : f.dropInternalIngress = s.dropInternalIngress := by
    obtain ⟨probes, -, rfl⟩ := of_settings_iff.mp h
    rfl
  simp only [admitsIngress, hinternal, Bool.and_eq_false_iff, Bool.not_eq_false',
    Bool.and_eq_true, ends_with_iff, Option.any_eq_true, is_denied_iff h, is_probe_iff h,
    FilterSettings.ExcludesRoute, or_assoc, Option.mem_def]

theorem admits_mesh_iff (m : MeshFlow) : f.admitsMesh m = false ↔ s.ExcludesFlow m := by
  have hport : (∃ port ∈ s.adminPorts,
        port ∈ m.targetPort ∨ ∃ address ∈ m.authority, HasPort address port) ↔
      m.targetPort.any f.isAdmin = true ∨ (m.authority.bind portIn?).any f.isAdmin = true := by
    simp only [Option.any_eq_true, is_admin_iff h, Option.bind_eq_some_iff, port_in_iff,
      Option.mem_def, and_or_left, exists_or, and_comm]
  have hroute : m.route.any f.isProbeRoute = true ↔ ∃ route ∈ m.route,
      route = "probe" ∨ (∃ name, route = name ++ ":probe") ∨ s.Probes route := by
    simp only [Option.any_eq_true, is_probe_route_iff h, Option.mem_def]
  rw [FilterSettings.ExcludesFlow, hport, ← hroute, ← is_denied_iff h, ← is_denied_iff h]
  simp only [admitsMesh, Bool.and_eq_false_iff, Bool.not_eq_false', Bool.or_eq_true]
  rw [or_right_comm]
  simp only [or_assoc]

theorem admits_iff (x : TrafficSample α) : f.admits x = false ↔ s.Excludes x := by
  cases x with
  | ingressCount x => exact admits_ingress_iff h x.route
  | ingressTiming x => exact admits_ingress_iff h x.route
  | meshCount x => exact admits_mesh_iff h x.flow
  | meshTiming x => exact admits_mesh_iff h x.flow
  | node x => simp [admits, FilterSettings.Excludes]

omit h

theorem of_readable (hread : ∀ source ∈ s.probePaths, (Pattern.ofText? source).isSome) :
    ∃ f, ofSettings s = .ok f := by
  obtain ⟨probes, hprobes⟩ := mapM_of_all hread
  exact ⟨_, of_settings_iff.mpr ⟨probes, hprobes, rfl⟩⟩

end BusinessFilter

def bareCall (ns authority : String) : MeshFlow where
  direction := .inbound
  pod := ""
  workload := ⟨ns, ""⟩
  dst := ⟨ns, ""⟩
  statusCode := ""
  targetPort := none
  authority := some authority
  route := none

theorem excludes_bare_call {s : FilterSettings} {ns : String} (hns : ns ∉ s.deniedNamespaces)
    (authority : String) : s.ExcludesFlow (bareCall ns authority) ↔
      ∃ port ∈ s.adminPorts, HasPort authority port := by
  simp [FilterSettings.ExcludesFlow, bareCall, hns]

theorem exists_allowed (s : FilterSettings) : ∃ ns, ns ∉ s.deniedNamespaces := by
  have hinfinite : Infinite String := .of_injective Nat.repr fun _ _ => Nat.repr_injective
  obtain ⟨ns, hns⟩ := Infinite.exists_notMem_finset s.deniedNamespaces.toFinset
  exact ⟨ns, by simpa using hns⟩

/-- The patterns of probes match authorities without effect if and only if each text that
they match ends in an admin port. -/
theorem authorities_covered_iff [Inhabited α] (s : FilterSettings) :
    (∀ x : TrafficSample α, s.ProbesAuthority x → s.Excludes x) ↔
      ∀ text, s.Probes text → ∃ port ∈ s.adminPorts, HasPort text port := by
  constructor
  · intro h text htext
    obtain ⟨ns, hns⟩ := exists_allowed s
    exact (excludes_bare_call hns text).mp
      (h (.meshCount ⟨bareCall ns text, "", false, default⟩) ⟨text, rfl, htext⟩)
  · have hflow (m : MeshFlow) (hprobe : ∃ address ∈ m.authority, s.Probes address)
        (h : ∀ text, s.Probes text → ∃ port ∈ s.adminPorts, HasPort text port) :
        s.ExcludesFlow m := by
      obtain ⟨address, haddress, hmatch⟩ := hprobe
      obtain ⟨port, hadmin, hport⟩ := h address hmatch
      exact .inr (.inl ⟨port, hadmin, .inr ⟨address, haddress, hport⟩⟩)
    intro h x hx
    cases x with
    | ingressCount x => cases hx
    | ingressTiming x => cases hx
    | meshCount x => exact hflow x.flow hx h
    | meshTiming x => exact hflow x.flow hx h
    | node x => cases hx

/-- If all patterns of probes can be read, there is a filter, and it drops a sample if and
only if a rule excludes it. It does so too where the patterns are matched against
authorities as well, if and only if each text that they match ends in an admin port. -/
theorem business_by_rules [Inhabited α] (s : FilterSettings)
    (hread : ∀ source ∈ s.probePaths, (Pattern.ofText? source).isSome) :
    ∃ f, BusinessFilter.ofSettings s = .ok f ∧
      (∀ x : TrafficSample α, f.admits x = false ↔ s.Excludes x) ∧
      ((∀ x : TrafficSample α, f.admits x = false ↔ s.Excludes x ∨ s.ProbesAuthority x) ↔
        ∀ text, s.Probes text → ∃ port ∈ s.adminPorts, HasPort text port) := by
  obtain ⟨f, hf⟩ := BusinessFilter.of_readable hread
  refine ⟨f, hf, BusinessFilter.admits_iff hf, ?_⟩
  rw [← authorities_covered_iff (α := α) s]
  apply forall_congr'
  intro x
  rw [BusinessFilter.admits_iff hf]
  exact ⟨fun h hx => h.mpr (.inr hx), fun h => ⟨.inl, fun hx => hx.elim id h⟩⟩

theorem admin_authority_dropped :
    (∀ source ∈ ({} : FilterSettings).probePaths, (Pattern.ofText? source).isSome) ∧
      ∃ f, BusinessFilter.ofSettings {} = .ok f ∧
        f.admits (.meshCount ⟨bareCall "shop" "[::1]:+04191", "", false, (1 : Float)⟩) = false := by
  have hread : ∀ source ∈ ({} : FilterSettings).probePaths, (Pattern.ofText? source).isSome := by
    decide +kernel
  obtain ⟨f, hf, hrules, -⟩ := business_by_rules (α := Float) {} hread
  refine ⟨hread, f, hf, (hrules _).mpr ?_⟩
  have hallowed : "shop" ∉ ({} : FilterSettings).deniedNamespaces := by decide
  exact (excludes_bare_call hallowed _).mpr
    ⟨4191, by decide, "[::1]", "+", "0", .inr rfl, by simp, by decide, by decide +kernel⟩

def healthProbes : FilterSettings := { probePaths := ["^health\\."] }

theorem probed_authority_admitted :
    ¬ ∀ (s : FilterSettings) (f : BusinessFilter), BusinessFilter.ofSettings s = .ok f →
      ∀ x : TrafficSample Float, f.admits x = false ↔ s.Excludes x ∨ s.ProbesAuthority x := by
  intro h
  have hread : ∀ source ∈ healthProbes.probePaths, (Pattern.ofText? source).isSome := by
    decide +kernel
  obtain ⟨f, hf⟩ := BusinessFilter.of_readable hread
  have hmatch : (Pattern.ofText? "^health\\.").any
      (fun p => p.isMatch "health.shop.example:8080") = true := by
    decide +kernel
  obtain ⟨p, hp, hprobe⟩ := (Option.any_eq_true _ _).mp hmatch
  have hdropped := (h healthProbes f hf
    (.meshCount ⟨bareCall "shop" "health.shop.example:8080", "success", false, 1⟩)).mpr
    (.inr ⟨_, rfl, _, List.mem_cons_self, p, hp, hprobe⟩)
  have hallowed : "shop" ∉ healthProbes.deniedNamespaces := by decide
  obtain ⟨port, hadmin, hport⟩ := (excludes_bare_call hallowed "health.shop.example:8080").mp
    ((BusinessFilter.admits_iff hf _).mp hdropped)
  have hread8080 : portIn? "health.shop.example:8080" = some 8080 := by decide +kernel
  rw [(port_in_iff _ _).mpr hport] at hread8080
  cases hread8080
  exact absurd hadmin (by decide)

end ScrapeTelemetry
