import Mathlib
import ScrapeTelemetry.Traffic.Sample

/-!
# What an entity's id tells apart

An id is the entity's parts with a bar between them. Parts without a bar are found in
it again, so such an id belongs to one entity. A bar inside a part can be moved to the
part beside it and leaves the id as it was.
-/

set_option autoImplicit false

namespace ScrapeTelemetry

variable {α : Type}

def BarFree (parts : List String) : Prop := ∀ p ∈ parts, '|' ∉ p.toList

def IngressRoute.idParts (r : IngressRoute) : List String := [r.backend, r.code, r.method]

def MeshCount.idParts (s : MeshCount α) : List String :=
  s.flow.idParts ++ [s.classification, if s.tls then "tls" else "plain"]

def IngressRoute.identity (r : IngressRoute) : String × String × String :=
  (r.backend, r.code, r.method)

def MeshFlow.identity (f : MeshFlow) : Workload × String × Direction × Workload × String :=
  (f.workload, f.pod, f.direction, f.dst, f.statusCode)

def MeshCount.identity (s : MeshCount α) :
    (Workload × String × Direction × Workload × String) × String × Bool :=
  (s.flow.identity, s.classification, s.tls)

theorem count_intercalate (x : Char) (l : List Char) (ls : List (List Char)) :
    ([x].intercalate (l :: ls)).count x = ((l :: ls).map (List.count x)).sum + ls.length := by
  induction ls generalizing l with
  | nil => simp
  | cons m ls ih =>
    rw [List.intercalate_cons_cons, List.count_append, List.count_append, ih]
    simp only [List.count_singleton_self, List.map_cons, List.sum_cons, List.length_cons]
    omega

theorem id_text (parts : List String) :
    (EntityId.ofParts parts).text.toList = ['|'].intercalate (parts.map String.toList) := by
  have hbar : "|".toList = ['|'] := by decide
  rw [EntityId.ofParts, String.toList_intercalate, hbar]

theorem bar_free_iff (parts : List String) :
    BarFree parts ↔ ((parts.map String.toList).map (List.count '|')).sum = 0 := by
  simp [BarFree, List.sum_eq_zero_iff, List.count_eq_zero]

/-- As many parts with as many bars leave no bar to the parts of the other list either. -/
theorem bar_free_of_id (a b : List String) (hlen : b.length = a.length) (ha : BarFree a)
    (h : EntityId.ofParts b = EntityId.ofParts a) : BarFree b := by
  cases a with
  | nil => rwa [List.length_eq_zero_iff.mp hlen]
  | cons p a =>
    cases b with
    | nil => exact absurd hlen (by simp)
    | cons q b =>
      have hcount := congrArg (fun i => i.text.toList.count '|') h
      simp only [id_text, List.map_cons, count_intercalate, List.length_map] at hcount
      rw [← List.map_cons, ← List.map_cons, ← List.map_cons, ← List.map_cons,
        (bar_free_iff _).mp ha] at hcount
      rw [List.length_cons, List.length_cons] at hlen
      rw [bar_free_iff]
      omega

theorem split_id (parts : List String) (hne : parts ≠ []) (hfree : BarFree parts) :
    (EntityId.ofParts parts).text.toList.splitOn '|' = parts.map String.toList := by
  rw [id_text]
  apply List.splitOn_intercalate
  · intro m hm
    obtain ⟨s, hs, rfl⟩ := List.mem_map.mp hm
    exact hfree s hs
  · simpa using hne

/-- An id gives back the parts it was made of, if they are free of bars. -/
theorem parts_of_id (a b : List String) (hlen : b.length = a.length) (ha : BarFree a)
    (h : EntityId.ofParts b = EntityId.ofParts a) : b = a := by
  have hb := bar_free_of_id a b hlen ha h
  by_cases hne : a = []
  · rw [hne] at hlen ⊢
    exact List.length_eq_zero_iff.mp hlen
  · have hsplit := split_id b (fun hnil => hne (List.length_eq_zero_iff.mp
      (hlen.symm.trans (by rw [hnil]; rfl)))) hb
    rw [h, split_id a hne ha] at hsplit
    exact List.map_injective_iff.mpr (fun _ _ => String.toList_inj.mp) hsplit.symm

theorem bar_splits (s : String) (h : '|' ∈ s.toList) : ∃ x y, s = x ++ "|" ++ y := by
  obtain ⟨x, y, hxy⟩ := List.append_of_mem h
  refine ⟨String.ofList x, String.ofList y, ?_⟩
  apply String.toList_inj.mp
  simp [hxy]

theorem join_parts (a b : String) (pre post : List String) :
    EntityId.ofParts (pre ++ a :: b :: post) =
      EntityId.ofParts (pre ++ (a ++ "|" ++ b) :: post) := by
  have htail : "|".intercalate (a :: b :: post) = "|".intercalate ((a ++ "|" ++ b) :: post) := by
    cases post with
    | nil => simp
    | cons c post => simp [String.intercalate_cons_cons, String.append_assoc]
  cases pre with
  | nil => exact congrArg EntityId.mk htail
  | cons p pre =>
    unfold EntityId.ofParts
    rw [String.intercalate_append_of_ne_nil (by simp) (by simp), htail,
      ← String.intercalate_append_of_ne_nil (by simp) (by simp)]

/-- A bar in one of two neighbours can stand for the bar between them. -/
theorem bar_moves (pre post : List String) (a b : String)
    (h : '|' ∈ a.toList ∨ '|' ∈ b.toList) :
    ∃ c d, c ≠ a ∧
      EntityId.ofParts (pre ++ c :: d :: post) = EntityId.ofParts (pre ++ a :: b :: post) := by
  have hone : "|".length = 1 := by decide
  rcases h with h | h
  · -- `x|y` and `b` are also `x` and `y|b`
    obtain ⟨x, y, rfl⟩ := bar_splits a h
    refine ⟨x, y ++ "|" ++ b, ?_, ?_⟩
    · intro hx
      have hlength := congrArg String.length hx
      rw [String.length_append, String.length_append, hone] at hlength
      omega
    · rw [join_parts, join_parts]
      simp only [String.append_assoc]
  · obtain ⟨x, y, rfl⟩ := bar_splits b h
    refine ⟨a ++ "|" ++ x, y, ?_, ?_⟩
    · intro hx
      have hlength := congrArg String.length hx
      rw [String.length_append, String.length_append, hone] at hlength
      omega
    · rw [join_parts, join_parts]
      simp only [String.append_assoc]

theorem route_parts (r s : IngressRoute) : r.idParts = s.idParts ↔ r.identity = s.identity := by
  simp [IngressRoute.idParts, IngressRoute.identity]

theorem flow_parts (f g : MeshFlow) : f.idParts = g.idParts ↔ f.identity = g.identity := by
  have hword : f.direction.word = g.direction.word ↔ f.direction = g.direction := by
    cases f.direction <;> cases g.direction <;> decide
  have hworkload (w v : Workload) : w = v ↔ w.ns = v.ns ∧ w.name = v.name := by
    cases w; cases v; simp
  simp only [MeshFlow.idParts, MeshFlow.identity, List.cons.injEq, and_true, hword,
    Prod.mk.injEq, hworkload]
  tauto

theorem count_parts (s t : MeshCount α) : s.idParts = t.idParts ↔ s.identity = t.identity := by
  have hword : ((if s.tls then "tls" else "plain") = if t.tls then "tls" else "plain") ↔
      s.tls = t.tls := by
    cases s.tls <;> cases t.tls <;> decide
  simp only [MeshCount.identity, Prod.mk.injEq]
  constructor
  · intro h
    obtain ⟨hflow, hlast⟩ := List.append_inj h rfl
    simp only [List.cons.injEq, and_true, hword] at hlast
    exact ⟨(flow_parts _ _).mp hflow, hlast⟩
  · rintro ⟨hflow, hclass, htls⟩
    rw [MeshCount.idParts, MeshCount.idParts, (flow_parts _ _).mpr hflow, hclass, htls]

theorem route_bar_moves (r : IngressRoute) (h : ¬ BarFree r.idParts) :
    ∃ s : IngressRoute, s.identity ≠ r.identity ∧ s.entityId = r.entityId := by
  have hbar : ('|' ∈ r.backend.toList ∨ '|' ∈ r.code.toList) ∨
      ('|' ∈ r.code.toList ∨ '|' ∈ r.method.toList) := by
    simp only [BarFree, IngressRoute.idParts, List.forall_mem_cons] at h
    simp at h
    tauto
  rcases hbar with hbar | hbar
  · obtain ⟨c, d, hne, hid⟩ := bar_moves [] [r.method] _ _ hbar
    exact ⟨{ r with backend := c, code := d }, fun he => hne (congrArg (·.1) he), hid⟩
  · obtain ⟨c, d, hne, hid⟩ := bar_moves [r.backend] [] _ _ hbar
    exact ⟨{ r with code := c, method := d }, fun he => hne (congrArg (·.2.1) he), hid⟩

theorem flow_bar_moves (f : MeshFlow) (more : List String) (h : ¬ BarFree f.idParts) :
    ∃ g : MeshFlow, g.identity ≠ f.identity ∧
      EntityId.ofParts (g.idParts ++ more) = EntityId.ofParts (f.idParts ++ more) := by
  have hbar : ('|' ∈ f.workload.ns.toList ∨ '|' ∈ f.workload.name.toList) ∨
      ('|' ∈ f.workload.name.toList ∨ '|' ∈ f.pod.toList) ∨
      ('|' ∈ f.dst.ns.toList ∨ '|' ∈ f.dst.name.toList) ∨
      ('|' ∈ f.dst.name.toList ∨ '|' ∈ f.statusCode.toList) := by
    have hword : '|' ∉ f.direction.word.toList := by cases f.direction <;> decide
    simp only [BarFree, MeshFlow.idParts, List.forall_mem_cons] at h
    simp at h
    tauto
  rcases hbar with hbar | hbar | hbar | hbar
  · obtain ⟨c, d, hne, hid⟩ := bar_moves [] (f.idParts.drop 2 ++ more) _ _ hbar
    exact ⟨{ f with workload := ⟨c, d⟩ }, fun he => hne (congrArg (·.1.ns) he), hid⟩
  · obtain ⟨c, d, hne, hid⟩ := bar_moves (f.idParts.take 1) (f.idParts.drop 3 ++ more) _ _ hbar
    exact ⟨{ f with workload := ⟨f.workload.ns, c⟩, pod := d },
      fun he => hne (congrArg (·.1.name) he), hid⟩
  · obtain ⟨c, d, hne, hid⟩ := bar_moves (f.idParts.take 4) (f.idParts.drop 6 ++ more) _ _ hbar
    exact ⟨{ f with dst := ⟨c, d⟩ }, fun he => hne (congrArg (·.2.2.2.1.ns) he), hid⟩
  · obtain ⟨c, d, hne, hid⟩ := bar_moves (f.idParts.take 5) more _ _ hbar
    exact ⟨{ f with dst := ⟨f.dst.ns, c⟩, statusCode := d },
      fun he => hne (congrArg (·.2.2.2.1.name) he), hid⟩

theorem count_bar_moves (s : MeshCount α) (h : ¬ BarFree s.idParts) :
    ∃ t : MeshCount α, t.identity ≠ s.identity ∧ t.entityId = s.entityId := by
  by_cases hflow : BarFree s.flow.idParts
  · have hbar : '|' ∈ s.classification.toList := by
      by_contra hclass
      apply h
      intro p hp
      rcases List.mem_append.mp hp with hp | hp
      · exact hflow p hp
      · have hword : '|' ∉ (if s.tls then "tls" else "plain").toList := by
          cases s.tls <;> decide
        simp only [List.mem_cons, List.not_mem_nil, or_false] at hp
        rcases hp with rfl | rfl
        · exact hclass
        · exact hword
    obtain ⟨c, d, hne, hid⟩ := bar_moves (s.flow.idParts.take 6)
      [if s.tls then "tls" else "plain"] s.flow.statusCode _ (.inr hbar)
    exact ⟨{ s with flow := { s.flow with statusCode := c }, classification := d },
      fun he => hne (congrArg (·.1.2.2.2.2) he), hid⟩
  · obtain ⟨g, hne, hid⟩ := flow_bar_moves s.flow
      [s.classification, if s.tls then "tls" else "plain"] hflow
    exact ⟨{ s with flow := g }, fun he => hne (congrArg (·.1) he), hid⟩

/-- Ids made of parts tell a sample without bars from all others, and no sample with one. -/
theorem own_iff_bar_free {σ ι : Type} (identity : σ → ι) (parts : σ → List String)
    (hlen : ∀ s t, (parts s).length = (parts t).length)
    (hparts : ∀ s t, parts s = parts t ↔ identity s = identity t) (s : σ)
    (hmoves : ¬ BarFree (parts s) → ∃ t, identity t ≠ identity s ∧
      EntityId.ofParts (parts t) = EntityId.ofParts (parts s)) :
    BarFree (parts s) ↔ ∀ t, EntityId.ofParts (parts t) = EntityId.ofParts (parts s) ↔
      identity t = identity s := by
  constructor
  · intro hfree t
    constructor
    · intro hid
      exact (hparts t s).mp (parts_of_id _ _ (hlen t s) hfree hid)
    · intro hsame
      rw [(hparts t s).mpr hsame]
  · intro hown
    by_contra hbar
    obtain ⟨t, hne, hid⟩ := hmoves hbar
    exact hne ((hown t).mp hid)

/-- A sample shares its id with the samples of its identity only if no part of the id
has a bar, and with others too if one has. -/
theorem id_is_own_iff_bar_free :
    (∀ s : IngressCount α, BarFree s.route.idParts ↔
      ∀ t : IngressCount α, t.entityId = s.entityId ↔ t.route.identity = s.route.identity) ∧
    (∀ s : IngressTiming α, BarFree s.route.idParts ↔
      ∀ t : IngressTiming α, t.entityId = s.entityId ↔ t.route.identity = s.route.identity) ∧
    (∀ s : MeshCount α, BarFree s.idParts ↔
      ∀ t : MeshCount α, t.entityId = s.entityId ↔ t.identity = s.identity) ∧
    (∀ s : MeshTiming α, BarFree s.flow.idParts ↔
      ∀ t : MeshTiming α, t.entityId = s.entityId ↔ t.flow.identity = s.flow.identity) := by
  refine ⟨fun s => ?_, fun s => ?_, fun s => ?_, fun s => ?_⟩
  · apply own_iff_bar_free (fun s : IngressCount α => s.route.identity) (·.route.idParts)
      (fun _ _ => rfl) (fun _ _ => route_parts _ _) s
    intro h
    obtain ⟨r, hne, hid⟩ := route_bar_moves s.route h
    exact ⟨{ s with route := r }, hne, hid⟩
  · apply own_iff_bar_free (fun s : IngressTiming α => s.route.identity) (·.route.idParts)
      (fun _ _ => rfl) (fun _ _ => route_parts _ _) s
    intro h
    obtain ⟨r, hne, hid⟩ := route_bar_moves s.route h
    exact ⟨{ s with route := r }, hne, hid⟩
  · exact own_iff_bar_free MeshCount.identity MeshCount.idParts
      (fun _ _ => rfl) count_parts s (count_bar_moves s)
  · apply own_iff_bar_free (fun s : MeshTiming α => s.flow.identity) (·.flow.idParts)
      (fun _ _ => rfl) (fun _ _ => flow_parts _ _) s
    intro h
    obtain ⟨g, hne, hid⟩ := flow_bar_moves s.flow [] h
    rw [List.append_nil, List.append_nil] at hid
    exact ⟨{ s with flow := g }, hne, hid⟩

theorem bar_shares_id :
    ¬ ∀ s t : IngressCount Float,
      s.entityId = t.entityId ↔ s.route.identity = t.route.identity := by
  intro h
  have hshared := (h ⟨⟨.traefik, "api|200", none, none, "200", "GET"⟩, 100⟩
    ⟨⟨.traefik, "api", none, none, "200|200", "GET"⟩, 1000⟩).mp (by decide)
  exact absurd hshared (by decide)

end ScrapeTelemetry
