import ScrapeTelemetry.Proofs.KeyMap.Folds

/-!
# Maps as what their keys show

A map is settled by its look-ups, since its entries stand in key order. What holds of
any two values in that order can be said of the keys that hold them.
-/

set_option autoImplicit false

namespace ScrapeTelemetry
namespace KeyMap

variable {κ β : Type} [Ord κ]

theorem keys_ascending (m : KeyMap κ β) : m.keys.Pairwise fun a b => compare a b = .lt :=
  List.pairwise_map.mpr m.ascending

/-- The first key that a test picks lies below all others that it picks. -/
theorem find_key_least (m : KeyMap κ β) (test : κ → Bool) (j k : κ)
    (hj : m.keys.find? test = some j) (hk : k ∈ m.keys) (htest : test k = true) :
    j = k ∨ compare j k = .lt := by
  have hascending := keys_ascending m
  obtain ⟨-, before, after, hkeys, hnone⟩ := List.find?_eq_some_iff_append.mp hj
  rw [hkeys] at hk hascending
  rcases List.mem_append.mp hk with hk | hk
  · have hnot := hnone k hk
    rw [htest] at hnot
    exact Bool.noConfusion hnot
  · rcases List.mem_cons.mp hk with rfl | hk
    · exact .inl rfl
    · exact .inr ((List.pairwise_cons.mp (List.pairwise_append.mp hascending).2.1).1 k hk)

theorem not_below_of_below [Std.TransOrd κ] {j k : κ} (h : compare j k = .lt) :
    compare k j ≠ .lt := by
  rw [Std.OrientedCmp.gt_of_lt h]
  exact Ordering.noConfusion

variable [Std.LawfulEqOrd κ]

theorem not_below_self (k : κ) : compare k k ≠ .lt := by
  rw [Std.ReflOrd.compare_self]
  exact Ordering.noConfusion

theorem mem_keys (m : KeyMap κ β) (k : κ) : k ∈ m.keys ↔ (m.find? k).isSome := by
  have hkeys : m.keys = m.toList.map Prod.fst := rfl
  rw [hkeys, List.mem_map, Option.isSome_iff_exists]
  constructor
  · rintro ⟨⟨j, v⟩, he, rfl⟩
    exact ⟨v, (mem_toList m j v).mp he⟩
  · rintro ⟨v, hv⟩
    exact ⟨(k, v), (mem_toList m k v).mpr hv, rfl⟩

variable [Std.TransOrd κ]

theorem below_or_eq_or_above (j k : κ) : compare j k = .lt ∨ j = k ∨ compare k j = .lt := by
  cases h : compare j k with
  | lt => exact .inl rfl
  | eq => exact .inr (.inl (Std.LawfulEqOrd.eq_of_compare h))
  | gt => exact .inr (.inr (Std.OrientedCmp.lt_of_gt h))

/-- Lists with strictly ascending keys are settled by their members. -/
theorem ascending_eq_of_mem {σ : Type} (key : σ → κ) {l l' : List σ}
    (h : l.Pairwise fun a b => compare (key a) (key b) = .lt)
    (h' : l'.Pairwise fun a b => compare (key a) (key b) = .lt)
    (hmem : ∀ a, a ∈ l ↔ a ∈ l') : l = l' := by
  have hirrefl : Std.Irrefl fun a b : σ => compare (key a) (key b) = .lt :=
    ⟨fun a => not_below_self (key a)⟩
  have hantisymm : Std.Antisymm fun a b : σ => compare (key a) (key b) = .lt :=
    ⟨fun a b hab hba => absurd hba (not_below_of_below hab)⟩
  exact h.eq_of_mem_iff h' @hmem

theorem eq_of_find (m n : KeyMap κ β) (h : ∀ k, m.find? k = n.find? k) : m = n := by
  have hmem (e : κ × β) : e ∈ m.entries ↔ e ∈ n.entries := by
    have hm := mem_toList m e.1 e.2
    have hn := mem_toList n e.1 e.2
    rw [h] at hm
    exact hm.trans hn.symm
  have hentries : m.entries = n.entries :=
    ascending_eq_of_mem Prod.fst m.ascending n.ascending hmem
  cases m
  cases n
  cases hentries
  rfl

/-- Steps that commute at every value can be taken in any order. -/
theorem foldl_accumulateAt_perm [DecidableEq κ] {σ : Type} (place : σ → Option κ) (start : β)
    (add : σ → β → β) (hcomm : ∀ s t b, add t (add s b) = add s (add t b)) {l l' : List σ}
    (h : l.Perm l') (m : KeyMap κ β) :
    l.foldl (fun m s => m.accumulateAt (place s) start (add s)) m =
      l'.foldl (fun m s => m.accumulateAt (place s) start (add s)) m := by
  apply eq_of_find
  intro k
  rw [find?_foldl_accumulateAt place (fun _ => start) add l,
    find?_foldl_accumulateAt place (fun _ => start) add l']
  apply (h.filter _).foldl_eq'
  intro s _ t _ o
  exact congrArg some (hcomm s t (o.getD start))

theorem keys_eq_of_mem {γ : Type} (m : KeyMap κ β) (n : KeyMap κ γ)
    (h : ∀ k, k ∈ m.keys ↔ k ∈ n.keys) : m.keys = n.keys :=
  ascending_eq_of_mem (fun k => k) (keys_ascending m) (keys_ascending n) h

/-- What holds of the values in key order, by the keys that hold them. -/
theorem pairwise_values (m : KeyMap κ β) (R : β → β → Prop) :
    (m.toList.Pairwise fun a b => R a.2 b.2) ↔
      ∀ j v k w, m.find? j = some v → m.find? k = some w → compare j k = .lt → R v w := by
  constructor
  · intro h j v k w hj hk hlt
    have hboth : m.toList.Pairwise fun a b =>
        (compare a.1 b.1 = .lt → R a.2 b.2) ∧ (compare b.1 a.1 = .lt → R b.2 a.2) := by
      refine h.imp₂ (fun a b hR hab => ?_) m.ascending
      exact ⟨fun _ => hR, fun hba => absurd hba (not_below_of_below hab)⟩
    have hsymm : Std.Symm fun a b : κ × β =>
        (compare a.1 b.1 = .lt → R a.2 b.2) ∧ (compare b.1 a.1 = .lt → R b.2 a.2) :=
      ⟨fun _ _ hs => ⟨hs.2, hs.1⟩⟩
    have hne : (j, v) ≠ (k, w) := by
      intro he
      rw [(Prod.mk.inj he).1] at hlt
      exact not_below_self k hlt
    exact (hboth.forall ((mem_toList m j v).mpr hj) ((mem_toList m k w).mpr hk) hne).1 hlt
  · intro h
    apply m.ascending.imp_of_mem
    intro a b ha hb hlt
    exact h a.1 a.2 b.1 b.2 ((mem_toList m a.1 a.2).mp ha) ((mem_toList m b.1 b.2).mp hb) hlt

end KeyMap
end ScrapeTelemetry
