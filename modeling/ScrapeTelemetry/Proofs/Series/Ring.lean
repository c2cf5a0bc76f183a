import ScrapeTelemetry.Proofs.KeyMap.Order
import ScrapeTelemetry.Series.MinuteRing

/-!
# What a ring of minutes holds

Writes may come in any order. A slot ends up with the latest minute of its remainder
that was ever written, and with the last point of that minute; a window shows what is
held and lies inside it, in order of time.
-/

set_option autoImplicit false

namespace ScrapeTelemetry

variable {β : Type}

def lastPoint (ws : List (ℤ × β)) (m : ℤ) : Option β :=
  (ws.filter fun w => w.1 = m).getLast?.map Prod.snd

theorem last_point_concat (ws : List (ℤ × β)) (w : ℤ × β) (m : ℤ) :
    lastPoint (ws ++ [w]) m = if w.1 = m then some w.2 else lastPoint ws m := by
  by_cases h : w.1 = m <;> simp [lastPoint, List.filter_append, h]

theorem mem_of_last_point {ws : List (ℤ × β)} {m : ℤ} {v : β} (h : lastPoint ws m = some v) :
    (m, v) ∈ ws := by
  obtain ⟨w, hw, rfl⟩ := Option.map_eq_some_iff.mp h
  have hmem := List.mem_filter.mp (List.mem_of_getLast? hw)
  have hm : w.1 = m := of_decide_eq_true hmem.2
  rw [← hm]
  exact hmem.1

namespace MinuteRing

def writeAll (r : MinuteRing β) (ws : List (ℤ × β)) : MinuteRing β :=
  ws.foldl (fun r w => r.write w.1 w.2) r

structure Holds (r : MinuteRing β) (ws : List (ℤ × β)) : Prop where
  vacant : ∀ k, r.slots.find? k = none → ∀ w ∈ ws, r.slotOf w.1 ≠ k
  latest : ∀ k m v, r.slots.find? k = some (m, v) →
    r.slotOf m = k ∧ lastPoint ws m = some v ∧ ∀ w ∈ ws, r.slotOf w.1 = k → w.1 ≤ m

theorem same_slot (r : MinuteRing β) (m n : ℤ) :
    r.slotOf m = r.slotOf n ↔ m ≡ n [ZMOD r.capacity] := by
  have hpos : (0 : ℤ) < r.capacity := Int.natCast_pos.mpr r.positive
  have hm := Int.emod_nonneg m hpos.ne'
  have hn := Int.emod_nonneg n hpos.ne'
  simp only [slotOf, Int.ModEq]
  omega

theorem write_all_capacity (r : MinuteRing β) (ws : List (ℤ × β)) :
    (r.writeAll ws).capacity = r.capacity := by
  induction ws generalizing r with
  | nil => rfl
  | cons w ws ih => exact ih (r.write w.1 w.2)

theorem holds_nothing (capacity : ℕ) : (ofCapacity capacity : MinuteRing β).Holds [] := by
  constructor
  · intro k _ w hw
    exact absurd hw List.not_mem_nil
  · intro k m v hk
    cases hk

theorem write_elsewhere (r : MinuteRing β) (m : ℤ) (v : β) (k : ℕ) (hk : k ≠ r.slotOf m) :
    (r.write m v).slots.find? k = r.slots.find? k := by
  rw [write, KeyMap.find?_upsert, if_neg hk]

theorem write_vacant (r : MinuteRing β) (m : ℤ) (v : β)
    (h : r.slots.find? (r.slotOf m) = none) :
    (r.write m v).slots.find? (r.slotOf m) = some (m, v) := by
  rw [write, KeyMap.find?_upsert, if_pos rfl, h]

theorem write_occupied (r : MinuteRing β) (m n : ℤ) (v u : β)
    (h : r.slots.find? (r.slotOf m) = some (n, u)) :
    (r.write m v).slots.find? (r.slotOf m) = some (if m < n then (n, u) else (m, v)) := by
  rw [write, KeyMap.find?_upsert, if_pos rfl, h]

theorem holds_write (r : MinuteRing β) (ws : List (ℤ × β)) (h : r.Holds ws) (m : ℤ) (v : β) :
    (r.write m v).Holds (ws ++ [(m, v)]) := by
  have hslot : (r.write m v).slotOf = r.slotOf := rfl
  constructor
  · intro k hk w hw
    rw [hslot]
    by_cases hkm : k = r.slotOf m
    · subst hkm
      cases hheld : r.slots.find? (r.slotOf m) with
      | none => rw [write_vacant r m v hheld] at hk; cases hk
      | some held => rw [write_occupied r m held.1 v held.2 hheld] at hk; cases hk
    · rw [write_elsewhere r m v k hkm] at hk
      rcases List.mem_append.mp hw with hw | hw
      · exact h.vacant k hk w hw
      · rw [List.mem_singleton.mp hw]
        exact fun hc => hkm hc.symm
  · intro k n u hk
    rw [hslot, last_point_concat, List.forall_mem_append, List.forall_mem_singleton]
    by_cases hkm : k = r.slotOf m
    · subst hkm
      cases hheld : r.slots.find? (r.slotOf m) with
      | none =>
        rw [write_vacant r m v hheld] at hk
        cases hk
        exact ⟨rfl, if_pos rfl, fun w hw hc => absurd hc (h.vacant _ hheld w hw), fun _ => le_rfl⟩
      | some held =>
        obtain ⟨hown, hlast, hle⟩ := h.latest _ held.1 held.2 hheld
        rw [write_occupied r m held.1 v held.2 hheld] at hk
        by_cases hlt : m < held.1
        · rw [if_pos hlt] at hk
          cases hk
          exact ⟨hown, (if_neg hlt.ne).trans hlast, hle, fun _ => hlt.le⟩
        · rw [if_neg hlt] at hk
          cases hk
          exact ⟨rfl, if_pos rfl, fun w hw hc => (hle w hw hc).trans (not_lt.mp hlt),
            fun _ => le_rfl⟩
    · rw [write_elsewhere r m v k hkm] at hk
      obtain ⟨hn, hlast, hle⟩ := h.latest k n u hk
      have hother : m ≠ n := fun hc => hkm (by rw [hc, hn])
      exact ⟨hn, (if_neg hother).trans hlast, hle, fun hc => absurd hc.symm hkm⟩

theorem holds_write_all (r : MinuteRing β) (before ws : List (ℤ × β)) (h : r.Holds before) :
    (r.writeAll ws).Holds (before ++ ws) := by
  induction ws generalizing r before with
  | nil => rwa [List.append_nil]
  | cons w ws ih =>
    have hrest := ih (r.write w.1 w.2) (before ++ [w]) (holds_write r before h w.1 w.2)
    rwa [List.append_assoc] at hrest

theorem held_iff (r : MinuteRing β) (ws : List (ℤ × β)) (h : r.Holds ws) (m : ℤ) (v : β) :
    r.slots.find? (r.slotOf m) = some (m, v) ↔
      lastPoint ws m = some v ∧ ∀ w ∈ ws, w.1 ≡ m [ZMOD r.capacity] → w.1 ≤ m := by
  simp only [← same_slot]
  constructor
  · exact fun hm => (h.latest _ m v hm).2
  · rintro ⟨hlast, hle⟩
    have hm := mem_of_last_point hlast
    cases hheld : r.slots.find? (r.slotOf m) with
    | none => exact absurd rfl (h.vacant _ hheld _ hm)
    | some held =>
      obtain ⟨hown, hheldLast, hheldLe⟩ := h.latest _ held.1 held.2 hheld
      -- both minutes were written and share the slot, so neither is later
      have hsame : held.1 = m :=
        le_antisymm (hle _ (mem_of_last_point hheldLast) hown) (hheldLe _ hm rfl)
      rw [hsame, hlast] at hheldLast
      rw [← hsame, Option.some.inj hheldLast]

theorem mem_window (r : MinuteRing β) (ws : List (ℤ × β)) (h : r.Holds ws) (now m : ℤ) (v : β) :
    (m, v) ∈ r.window now ↔ (now - r.capacity < m ∧ m ≤ now) ∧ lastPoint ws m = some v ∧
      ∀ w ∈ ws, w.1 ≡ m [ZMOD r.capacity] → w.1 ≤ m := by
  have hheld : (m, v) ∈ r.slots.toList.map Prod.snd ↔
      r.slots.find? (r.slotOf m) = some (m, v) := by
    rw [List.mem_map]
    constructor
    · rintro ⟨⟨k, e⟩, hk, rfl⟩
      have hfind := (KeyMap.mem_toList _ _ _).mp hk
      rw [(h.latest k m v hfind).1]
      exact hfind
    · intro hfind
      exact ⟨(r.slotOf m, m, v), (KeyMap.mem_toList _ _ _).mpr hfind, rfl⟩
  rw [← held_iff r ws h, ← hheld, window, List.mem_mergeSort, List.mem_filter, Bool.and_eq_true,
    decide_eq_true_eq, decide_eq_true_eq, and_comm]

-- minutes 2 and 5 share a slot, and 2 comes late
example : ((ofCapacity 3).writeAll [(5, "old"), (2, "late"), (4, "other"), (5, "new")]).window 6 =
    [(4, "other"), (5, "new")] := by cbv

theorem window_ascending (r : MinuteRing β) (ws : List (ℤ × β)) (h : r.Holds ws) (now : ℤ) :
    (r.window now).Pairwise fun a b => a.1 < b.1 := by
  have hdistinct : (r.slots.toList.map Prod.snd).Pairwise fun a b => a.1 ≠ b.1 := by
    rw [List.pairwise_map]
    apply r.slots.ascending.imp_of_mem
    intro a b ha hb hlt hsame
    have hownA := (h.latest a.1 a.2.1 a.2.2 ((KeyMap.mem_toList _ _ _).mp ha)).1
    have hownB := (h.latest b.1 b.2.1 b.2.2 ((KeyMap.mem_toList _ _ _).mp hb)).1
    rw [← hownA, ← hownB, hsame] at hlt
    exact KeyMap.not_below_self _ hlt
  have hsorted : (r.window now).Pairwise fun a b => decide (a.1 ≤ b.1) = true := by
    apply List.pairwise_mergeSort
    · intro a b c hab hbc
      exact decide_eq_true ((of_decide_eq_true hab).trans (of_decide_eq_true hbc))
    · intro a b
      rw [Bool.or_eq_true, decide_eq_true_eq, decide_eq_true_eq]
      exact le_total a.1 b.1
  have hshown : (r.window now).Pairwise fun a b => a.1 ≠ b.1 :=
    (hdistinct.filter _).perm (List.mergeSort_perm _ _).symm fun hne => hne.symm
  exact hsorted.imp₂ (fun a b hle hne => lt_of_le_of_ne (of_decide_eq_true hle) hne) hshown

end MinuteRing
end ScrapeTelemetry
