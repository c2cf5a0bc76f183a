import Mathlib
import ScrapeTelemetry.KeyMap

/-!
# Keyed folds

A map that a list was folded into is read one key at a time: the entries of other
keys leave no trace. What the values of a map weigh together is a sum that a fold
raises by the weight of each step.
-/

set_option autoImplicit false

namespace ScrapeTelemetry
namespace KeyMap

variable {κ β γ σ M : Type} [Ord κ]

def total [AddCommMonoid M] (w : β → M) (m : KeyMap κ β) : M :=
  (m.toList.map fun e => w e.2).sum

def totalOver [AddCommMonoid M] (chosen : κ → Bool) (m : KeyMap κ M) : M :=
  ((m.toList.filter fun e => chosen e.1).map Prod.snd).sum

theorem total_empty [AddCommMonoid M] (w : β → M) : total w (empty : KeyMap κ β) = 0 := rfl

theorem total_foldl [AddCommMonoid M] (w : β → M) (d : σ → M)
    (step : KeyMap κ β → σ → KeyMap κ β)
    (h : ∀ m s, total w (step m s) = total w m + d s) (l : List σ) (m : KeyMap κ β) :
    total w (l.foldl step m) = total w m + (l.map d).sum := by
  induction l generalizing m with
  | nil => simp
  | cons s l ih => rw [List.foldl_cons, ih, h, List.map_cons, List.sum_cons, add_assoc]

/-- A fold over an optional value that its first step starts. -/
theorem foldl_started (start : σ → β) (add : σ → β → β) (s : σ) (l : List σ) :
    (s :: l).foldl (fun o s => some (add s (o.getD (start s)))) none =
      some ((s :: l).foldl (fun b s => add s b) (start s)) := by
  have hrun (l : List σ) (b : β) :
      l.foldl (fun o s => some (add s (o.getD (start s)))) (some b) =
        some (l.foldl (fun b s => add s b) b) := by
    induction l generalizing b with
    | nil => rfl
    | cons t l ih => exact ih (add t b)
  exact hrun l (add s (start s))

theorem foldl_getD (start : β) (add : σ → β → β) (l : List σ) (o : Option β) :
    (l.foldl (fun o s => some (add s (o.getD start))) o).getD start =
      l.foldl (fun b s => add s b) (o.getD start) := by
  induction l generalizing o with
  | nil => rfl
  | cons s l ih => exact ih (some (add s (o.getD start)))

theorem foldl_isSome (start : β) (add : σ → β → β) (l : List σ) (o : Option β) :
    (l.foldl (fun o s => some (add s (o.getD start))) o).isSome ↔ o.isSome ∨ l ≠ [] := by
  induction l generalizing o with
  | nil => simp
  | cons s l ih => simp [ih]

theorem upsert_entries_length (k : κ) (f : Option β → β) (l : List (κ × β)) :
    (upsertEntries k f l).length ≤ l.length + 1 := by
  induction l with
  | nil => exact le_rfl
  | cons e rest ih =>
    unfold upsertEntries
    split
    · exact le_rfl
    · exact Nat.le_succ _
    · exact Nat.succ_le_succ ih

variable [Std.LawfulEqOrd κ]

theorem find_entry_eq_some (l : List (κ × β))
    (h : l.Pairwise fun a b => compare a.1 b.1 = .lt) (k : κ) (v : β) :
    findEntry k l = some v ↔ (k, v) ∈ l := by
  induction l with
  | nil => simp [findEntry]
  | cons e rest ih =>
    obtain ⟨x, w⟩ := e
    obtain ⟨hx, hr⟩ := List.pairwise_cons.mp h
    by_cases hk : k = x
    · subst hk
      have habsent : (k, v) ∉ rest := by
        intro hm
        have hlt := hx _ hm
        simp at hlt
      simp [findEntry, habsent, eq_comm]
    · have hne : compare k x ≠ .eq := fun hc => hk (Std.LawfulEqOrd.eq_of_compare hc)
      simp [findEntry, hne, hk, ih hr]

theorem upsert_entries_weight [AddCommMonoid M] (w : κ × β → M) (d : M) (k : κ)
    (f : Option β → β) (hnew : w (k, f none) = d) (hold : ∀ b, w (k, f (some b)) = w (k, b) + d)
    (l : List (κ × β)) : ((upsertEntries k f l).map w).sum = (l.map w).sum + d := by
  induction l with
  | nil => simp [upsertEntries, hnew]
  | cons e rest ih =>
    obtain ⟨x, b⟩ := e
    unfold upsertEntries
    split
    · simp only [List.map_cons, List.sum_cons, hnew]
      rw [add_comm]
    · rename_i heq
      rw [← Std.LawfulEqOrd.eq_of_compare heq]
      simp only [List.map_cons, List.sum_cons, hold]
      rw [add_right_comm]
    · simp only [List.map_cons, List.sum_cons, ih, add_assoc]

theorem mem_toList (m : KeyMap κ β) (k : κ) (v : β) :
    (k, v) ∈ m.toList ↔ m.find? k = some v :=
  (find_entry_eq_some m.entries m.ascending k v).symm

theorem keys_nodup (m : KeyMap κ β) : (m.toList.map Prod.fst).Nodup := by
  apply List.pairwise_map.mpr
  apply m.ascending.imp
  intro a b hab heq
  rw [heq, Std.ReflOrd.compare_self] at hab
  exact Ordering.noConfusion hab

theorem card_keys [DecidableEq κ] (m : KeyMap κ β) : m.keys.toFinset.card = m.size := by
  have hnodup : m.keys.Nodup := keys_nodup m
  rw [List.toFinset_card_of_nodup hnodup]
  exact List.length_map _

/-- Entries are counted by their keys. -/
theorem countP_card [DecidableEq κ] (m : KeyMap κ β) (p : κ × β → Bool) (s : Finset κ)
    (hs : ∀ k, k ∈ s ↔ ∃ v, m.find? k = some v ∧ p (k, v) = true) :
    m.toList.countP p = s.card := by
  have hkeys : ((m.toList.filter p).map Prod.fst).toFinset = s := by
    ext k
    rw [List.mem_toFinset, List.mem_map, hs]
    constructor
    · rintro ⟨⟨j, v⟩, he, rfl⟩
      obtain ⟨hmem, hp⟩ := List.mem_filter.mp he
      exact ⟨v, (mem_toList m j v).mp hmem, hp⟩
    · rintro ⟨v, hv, hp⟩
      exact ⟨(k, v), List.mem_filter.mpr ⟨(mem_toList m k v).mpr hv, hp⟩, rfl⟩
  have hnodup : ((m.toList.filter p).map Prod.fst).Nodup :=
    (List.filter_sublist.map Prod.fst).nodup (keys_nodup m)
  rw [← hkeys, List.toFinset_card_of_nodup hnodup, List.length_map, List.countP_eq_length_filter]

theorem filter_key [DecidableEq κ] (m : KeyMap κ β) (k : κ) :
    (m.toList.filter fun e => e.1 = k) = (m.find? k).toList.map fun v => (k, v) := by
  have hl (l : List (κ × β)) (h : (l.map Prod.fst).Nodup) :
      (l.filter fun e => e.1 = k) = (findEntry k l).toList.map fun v => (k, v) := by
    induction l with
    | nil => rfl
    | cons e rest ih =>
      obtain ⟨x, v⟩ := e
      obtain ⟨hx, hr⟩ := List.nodup_cons.mp h
      by_cases hk : x = k
      · subst hk
        have hrest : (rest.filter fun e => e.1 = x) = [] := by
          rw [List.filter_eq_nil_iff]
          intro e he hc
          exact hx (List.mem_map.mpr ⟨e, he, by simpa using hc⟩)
        simp [findEntry, hrest]
      · have hne : compare k x ≠ .eq := fun hc => hk (Std.LawfulEqOrd.eq_of_compare hc).symm
        simp [findEntry, hk, hne, ih hr]
  exact hl m.entries m.keys_nodup

/-- Of what the entries of a map make, each for its own key, a key has what its entry makes. -/
theorem filter_made_key [DecidableEq κ] (m : KeyMap κ β) (key : σ → κ) (make : κ × β → Option σ)
    (hmake : ∀ e s, make e = some s → key s = e.1) (k : κ) :
    ((m.toList.filterMap make).filter fun s => key s = k) =
      ((m.find? k).bind fun v => make (k, v)).toList := by
  have hown : (m.toList.filterMap make).filter (fun s => key s = k) =
      (m.toList.filter fun e => e.1 = k).filterMap make := by
    rw [List.filter_filterMap, List.filterMap_filter]
    congr 1
    funext e
    cases hs : make e with
    | none => simp
    | some s => simp [Option.filter_some, hmake e s hs]
  rw [hown, filter_key]
  cases m.find? k with
  | none => rfl
  | some v => cases h : make (k, v) <;> simp [h]

theorem find?_mapValues (f : κ → β → γ) (m : KeyMap κ β) (k : κ) :
    (m.mapValues f).find? k = (m.find? k).map (f k) := by
  have hl (l : List (κ × β)) :
      findEntry k (l.map fun e => (e.1, f e.1 e.2)) = (findEntry k l).map (f k) := by
    induction l with
    | nil => rfl
    | cons e rest ih =>
      by_cases hk : compare k e.1 = .eq
      · simp [findEntry, Std.LawfulEqOrd.eq_of_compare hk]
      · simp [findEntry, hk, ih]
  exact hl m.entries

theorem find?_filterMap (f : κ → β → Option γ) (m : KeyMap κ β) (k : κ) :
    (m.filterMap f).find? k = (m.find? k).bind (f k) := by
  have hentries : (m.filterMap f).toList =
      m.toList.filterMap fun e => (f e.1 e.2).map fun v => (e.1, v) := rfl
  ext v
  rw [← mem_toList, hentries, List.mem_filterMap, Option.bind_eq_some_iff]
  constructor
  · rintro ⟨⟨j, w⟩, he, hmade⟩
    obtain ⟨u, hu, hpair⟩ := Option.map_eq_some_iff.mp hmade
    cases hpair
    exact ⟨w, (mem_toList m j w).mp he, hu⟩
  · rintro ⟨w, hw, hv⟩
    exact ⟨(k, w), (mem_toList m k w).mpr hw, Option.map_eq_some_iff.mpr ⟨v, hv, rfl⟩⟩

variable [Std.TransOrd κ]

def accumulateAt (m : KeyMap κ β) (place : Option κ) (start : β) (add : β → β) : KeyMap κ β :=
  match place with
  | none => m
  | some k => m.accumulate k start add

/-- A fold has at most one entry for each step that is placed. -/
theorem size_foldl_accumulateAt (place : σ → Option κ) (start : σ → β) (add : σ → β → β)
    (l : List σ) (m : KeyMap κ β) :
    (l.foldl (fun m s => m.accumulateAt (place s) (start s) (add s)) m).size ≤
      m.size + l.countP fun s => (place s).isSome := by
  induction l generalizing m with
  | nil => exact le_rfl
  | cons s l ih =>
    have hrest := ih (m.accumulateAt (place s) (start s) (add s))
    rw [List.foldl_cons, List.countP_cons]
    cases hs : place s with
    | none =>
      rw [hs] at hrest
      exact hrest
    | some k =>
      have hstep : (m.accumulate k (start s) (add s)).size ≤ m.size + 1 :=
        upsert_entries_length k _ m.entries
      rw [hs] at hrest
      simp only [accumulateAt, Option.isSome_some, ↓reduceIte] at hrest ⊢
      omega

/-- A step that adds the same weight to every value raises the total by it. -/
theorem total_accumulate [AddCommMonoid M] (w : β → M) (d : M) (m : KeyMap κ β) (k : κ)
    (start : β) (add : β → β) (hs : w start = 0) (ha : ∀ b, w (add b) = w b + d) :
    total w (m.accumulate k start add) = total w m + d :=
  upsert_entries_weight (fun e => w e.2) d k (fun v => add (v.getD start)) (by simp [ha, hs])
    (fun b => ha b) m.entries

omit [Std.LawfulEqOrd κ] [Std.TransOrd κ] in
theorem total_over_eq [AddCommMonoid M] (chosen : κ → Bool) (m : KeyMap κ M) :
    m.totalOver chosen = (m.toList.map fun e => if chosen e.1 then e.2 else 0).sum := by
  unfold totalOver
  induction m.toList with
  | nil => rfl
  | cons e l ih => cases h : chosen e.1 <;> simp [h, ih]

theorem total_over_accumulate [AddCommMonoid M] (chosen : κ → Bool) (m : KeyMap κ M) (k : κ)
    (start d : M) (hs : start = 0) :
    (m.accumulate k start (· + d)).totalOver chosen =
      m.totalOver chosen + if chosen k then d else 0 := by
  rw [total_over_eq, total_over_eq]
  apply upsert_entries_weight (fun e => if chosen e.1 then e.2 else 0)
  · simp [hs]
  · intro b
    cases chosen k <;> simp

/-- A fold that adds the amount of each step to the value of its key has under some keys
what the steps of these keys amount to. -/
theorem total_over_foldl [AddCommMonoid M] (chosen : κ → Bool) (key : σ → κ) (amount : σ → M)
    (start : M) (hs : start = 0) (l : List σ) (m : KeyMap κ M) :
    (l.foldl (fun m s => m.accumulate (key s) start (· + amount s)) m).totalOver chosen =
      m.totalOver chosen + ((l.filter fun s => chosen (key s)).map amount).sum := by
  induction l generalizing m with
  | nil => simp
  | cons s l ih =>
    rw [List.foldl_cons, ih, total_over_accumulate _ _ _ _ _ hs, add_assoc]
    cases h : chosen (key s) <;> simp [h]

variable [DecidableEq κ]

theorem find?_accumulate (m : KeyMap κ β) (k j : κ) (start : β) (add : β → β) :
    (m.accumulate k start add).find? j =
      if j = k then some (add ((m.find? k).getD start)) else m.find? j :=
  find?_upsert m k j _

/-- A map made from a list has for each key its last value of the list. -/
theorem find?_ofList (l : List (κ × β)) (k : κ) : (ofList l).find? k = l.reverse.lookup k := by
  have hfold (m : KeyMap κ β) :
      (l.foldl (fun m e => m.insert e.1 e.2) m).find? k =
        (l.reverse.lookup k).or (m.find? k) := by
    induction l generalizing m with
    | nil => rfl
    | cons e l ih =>
      rw [List.foldl_cons, ih, find?_insert, List.reverse_cons, List.lookup_append, Option.or_assoc]
      congr 1
      by_cases hk : k = e.1
      · simp [List.lookup, hk]
      · have hne : (k == e.1) = false := beq_false_of_ne hk
        simp [List.lookup, hk, hne]
  exact (hfold empty).trans (Option.or_none)

/-- At each key a fold shows the steps that are placed there, in their order. -/
theorem find?_foldl_accumulateAt (place : σ → Option κ) (start : σ → β) (add : σ → β → β)
    (l : List σ) (m : KeyMap κ β) (k : κ) :
    (l.foldl (fun m s => m.accumulateAt (place s) (start s) (add s)) m).find? k =
      (l.filter fun s => place s = some k).foldl
        (fun o s => some (add s (o.getD (start s)))) (m.find? k) := by
  induction l generalizing m with
  | nil => rfl
  | cons s l ih =>
    rw [List.foldl_cons, ih]
    cases hs : place s with
    | none => simp [hs, accumulateAt]
    | some j =>
      by_cases hk : j = k
      · simp [hs, hk, accumulateAt, find?_accumulate]
      · simp [hs, hk, accumulateAt, find?_accumulate, Ne.symm hk]

/-- At each key a fold shows the steps of that key only, in their order. -/
theorem find?_foldl_accumulate (key : σ → κ) (start : σ → β) (add : σ → β → β)
    (l : List σ) (m : KeyMap κ β) (k : κ) :
    (l.foldl (fun m s => m.accumulate (key s) (start s) (add s)) m).find? k =
      (l.filter fun s => key s = k).foldl
        (fun o s => some (add s (o.getD (start s)))) (m.find? k) := by
  have hplaced := find?_foldl_accumulateAt (fun s => some (key s)) start add l m k
  simpa only [accumulateAt, Option.some.injEq] using hplaced

/-- The first step of a key starts its value; a key without steps has none. -/
theorem find?_foldl_started (key : σ → κ) (start : σ → β) (add : σ → β → β) (l : List σ)
    (k : κ) :
    (l.foldl (fun m s => m.accumulate (key s) (start s) (add s)) empty).find? k =
      match l.filter fun s => key s = k with
      | [] => none
      | s :: rest => some ((s :: rest).foldl (fun b s => add s b) (start s)) := by
  rw [find?_foldl_accumulate, find?_empty]
  cases l.filter fun s => key s = k with
  | nil => rfl
  | cons s rest => exact foldl_started start add s rest

omit [Ord κ] [Std.LawfulEqOrd κ] [Std.TransOrd κ] in
theorem mem_map_key (key : σ → κ) (l : List σ) (k : κ) :
    k ∈ l.map key ↔ (l.filter fun s => key s = k) ≠ [] := by
  simp [List.filter_eq_nil_iff]

/-- A merge puts a label of its first step beside each value and lets all steps of a
key make the value. -/
theorem find?_merge (key : σ → κ) (label : σ → γ) (start : β) (add : β → σ → β)
    (l : List σ) (k : κ) :
    ((l.foldl (fun m s => m.accumulate (key s) (label s, start) fun e => (e.1, add e.2 s))
      empty).find? k).map Prod.snd =
      if k ∈ l.map key then some ((l.filter fun s => key s = k).foldl add start)
      else none := by
  have hfold := find?_foldl_started key (fun s => (label s, start))
    (fun s e => (e.1, add e.2 s)) l k
  have hsnd (l : List σ) (e : γ × β) :
      (l.foldl (fun e s => (e.1, add e.2 s)) e).2 = l.foldl add e.2 := by
    induction l generalizing e with
    | nil => rfl
    | cons s l ih => exact ih _
  rw [hfold]
  cases hown : l.filter fun s => key s = k with
  | nil => simp [mem_map_key, hown]
  | cons s rest => rw [if_pos (by simp [mem_map_key, hown]), Option.map_some, hsnd]

end KeyMap
end ScrapeTelemetry
