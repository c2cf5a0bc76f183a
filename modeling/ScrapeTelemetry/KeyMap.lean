/-!
# Maps in key order

A finite map is the list of its entries, strictly ascending by key. Two maps
with the same look-ups are therefore equal, and a walk over a map never depends
on the order in which its entries arrived.
-/

set_option autoImplicit false

namespace ScrapeTelemetry

/-- Entries strictly ascending by key. -/
structure KeyMap (κ β : Type) [Ord κ] where
  entries : List (κ × β)
  ascending : entries.Pairwise fun a b => compare a.1 b.1 = .lt

namespace KeyMap

variable {κ β γ : Type} [Ord κ]

def upsertEntries (k : κ) (f : Option β → β) : List (κ × β) → List (κ × β)
  | [] => [(k, f none)]
  | (x, v) :: rest =>
    match compare k x with
    | .lt => (k, f none) :: (x, v) :: rest
    | .eq => (x, f (some v)) :: rest
    | .gt => (x, v) :: upsertEntries k f rest

def findEntry (k : κ) : List (κ × β) → Option β
  | [] => none
  | (x, v) :: rest => if compare k x = .eq then some v else findEntry k rest

theorem mem_upsertEntries {k : κ} {f : Option β → β} {l : List (κ × β)} {p : κ × β}
    (h : p ∈ upsertEntries k f l) : p.1 = k ∨ ∃ q ∈ l, q.1 = p.1 := by
  induction l with
  | nil => simp_all [upsertEntries]
  | cons e rest ih =>
    obtain ⟨x, v⟩ := e
    unfold upsertEntries at h
    split at h
    · rcases List.mem_cons.1 h with h | h
      · exact .inl (by rw [h])
      · exact .inr ⟨p, h, rfl⟩
    · rcases List.mem_cons.1 h with h | h
      · exact .inr ⟨(x, v), by simp, by rw [h]⟩
      · exact .inr ⟨p, List.mem_cons_of_mem _ h, rfl⟩
    · rcases List.mem_cons.1 h with h | h
      · exact .inr ⟨(x, v), by simp, by rw [h]⟩
      · rcases ih h with h | ⟨q, hq, h⟩
        · exact .inl h
        · exact .inr ⟨q, List.mem_cons_of_mem _ hq, h⟩

theorem upsertEntries_ascending [Std.TransOrd κ] [Std.LawfulEqOrd κ] {k : κ}
    {f : Option β → β} {l : List (κ × β)}
    (h : l.Pairwise fun a b => compare a.1 b.1 = .lt) :
    (upsertEntries k f l).Pairwise fun a b => compare a.1 b.1 = .lt := by
  induction l with
  | nil => simp [upsertEntries]
  | cons e rest ih =>
    obtain ⟨x, v⟩ := e
    rw [List.pairwise_cons] at h
    unfold upsertEntries
    split
    · rename_i hlt
      refine List.pairwise_cons.2 ⟨?_, List.pairwise_cons.2 h⟩
      intro q hq
      rcases List.mem_cons.1 hq with rfl | hq
      · exact hlt
      · exact Std.TransCmp.lt_trans hlt (h.1 q hq)
    · exact List.pairwise_cons.2 ⟨fun q hq => h.1 q hq, h.2⟩
    · rename_i hgt
      refine List.pairwise_cons.2 ⟨?_, ih h.2⟩
      intro q hq
      rcases mem_upsertEntries hq with hq | ⟨r, hr, hq⟩
      · rw [hq]
        exact Std.OrientedCmp.lt_of_gt hgt
      · rw [← hq]
        exact h.1 r hr

def empty : KeyMap κ β := ⟨[], .nil⟩

instance : EmptyCollection (KeyMap κ β) := ⟨empty⟩
instance : Inhabited (KeyMap κ β) := ⟨empty⟩

def find? (m : KeyMap κ β) (k : κ) : Option β := findEntry k m.entries

def contains (m : KeyMap κ β) (k : κ) : Bool := (m.find? k).isSome

def toList (m : KeyMap κ β) : List (κ × β) := m.entries

def keys (m : KeyMap κ β) : List κ := m.entries.map Prod.fst

def size (m : KeyMap κ β) : Nat := m.entries.length

def isEmpty (m : KeyMap κ β) : Bool := m.entries.isEmpty

def mapValues (f : κ → β → γ) (m : KeyMap κ β) : KeyMap κ γ where
  entries := m.entries.map fun e => (e.1, f e.1 e.2)
  ascending := by simpa [List.pairwise_map] using m.ascending

def filterMap (f : κ → β → Option γ) (m : KeyMap κ β) : KeyMap κ γ where
  entries := m.entries.filterMap fun e => (f e.1 e.2).map fun v => (e.1, v)
  ascending := by
    refine List.pairwise_filterMap.2 (m.ascending.imp ?_)
    intro a b hab x hx y hy
    obtain ⟨v, -, rfl⟩ := Option.map_eq_some_iff.1 hx
    obtain ⟨w, -, rfl⟩ := Option.map_eq_some_iff.1 hy
    exact hab

variable [Std.TransOrd κ] [Std.LawfulEqOrd κ]

def upsert (m : KeyMap κ β) (k : κ) (f : Option β → β) : KeyMap κ β :=
  ⟨upsertEntries k f m.entries, upsertEntries_ascending m.ascending⟩

def insert (m : KeyMap κ β) (k : κ) (v : β) : KeyMap κ β := m.upsert k fun _ => v

def accumulate (m : KeyMap κ β) (k : κ) (start : β) (add : β → β) : KeyMap κ β :=
  m.upsert k fun v => add (v.getD start)

def ofList (l : List (κ × β)) : KeyMap κ β :=
  l.foldl (fun m e => m.insert e.1 e.2) empty

theorem findEntry_upsertEntries (k j : κ) (f : Option β → β) (l : List (κ × β))
    (h : l.Pairwise fun a b => compare a.1 b.1 = .lt) :
    findEntry j (upsertEntries k f l)
      = if compare j k = .eq then some (f (findEntry k l)) else findEntry j l := by
  induction l with
  | nil => simp [upsertEntries, findEntry]
  | cons e rest ih =>
    obtain ⟨x, v⟩ := e
    rw [List.pairwise_cons] at h
    unfold upsertEntries
    split
    · rename_i hlt
      have hk : findEntry k ((x, v) :: rest) = none := by
        have hx : ∀ q ∈ (x, v) :: rest, compare k q.1 = .lt := by
          intro q hq
          rcases List.mem_cons.1 hq with rfl | hq
          · exact hlt
          · exact Std.TransCmp.lt_trans hlt (h.1 q hq)
        generalize (x, v) :: rest = l at hx
        induction l with
        | nil => rfl
        | cons e l ih =>
          have := hx e (by simp)
          simp [findEntry, this, ih fun q hq => hx q (List.mem_cons_of_mem _ hq)]
      rw [hk]
      by_cases hj : compare j k = .eq <;> simp [findEntry, hj]
    · rename_i heq
      have hkx : k = x := Std.LawfulEqOrd.eq_of_compare heq
      subst hkx
      by_cases hj : compare j k = .eq <;> simp [findEntry, hj]
    · rename_i hgt
      have hkx : compare k x ≠ .eq := by simp [hgt]
      by_cases hjx : compare j x = .eq
      · have : j = x := Std.LawfulEqOrd.eq_of_compare hjx
        subst this
        have hjk : compare j k ≠ .eq := by
          intro hc
          exact hkx (Std.OrientedCmp.eq_symm hc)
        simp [findEntry, hjk]
      · simp [findEntry, hjx, hkx, ih h.2]

omit [Std.TransOrd κ] [Std.LawfulEqOrd κ] in
@[simp] theorem find?_empty (k : κ) : (empty : KeyMap κ β).find? k = none := rfl

theorem find?_upsert [DecidableEq κ] (m : KeyMap κ β) (k j : κ) (f : Option β → β) :
    (m.upsert k f).find? j = if j = k then some (f (m.find? k)) else m.find? j := by
  have := findEntry_upsertEntries k j f m.entries m.ascending
  simpa [find?, upsert, Std.LawfulEqOrd.compare_eq_iff_eq] using this

theorem find?_insert [DecidableEq κ] (m : KeyMap κ β) (k j : κ) (v : β) :
    (m.insert k v).find? j = if j = k then some v else m.find? j :=
  find?_upsert m k j _

end KeyMap
end ScrapeTelemetry
