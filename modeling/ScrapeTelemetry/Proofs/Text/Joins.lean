import Mathlib

/-!
# Texts with a separator between them

A separator that a text has of its own can be taken for the one that joins it to another.
Two joins are therefore the same text also where their parts differ; how the parts then
differ is said by where the other separator stands.
-/

set_option autoImplicit false

namespace ScrapeTelemetry

theorem append_eq_iff (a b c d : String) :
    a ++ b = c ++ d ↔ (∃ t, c = a ++ t ∧ b = t ++ d) ∨ ∃ t, a = c ++ t ∧ d = t ++ b := by
  simp only [← String.toList_inj, String.toList_append, List.append_eq_append_iff]
  constructor
  · rintro (⟨t, hc, hb⟩ | ⟨t, ha, hd⟩)
    · exact .inl ⟨.ofList t, by simpa using hc, by simpa using hb⟩
    · exact .inr ⟨.ofList t, by simpa using ha, by simpa using hd⟩
  · rintro (⟨t, hc, hb⟩ | ⟨t, ha, hd⟩)
    · exact .inl ⟨t.toList, hc, hb⟩
    · exact .inr ⟨t.toList, ha, hd⟩

/-- The separator `p ++ q` of `c` and `d` is found inside `b`, to the right of the one
between `a` and `b`. Both can have one `p` in common. -/
def SeparatorMoves (p q a b c d : String) : Prop :=
  ∃ t, c ++ p = a ++ (p ++ q) ++ t ∧ b = t ++ q ++ d

def OverlapsBy (p q : String) : Prop := ∀ u v, u ≠ "" → u ++ p ++ v = p ++ q → v = ""

variable {p q : String}

theorem join_of_moved {a b c d : String} (h : SeparatorMoves p q a b c d) :
    a ++ (p ++ q) ++ b = c ++ (p ++ q) ++ d := by
  obtain ⟨t, hc, rfl⟩ := h
  calc a ++ (p ++ q) ++ (t ++ q ++ d)
      = a ++ (p ++ q) ++ t ++ (q ++ d) := by simp only [String.append_assoc]
    _ = c ++ p ++ (q ++ d) := by rw [← hc]
    _ = c ++ (p ++ q) ++ d := by simp only [String.append_assoc]

theorem moved_of_join (hover : OverlapsBy p q) {a b u d : String} (hu : u ≠ "")
    (h : p ++ q ++ b = u ++ (p ++ q) ++ d) : SeparatorMoves p q a b (a ++ u) d := by
  have hsplit : p ++ q ++ b = u ++ p ++ (q ++ d) := by
    rw [h]
    simp only [String.append_assoc]
  rcases (append_eq_iff _ _ _ _).mp hsplit with ⟨t, hup, hb⟩ | ⟨t, hpq, hqd⟩
  · refine ⟨t, ?_, ?_⟩
    · rw [String.append_assoc, hup]
      simp only [String.append_assoc]
    · rw [hb, String.append_assoc]
  · -- the two occurrences overlap, as far as they can
    have ht := hover u t hu hpq.symm
    rw [ht, String.append_empty] at hpq
    rw [ht, String.empty_append] at hqd
    refine ⟨"", ?_, ?_⟩
    · rw [String.append_empty, String.append_assoc, ← hpq]
    · rw [String.empty_append, hqd]

/-- Two joined texts are the same if their parts are, or if the separator between the
parts of one is also found inside a part of the other. -/
theorem joined_eq_iff (hover : OverlapsBy p q) (a b c d : String) :
    a ++ (p ++ q) ++ b = c ++ (p ++ q) ++ d ↔
      (a = c ∧ b = d) ∨ SeparatorMoves p q a b c d ∨ SeparatorMoves p q c d a b := by
  constructor
  · intro h
    have hcut : a ++ (p ++ q ++ b) = c ++ (p ++ q ++ d) := by
      simpa only [String.append_assoc] using h
    rcases (append_eq_iff _ _ _ _).mp hcut with ⟨u, rfl, hb⟩ | ⟨u, rfl, hd⟩
    · by_cases hu : u = ""
      · rw [hu, String.empty_append, String.append_right_inj] at hb
        exact .inl ⟨by rw [hu, String.append_empty], hb⟩
      · rw [← String.append_assoc] at hb
        exact .inr (.inl (moved_of_join hover hu hb))
    · by_cases hu : u = ""
      · rw [hu, String.empty_append, String.append_right_inj] at hd
        exact .inl ⟨by rw [hu, String.append_empty], hd.symm⟩
      · rw [← String.append_assoc] at hd
        exact .inr (.inr (moved_of_join hover hu hd))
  · rintro (⟨rfl, rfl⟩ | h | h)
    · rfl
    · exact join_of_moved h
    · exact (join_of_moved h).symm

theorem slash_overlaps : OverlapsBy "" "/" := by
  intro u v hu h
  simp only [← String.toList_inj, ne_eq, String.toList_append] at hu h ⊢
  rcases hu' : u.toList with _ | ⟨x, u⟩
  · exact absurd hu' hu
  · simp_all

theorem arrow_overlaps : OverlapsBy " " "-> " := by
  intro u v hu h
  simp only [← String.toList_inj, ne_eq, String.toList_append] at hu h ⊢
  rcases hu' : u.toList with _ | ⟨x, _ | ⟨y, _ | ⟨z, _ | ⟨w, u⟩⟩⟩⟩ <;> simp_all

/-- A text with a beginning that has no separator of its own, cut at a separator. -/
theorem beginning_split {s : Char} {start : String} (hs : s ∉ start.toList) (k a b : String) :
    start ++ k = a ++ String.singleton s ++ b ↔
      ∃ t, a = start ++ t ∧ k = t ++ String.singleton s ++ b := by
  constructor
  · intro h
    rw [String.append_assoc, append_eq_iff] at h
    rcases h with ⟨t, rfl, hk⟩ | ⟨t, ha, hb⟩
    · exact ⟨t, rfl, by rw [hk, String.append_assoc]⟩
    · -- a separator left of the end of `start` would be one of its characters
      have ht : t.toList = [] := by
        cases hlist : t.toList with
        | nil => rfl
        | cons x l =>
          have hx := congrArg String.toList hb
          rw [String.toList_append, String.toList_append, hlist, String.toList_singleton] at hx
          refine absurd ?_ hs
          rw [ha, String.toList_append, hlist, (List.cons.inj hx).1]
          simp
      rw [String.toList_eq_nil_iff] at ht
      rw [ht, String.append_empty] at ha
      rw [ht, String.empty_append] at hb
      exact ⟨"", by rw [ha, String.append_empty], by rw [String.empty_append, hb]⟩
  · rintro ⟨t, rfl, rfl⟩
    simp only [String.append_assoc]

end ScrapeTelemetry
