import Mathlib
import ScrapeTelemetry.Text.Blank

/-!
# Runs of characters

A run of a class of characters is cut off a text at the first character outside the
class. Trimming cuts off the blanks at both ends and nothing else.
-/

set_option autoImplicit false

namespace ScrapeTelemetry

def Stops (p : Char → Bool) : List Char → Prop
  | [] => True
  | c :: _ => p c = false

theorem stops_cons {p : Char → Bool} {c : Char} (h : p c = false) (r : List Char) :
    Stops p (c :: r) :=
  h

theorem stops_append {p : Char → Bool} {cs : List Char} (h : Stops p cs) (hne : cs ≠ [])
    (r : List Char) : Stops p (cs ++ r) := by
  cases cs with
  | nil => exact absurd rfl hne
  | cons c cs => exact h

def Separators (b : List Char) : Prop := ∀ c ∈ b, isSeparator c = true

theorem stops_drop_while (p : Char → Bool) (cs : List Char) : Stops p (cs.dropWhile p) := by
  induction cs with
  | nil => trivial
  | cons c cs ih =>
    by_cases h : p c
    · rwa [List.dropWhile_cons_of_pos h]
    · rw [List.dropWhile_cons_of_neg h]
      simpa [Stops] using h

theorem drop_while_stopped {p : Char → Bool} {r : List Char} (hr : Stops p r) :
    r.dropWhile p = r := by
  cases r with
  | nil => rfl
  | cons c r => exact List.dropWhile_cons_of_neg (by simp [show p c = false from hr])

theorem drop_while_run {p : Char → Bool} {w r : List Char} (hw : ∀ c ∈ w, p c = true)
    (hr : Stops p r) : (w ++ r).dropWhile p = r := by
  rw [List.dropWhile_append_of_pos hw, drop_while_stopped hr]

theorem take_while_run {p : Char → Bool} {w r : List Char} (hw : ∀ c ∈ w, p c = true)
    (hr : Stops p r) : (w ++ r).takeWhile p = w := by
  rw [List.takeWhile_append_of_pos hw]
  cases r with
  | nil => simp
  | cons c r => simp [show p c = false from hr]

/-- A run of separators does not belong to any other class of characters. -/
theorem stops_separators {p : Char → Bool} {b r : List Char} (hb : Separators b)
    (hp : ∀ c, isSeparator c = true → p c = false) (hr : Stops p r) : Stops p (b ++ r) := by
  cases b with
  | nil => exact hr
  | cons c b => exact hp c (hb c (by simp))

theorem stops_some_separators {p : Char → Bool} {b : List Char} (hne : b ≠ [])
    (hb : Separators b) (hp : ∀ c, isSeparator c = true → p c = false) (r : List Char) :
    Stops p (b ++ r) := by
  cases b with
  | nil => exact absurd rfl hne
  | cons c b => exact hp c (hb c (by simp))

theorem blank_of_separator {c : Char} (h : isSeparator c = true) : isBlank c = true := by
  simp only [isSeparator, Bool.or_eq_true, decide_eq_true_eq] at h
  rcases h with rfl | rfl <;> decide

theorem skip_separators {b r : List Char} (hb : Separators b) (hr : Stops isSeparator r) :
    skipSeparators (b ++ r) = r :=
  drop_while_run hb hr

theorem separators_before (cs : List Char) :
    ∃ b, Separators b ∧ cs = b ++ skipSeparators cs :=
  ⟨cs.takeWhile isSeparator, fun _ hc => List.mem_takeWhile_imp hc,
    List.takeWhile_append_dropWhile.symm⟩

theorem skip_some_iff {cs r : List Char} :
    skipSeparators1? cs = some r ↔
      ∃ b, b ≠ [] ∧ Separators b ∧ cs = b ++ r ∧ Stops isSeparator r := by
  constructor
  · intro h
    cases cs with
    | nil => simp [skipSeparators1?] at h
    | cons c cs =>
      by_cases hc : isSeparator c
      · simp only [skipSeparators1?, hc, if_true, Option.some.injEq] at h
        obtain ⟨b, hb, hcs⟩ := separators_before cs
        rw [h] at hcs
        refine ⟨c :: b, by simp, ?_, by rw [hcs]; rfl, h ▸ stops_drop_while _ cs⟩
        intro d hd
        rcases List.mem_cons.mp hd with rfl | hd
        · exact hc
        · exact hb d hd
      · simp [skipSeparators1?, hc] at h
  · rintro ⟨b, hne, hb, rfl, hr⟩
    cases b with
    | nil => exact absurd rfl hne
    | cons c b =>
      have hrest : Separators b := fun d hd => hb d (List.mem_cons_of_mem c hd)
      have hskip := skip_separators hrest hr
      simp [skipSeparators1?, hb c (by simp), hskip]

theorem trim_eq_nil {cs : List Char} : trim cs = [] ↔ ∀ c ∈ cs, isBlank c = true := by
  have htrim : trim cs = (cs.dropWhile isBlank).rdropWhile isBlank := rfl
  rw [htrim, List.rdropWhile_eq_nil_iff]
  constructor
  · intro h c hc
    rw [← List.takeWhile_append_dropWhile (p := isBlank) (l := cs)] at hc
    rcases List.mem_append.mp hc with hc | hc
    · exact List.mem_takeWhile_imp hc
    · exact h c hc
  · exact fun h c hc => h c ((List.dropWhile_sublist isBlank).mem hc)

/-- A trimmed text does not end with blanks. -/
theorem trim_end {cs t r : List Char} (h : trim cs = t ++ r)
    (hr : ∀ c ∈ r, isBlank c = true) : r = [] := by
  by_contra hne
  have hnil : (cs.dropWhile isBlank).rdropWhile isBlank ≠ [] := by
    change trim cs ≠ []
    simp [h, hne]
  have hlast := List.rdropWhile_last_not isBlank _ hnil
  have hblank : isBlank ((trim cs).getLast hnil) = true := by
    have hsame : (trim cs).getLast hnil = r.getLast hne := by
      simp only [h, List.getLast_append_of_ne_nil _ hne]
    rw [hsame]
    exact hr _ (List.getLast_mem hne)
  exact hlast hblank

/-- Blanks behind a word are trimmed off, and no more, unless the text begins with blanks. -/
theorem trim_after_word {t w b : List Char} (hstart : Stops isBlank (t ++ w)) (hne : w ≠ [])
    (hw : ∀ c ∈ w, isBlank c = false) (hb : ∀ c ∈ b, isBlank c = true) :
    trim (t ++ (w ++ b)) = t ++ w := by
  have hfront : (t ++ (w ++ b)).dropWhile isBlank = t ++ (w ++ b) := by
    rw [← List.append_assoc]
    exact drop_while_stopped (stops_append hstart (by simp [hne]) b)
  have hlast : Stops isBlank w.reverse := by
    cases hreverse : w.reverse with
    | nil => trivial
    | cons c r => exact hw c (List.mem_reverse.mp (by simp [hreverse]))
  have hback : (b.reverse ++ (w.reverse ++ t.reverse)).dropWhile isBlank =
      w.reverse ++ t.reverse :=
    drop_while_run (fun c hc => hb c (List.mem_reverse.mp hc))
      (stops_append hlast (by simp [hne]) t.reverse)
  unfold trim trimRight trimLeft
  rw [hfront, List.reverse_append, List.reverse_append, List.append_assoc, hback]
  simp

end ScrapeTelemetry
