import Mathlib
import ScrapeTelemetry.Exposition.Scrape

/-!
# Scrape bodies line by line

A body gives the samples that its lines give alone, in their order. The lines before a
line bear on the kind of its sample, by the types that they declare, and on nothing else.
A malformed line declares nothing, so it can stand anywhere or be left out.
-/

set_option autoImplicit false

namespace ScrapeTelemetry

def sampleAlone? (line : List Char) : Option (Sample Float) :=
  (readSample (String.ofList line)).toOption

def samplesAlone (lines : List (List Char)) : List (List (List Char) × Sample Float) :=
  (lines.inits.zip lines).filterMap fun e => (sampleAlone? e.2).map fun s => (e.1, s)

def isMalformed (line : List Char) : Bool :=
  !isSilent (trim line) && (sampleAlone? line).isNone

def declare (declared : Declarations) (line : List Char) : Declarations :=
  match readDeclaration? (trim line) with
  | some (name, family) => declared.insert name family
  | none => declared

def declaredBy (lines : List (List Char)) : Declarations := lines.foldl declare .empty

structure ReadAlike (before : List (List Char)) (alone s : Sample Float) : Prop where
  name : s.name = alone.name
  labels : s.labels = alone.labels
  value : s.value = alone.value
  kind : s.kind = kindOf (declaredBy before) alone.name alone.labels
  undeclared : (∀ line ∈ before, readDeclaration? (trim line) = none) → s.kind = alone.kind

theorem declaration_head {line : List Char} (h : line.head? ≠ some '#') :
    readDeclaration? line = none := by
  cases line with
  | nil => rfl
  | cons c cs =>
    have hc : ('#' == c) = false := by
      rw [beq_eq_false_iff_ne]
      rintro rfl
      exact h rfl
    simp [readDeclaration?, dropStart?, List.isPrefixOf, hc]

theorem alone_silent {line : List Char} (h : isSilent (trim line) = true) :
    sampleAlone? line = none := by
  simp [sampleAlone?, readSample, h, Except.toOption]

theorem alone_spoken {line : List Char} (h : isSilent (trim line) = false) :
    sampleAlone? line =
      match SampleLine.read? (trim line) with
      | some (l, rest) => if (trim rest).isEmpty then some (l.toSample .empty) else none
      | none => none := by
  simp only [sampleAlone?, readSample, String.toList_ofList, h, Bool.false_eq_true, if_false]
  cases SampleLine.read? (trim line) with
  | none => rfl
  | some e =>
    obtain ⟨l, rest⟩ := e
    by_cases hrest : (trim rest).isEmpty <;> simp [hrest, Except.toOption]

theorem alone_kind {line : List Char} {s : Sample Float} (h : sampleAlone? line = some s) :
    s.kind = kindOf .empty s.name s.labels := by
  cases hsilent : isSilent (trim line) with
  | true => simp [alone_silent hsilent] at h
  | false =>
    rw [alone_spoken hsilent] at h
    split at h
    · split at h <;> cases h
      rfl
    · cases h

theorem samples_alone_cons (line : List Char) (more : List (List Char)) :
    samplesAlone (line :: more) = ((sampleAlone? line).map fun s => ([], s)).toList ++
      (samplesAlone more).map fun e => (line :: e.1, e.2) := by
  unfold samplesAlone
  rw [List.inits_cons, List.zip_cons_cons, List.zip_map_left, List.filterMap_cons,
    List.filterMap_map, List.map_filterMap]
  simp only [Option.map_map]
  cases sampleAlone? line <;> rfl

theorem declare_spoken {line : List Char} (h : isSilent (trim line) = false)
    (declared : Declarations) : declare declared line = declared := by
  have hhead : (trim line).head? ≠ some '#' := by
    intro hc
    simp [isSilent, hc] at h
  simp [declare, declaration_head hhead]

theorem declared_by_none {lines : List (List Char)}
    (h : ∀ line ∈ lines, readDeclaration? (trim line) = none) : declaredBy lines = .empty := by
  unfold declaredBy
  induction lines with
  | nil => rfl
  | cons line lines ih =>
    have hline : declare .empty line = .empty := by simp [declare, h line (by simp)]
    rw [List.foldl_cons, hline]
    exact ih fun l hl => h l (List.mem_cons_of_mem line hl)

namespace Scrape

/-- One line: its sample under the types declared so far, and what it declares itself. -/
theorem of_lines_cons (declared : Declarations) (line : List Char) (more : List (List Char)) :
    ofLines declared (line :: more) =
      ⟨((sampleAlone? line).map fun s =>
          { s with kind := kindOf declared s.name s.labels }).toList ++
          (ofLines (declare declared line) more).samples,
        (ofLines (declare declared line) more).skipped +
          if isMalformed line then 1 else 0⟩ := by
  rw [ofLines]
  cases hsilent : isSilent (trim line) with
  | true =>
    have hgood : isMalformed line = false := by simp [isMalformed, hsilent]
    rw [alone_silent hsilent, hgood]
    simp only [Option.map_none, Option.toList_none, List.nil_append, Bool.false_eq_true,
      if_false, Nat.add_zero]
    -- a blank line declares nothing, a comment at most a type
    by_cases hempty : (trim line).isEmpty
    · have hnone : declare declared line = declared := by
        rw [declare, List.isEmpty_iff.mp hempty]
        rfl
      rw [if_pos hempty, hnone]
    · have hhash : (trim line).head? = some '#' := by
        simpa [isSilent, hempty] using hsilent
      rw [if_neg hempty, if_pos hhash, declare]
      cases readDeclaration? (trim line) <;> rfl
  | false =>
    have hspoken : ¬ (trim line).isEmpty ∧ ¬ (trim line).head? = some '#' := by
      simpa [isSilent] using hsilent
    rw [if_neg hspoken.1, if_neg hspoken.2, declare_spoken hsilent, isMalformed,
      alone_spoken hsilent, hsilent]
    cases SampleLine.read? (trim line) with
    | none => rfl
    | some e =>
      obtain ⟨l, rest⟩ := e
      by_cases hrest : (trim rest).isEmpty
      · simp [hrest, SampleLine.toSample]
      · simp [hrest]

theorem samples_of_lines (declared : Declarations) (lines : List (List Char)) :
    (ofLines declared lines).samples = (samplesAlone lines).map fun e =>
      { e.2 with kind := kindOf (e.1.foldl declare declared) e.2.name e.2.labels } := by
  induction lines generalizing declared with
  | nil => rfl
  | cons line more ih =>
    rw [of_lines_cons, ih, samples_alone_cons, List.map_append, List.map_map]
    cases sampleAlone? line <;> rfl

theorem skipped_of_lines (declared : Declarations) (lines : List (List Char)) :
    (ofLines declared lines).skipped = lines.countP isMalformed := by
  induction lines generalizing declared with
  | nil => rfl
  | cons line more ih => rw [of_lines_cons, List.countP_cons, ih]

theorem of_lines_malformed (declared : Declarations) (before after : List (List Char))
    (bad : List Char) (h : isMalformed bad = true) :
    ofLines declared (before ++ bad :: after) =
      ⟨(ofLines declared (before ++ after)).samples,
        (ofLines declared (before ++ after)).skipped + 1⟩ := by
  obtain ⟨hspoken, hnone⟩ : isSilent (trim bad) = false ∧ sampleAlone? bad = none := by
    simpa [isMalformed] using h
  induction before generalizing declared with
  | nil =>
    rw [List.nil_append, of_lines_cons, hnone, h, declare_spoken hspoken]
    rfl
  | cons line before ih =>
    rw [List.cons_append, List.cons_append, of_lines_cons, of_lines_cons, ih]
    simp only [Nat.add_right_comm]

/-- A body gives what its lines give one by one: in their order the samples of the lines
that can be read, and the number of the malformed ones, of which none bears on another line. -/
theorem read_line_by_line (text : String) :
    List.Forall₂ (fun e s => ReadAlike e.1 e.2 s) (samplesAlone (splitLines text.toList))
        (read text).samples ∧
      (read text).skipped = (splitLines text.toList).countP isMalformed ∧
      ∀ (before after : List (List Char)) (bad : List Char) (shorter : String),
        splitLines text.toList = before ++ bad :: after → isMalformed bad = true →
        splitLines shorter.toList = before ++ after →
          (read shorter).samples = (read text).samples ∧
            (read shorter).skipped + 1 = (read text).skipped := by
  refine ⟨?_, skipped_of_lines _ _, ?_⟩
  · unfold read
    rw [samples_of_lines, List.forall₂_map_right_iff, List.forall₂_same]
    rintro ⟨before, alone⟩ he
    obtain ⟨e, -, hline⟩ := List.mem_filterMap.mp he
    obtain ⟨s, hs, hpair⟩ := Option.map_eq_some_iff.mp hline
    cases hpair
    refine ⟨rfl, rfl, rfl, rfl, fun hnone => ?_⟩
    have hkind : kindOf (declaredBy e.1) alone.name alone.labels = alone.kind := by
      rw [declared_by_none hnone, alone_kind hs]
    exact hkind
  · intro before after bad shorter htext hbad hshorter
    unfold read
    rw [htext, hshorter, of_lines_malformed _ _ _ _ hbad]
    exact ⟨rfl, rfl⟩

theorem unterminated_quote_left_out :
    splitLines "# TYPE a gauge\na 1\na\x7bu=\"x 2\nb 3".toList =
        ["# TYPE a gauge".toList, "a 1".toList] ++ "a\x7bu=\"x 2".toList :: ["b 3".toList] ∧
      isMalformed "a\x7bu=\"x 2".toList = true ∧
      splitLines "# TYPE a gauge\na 1\nb 3".toList =
        ["# TYPE a gauge".toList, "a 1".toList] ++ ["b 3".toList] ∧
      (read "# TYPE a gauge\na 1\nb 3").samples =
        (read "# TYPE a gauge\na 1\na\x7bu=\"x 2\nb 3").samples ∧
      (read "# TYPE a gauge\na 1\nb 3").skipped + 1 =
        (read "# TYPE a gauge\na 1\na\x7bu=\"x 2\nb 3").skipped := by
  have hbody : splitLines "# TYPE a gauge\na 1\na\x7bu=\"x 2\nb 3".toList =
      ["# TYPE a gauge".toList, "a 1".toList] ++ "a\x7bu=\"x 2".toList :: ["b 3".toList] := by
    decide +kernel
  have hbad : isMalformed "a\x7bu=\"x 2".toList = true := by decide +kernel
  have hshorter : splitLines "# TYPE a gauge\na 1\nb 3".toList =
      ["# TYPE a gauge".toList, "a 1".toList] ++ ["b 3".toList] := by decide +kernel
  obtain ⟨-, -, hleave⟩ := read_line_by_line "# TYPE a gauge\na 1\na\x7bu=\"x 2\nb 3"
  exact ⟨hbody, hbad, hshorter, hleave _ _ _ _ hbody hbad hshorter⟩

end Scrape
end ScrapeTelemetry
