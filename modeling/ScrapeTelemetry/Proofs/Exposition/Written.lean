import ScrapeTelemetry.Proofs.Exposition.Reading

/-!
# Written lines read back

A sample line in the form that exporters write: no blanks inside the label set, one space
before the value and before the timestamp, and in a label value the three escapes and no
others. Reading such a line gives back what was written.
-/

set_option autoImplicit false

namespace ScrapeTelemetry

def escapeChar (c : Char) : List Char :=
  if c = '\\' then ['\\', '\\']
  else if c = '"' then ['\\', '"']
  else if c = '\n' then ['\\', 'n']
  else [c]

def escapeValue (value : String) : String := String.ofList (value.toList.flatMap escapeChar)

def labelText (p : String × String) : String := p.1 ++ "=\"" ++ escapeValue p.2 ++ "\""

def labelSetText (labels : List (String × String)) : String :=
  "\x7b" ++ ",".intercalate (labels.map labelText) ++ "\x7d"

def stampText : Option String → String
  | none => ""
  | some digits => " " ++ digits

def lineText (name : String) (labels : List (String × String)) (value : String)
    (stamp : Option String) : String :=
  name ++ labelSetText labels ++ " " ++ value ++ stampText stamp

theorem space_separators : Separators [' '] := by
  simp [Separators, isSeparator]

theorem escaped_value (v : List Char) : Escaped (v.flatMap escapeChar) v := by
  induction v with
  | nil => exact .done
  | cons c v ih =>
    rw [List.flatMap_cons]
    by_cases hbackslash : c = '\\'
    · subst hbackslash
      exact .backslash ih
    by_cases hquote : c = '"'
    · subst hquote
      exact .quote ih
    by_cases hfeed : c = '\n'
    · subst hfeed
      exact .lineFeed ih
    · simpa [escapeChar, hbackslash, hquote, hfeed] using Escaped.plain hbackslash hquote ih

theorem pair_text {p : String × String} (h : IsLabelName p.1.toList) :
    PairText (labelText p).toList (p.1.toList, p.2.toList) := by
  have hnone : Separators [] := by simp [Separators]
  have hpair := PairText.intro hnone h hnone hnone (escaped_value p.2.toList)
  simpa [labelText, escapeValue] using hpair

theorem label_set_text {labels : List (String × String)}
    (h : ∀ p ∈ labels, IsLabelName p.1.toList) :
    LabelSetText (labelSetText labels).toList
      (labels.map fun p => (p.1.toList, p.2.toList)) := by
  have hpairs : List.Forall₂ PairText (labels.map fun p => (labelText p).toList)
      (labels.map fun p => (p.1.toList, p.2.toList)) := by
    induction labels with
    | nil => exact .nil
    | cons p labels ih =>
      exact .cons (pair_text (h p (by simp))) (ih fun q hq => h q (List.mem_cons_of_mem p hq))
  have hset := LabelSetText.intro hpairs (.blanks (b := []) (by simp [Separators]))
  have hopen : "\x7b".toList = ['\x7b'] := by decide
  have hclose : "\x7d".toList = ['\x7d'] := by decide
  have hcomma : ",".toList = [','] := by decide
  simpa [labelSetText, hopen, hclose, String.toList_intercalate, hcomma, Function.comp_def]
    using hset

theorem graphic_not_blank {c : Char} (hlow : 0x20 < c.toNat) (hhigh : c.toNat < 0x7F) :
    isBlank c = false := by
  simp only [isBlank, Bool.or_eq_false_iff, Bool.and_eq_false_iff, decide_eq_false_iff_not]
  omega

theorem name_start_not_blank {c : Char} (h : isNameStart c = true) : isBlank c = false := by
  have hval : c.toNat = c.val.toNat := rfl
  simp only [isNameStart, Char.isAlpha, Char.isUpper, Char.isLower, Bool.or_eq_true,
    Bool.and_eq_true, decide_eq_true_eq, UInt32.le_iff_toNat_le, ge_iff_le] at h
  rcases h with (h | rfl) | rfl
  · have hletter : (65 ≤ c.val.toNat ∧ c.val.toNat ≤ 90) ∨
        (97 ≤ c.val.toNat ∧ c.val.toNat ≤ 122) := by simpa using h
    apply graphic_not_blank <;> omega
  · decide
  · decide

theorem stamp_char_not_blank {c : Char} (h : isTimestampChar c = true) : isBlank c = false := by
  have hval : c.toNat = c.val.toNat := rfl
  simp only [isTimestampChar, Char.isDigit, Bool.or_eq_true, Bool.and_eq_true,
    decide_eq_true_eq, UInt32.le_iff_toNat_le, ge_iff_le] at h
  rcases h with h | rfl
  · have hdigit : 48 ≤ c.val.toNat ∧ c.val.toNat ≤ 57 := by simpa using h
    apply graphic_not_blank <;> omega
  · decide

/-- Trimming leaves a line and its timestamp; a timestamp without digits is a blank. -/
theorem trim_stamped {t value : List Char} {stamp : Option String}
    (hstart : Stops isBlank (t ++ value)) (hne : value ≠ [])
    (hvalue : ∀ c ∈ value, isBlank c = false)
    (hstamp : ∀ digits ∈ stamp, ∀ c ∈ digits.toList, isTimestampChar c = true) :
    ∃ s, StampText s ∧
      trim (t ++ (value ++ (stampText stamp).toList)) = t ++ (value ++ s) := by
  have hbare (b : List Char) (hb : ∀ c ∈ b, isBlank c = true) :
      trim (t ++ (value ++ b)) = t ++ (value ++ []) := by
    rw [trim_after_word hstart hne hvalue hb, List.append_nil]
  have hspace : " ".toList = [' '] := by decide
  cases stamp with
  | none => exact ⟨[], .absent, hbare [] (by simp)⟩
  | some digits =>
    have hdigits := hstamp digits rfl
    rw [stampText, String.toList_append, hspace]
    by_cases hempty : digits.toList = []
    · rw [hempty]
      exact ⟨[], .absent, hbare [' '] fun c hc => blank_of_separator (space_separators c hc)⟩
    · have hword := trim_after_word (t := t ++ (value ++ [' '])) (b := [])
        (by rw [← List.append_assoc t, List.append_assoc]
            exact stops_append hstart (by simp [hne]) _)
        hempty (fun c hc => stamp_char_not_blank (hdigits c hc)) (by simp)
      refine ⟨[' '] ++ digits.toList, .present (by simp) space_separators hempty hdigits, ?_⟩
      simpa using hword

theorem line_text {name : String} {labels : List (String × String)} {value : String}
    {v : Numeral} (hname : IsMetricName name.toList)
    (hlabels : ∀ p ∈ labels, IsLabelName p.1.toList)
    (hblank : ∀ c ∈ value.toList, isBlank c = false)
    (hvalue : Numeral.read? value.toList = some v) {stamp : Option String}
    (hstamp : ∀ digits ∈ stamp, ∀ c ∈ digits.toList, isTimestampChar c = true) :
    LineText (trim (lineText name labels value stamp).toList)
      ⟨name.toList, labels.map fun p => (p.1.toList, p.2.toList), v⟩ := by
  have hset := OptionalSet.present (label_set_text hlabels)
  have hstart : Stops isBlank
      (name.toList ++ ((labelSetText labels).toList ++ [' ']) ++ value.toList) := by
    rw [List.append_assoc]
    exact word_stops hname fun _ => name_start_not_blank
  obtain ⟨s, hs, htrim⟩ := trim_stamped hstart (numeral_ne_nil hvalue) hblank hstamp
  have hspace : " ".toList = [' '] := by decide
  have htext : (lineText name labels value stamp).toList =
      name.toList ++ ((labelSetText labels).toList ++ [' ']) ++
        (value.toList ++ (stampText stamp).toList) := by
    simp [lineText, hspace]
  rw [htext, htrim]
  simpa using LineText.intro hname hset (b := [' ']) (by simp) space_separators hblank hvalue hs

/-- A written line reads back as its name, the last value of each label and its number,
whatever characters the label values have and whatever timestamp follows. -/
theorem written_line_reads_back (name : String) (labels : List (String × String))
    (value : String) (v : Numeral) (hname : IsMetricName name.toList)
    (hlabels : ∀ p ∈ labels, IsLabelName p.1.toList)
    (hblank : ∀ c ∈ value.toList, isBlank c = false)
    (hvalue : Numeral.read? value.toList = some v) :
    ∃ s : Sample Float,
      (∀ stamp : Option String,
        (∀ digits ∈ stamp, ∀ c ∈ digits.toList, isTimestampChar c = true) →
          readSample (lineText name labels value stamp) = .ok s) ∧
      s.name = name ∧ (∀ label, s.labels.find? label = labels.reverse.lookup label) ∧
      s.value = v.toFloat := by
  refine ⟨SampleLine.toSample .empty
    ⟨name.toList, labels.map fun p => (p.1.toList, p.2.toList), v⟩, ?_, ?_, ?_, rfl⟩
  · intro stamp hstamp
    exact (read_sample_iff _ _).mpr ⟨_, line_text hname hlabels hblank hvalue hstamp, rfl⟩
  · exact String.ofList_toList
  · intro label
    refine (SampleLine.find_label _ label).trans ?_
    simp [SampleLine.lastValue?, Function.comp_def]

def escapedLabels : List (String × String) :=
  [("note", "old"), ("path", "/a b\\"), ("note", "\"x\",\n\x7b\\\x7d"), ("_", "")]

theorem escaped_labels_read_back :
    IsMetricName "a:b".toList ∧ (∀ p ∈ escapedLabels, IsLabelName p.1.toList) ∧
      (∀ c ∈ "4.2e1".toList, isBlank c = false) ∧
      Numeral.read? "4.2e1".toList = some (.finite ⟨false, 42, 0⟩) ∧
      ∃ s : Sample Float,
        readSample (lineText "a:b" escapedLabels "4.2e1" none) = .ok s ∧
        readSample (lineText "a:b" escapedLabels "4.2e1" (some "-17")) = .ok s ∧
        s.labels.find? "note" = some "\"x\",\n\x7b\\\x7d" ∧
        s.value = (Numeral.finite ⟨false, 42, 0⟩).toFloat := by
  have hname : IsMetricName "a:b".toList := by decide +kernel
  have hlabels : ∀ p ∈ escapedLabels, IsLabelName p.1.toList := by decide +kernel
  have hblank : ∀ c ∈ "4.2e1".toList, isBlank c = false := by simp [isBlank]
  have hvalue : Numeral.read? "4.2e1".toList = some (.finite ⟨false, 42, 0⟩) := by decide +kernel
  obtain ⟨s, hread, -, hfind, hs⟩ :=
    written_line_reads_back "a:b" escapedLabels "4.2e1" _ hname hlabels hblank hvalue
  exact ⟨hname, hlabels, hblank, hvalue, s, hread none (by simp),
    hread (some "-17") (by simp [isTimestampChar]), (hfind "note").trans (by decide +kernel), hs⟩

end ScrapeTelemetry
