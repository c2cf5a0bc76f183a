import ScrapeTelemetry.Proofs.Exposition.Grammar

/-!
# Which lines are read, and as what

A line gives a sample if it is a sample line of the grammar but for blanks around it, and
gives no sample otherwise. The sample is read off the parts of the line; of a repeated
label the last value counts, and no timestamp is looked at.
-/

set_option autoImplicit false

namespace ScrapeTelemetry

theorem optional_set_of_read (cs : List Char) :
    ∃ t, cs = t ++ ((readLabelSet? cs).getD ([], cs)).2 ∧
      OptionalSet t ((readLabelSet? cs).getD ([], cs)).1 := by
  cases h : readLabelSet? cs with
  | none => exact ⟨[], rfl, .absent⟩
  | some e =>
    obtain ⟨t, ht, hset⟩ := label_set_of_read h
    exact ⟨t, ht, .present hset⟩

theorem no_label_set {cs : List Char} (h : Stops (· = '\x7b') cs) : readLabelSet? cs = none := by
  unfold readLabelSet?
  split
  · simp [Stops] at h
  · rfl

theorem read_optional_set {t r : List Char} {pairs : List LabelPair} (h : OptionalSet t pairs)
    (hr : Stops (· = '\x7b') r) : (readLabelSet? (t ++ r)).getD ([], t ++ r) = (pairs, r) := by
  cases h with
  | absent => rw [List.nil_append, no_label_set hr]; rfl
  | present hset => rw [read_label_set hset]; rfl

theorem optional_set_stops {t r : List Char} {pairs : List LabelPair} (h : OptionalSet t pairs)
    (hr : Stops isNameRest r) : Stops isNameRest (t ++ r) := by
  cases h with
  | absent => exact hr
  | present hset =>
    cases hset
    exact stops_cons (by decide) _

theorem stamp_of_skip (cs : List Char) : ∃ t, StampText t ∧ cs = t ++ skipTimestamp cs := by
  unfold skipTimestamp
  split
  · exact ⟨[], .absent, rfl⟩
  rename_i rest hskip
  obtain ⟨b, hne, hb, rfl, -⟩ := skip_some_iff.mp hskip
  split
  · exact ⟨[], .absent, rfl⟩
  · rename_i hrun
    have hds : ∀ c ∈ rest.takeWhile isTimestampChar, isTimestampChar c = true :=
      fun c hc => List.mem_takeWhile_imp hc
    refine ⟨b ++ rest.takeWhile isTimestampChar, .present hne hb (by simpa using hrun) hds, ?_⟩
    rw [List.append_assoc, List.takeWhile_append_dropWhile]

theorem skip_stamp {t : List Char} (h : StampText t) : skipTimestamp t = [] := by
  cases h with
  | absent => rfl
  | @present b ds hblank hb hne hds =>
    have hstart : Stops isSeparator ds := by
      cases ds with
      | nil => trivial
      | cons c ds => exact outside_separators (by decide) (by decide) c (hds c (by simp))
    have hskip : skipSeparators1? (b ++ ds) = some ds :=
      skip_some_iff.mpr ⟨b, hblank, hb, rfl, hstart⟩
    simp [skipTimestamp, hskip, List.takeWhile_eq_self_iff.mpr hds,
      List.dropWhile_eq_nil_iff.mpr hds, hne]

theorem stamp_stops {t : List Char} (h : StampText t) : Stops (!isBlank ·) t := by
  cases h with
  | absent => trivial
  | present hblank hb _ _ =>
    exact stops_some_separators hblank hb (fun c hc => by simp [blank_of_separator hc]) _

theorem numeral_ne_nil {cs : List Char} {v : Numeral} (h : Numeral.read? cs = some v) :
    cs ≠ [] := by
  rintro rfl
  have hnone : Numeral.read? [] = none := by decide
  rw [hnone] at h
  cases h

theorem line_of_read {cs rest : List Char} {l : SampleLine}
    (h : SampleLine.read? cs = some (l, rest)) : ∃ t, cs = t ++ rest ∧ LineText t l := by
  unfold SampleLine.read? at h
  split at h
  · simp at h
  rename_i name afterName hname
  obtain ⟨set, hset, hlabels⟩ := optional_set_of_read afterName
  simp only at h
  split at h
  · simp at h
  rename_i atValue hblanks
  obtain ⟨v, hread, he⟩ := Option.map_eq_some_iff.mp h
  cases he
  obtain ⟨hcs, hword, -⟩ := read_word_iff.mp hname
  obtain ⟨b, hne, hb, hafter, -⟩ := skip_some_iff.mp hblanks
  obtain ⟨stamp, hstamp, hrest⟩ := stamp_of_skip (atValue.dropWhile (!isBlank ·))
  have hvalue : ∀ c ∈ atValue.takeWhile (!isBlank ·), isBlank c = false :=
    fun c hc => by simpa using List.mem_takeWhile_imp hc
  have hsplit : atValue = atValue.takeWhile (!isBlank ·) ++ atValue.dropWhile (!isBlank ·) :=
    List.takeWhile_append_dropWhile.symm
  refine ⟨_, ?_, .intro hword hlabels hne hb hvalue hread hstamp⟩
  conv_lhs => rw [hcs, hset, hafter, hsplit, hrest]
  simp

theorem read_line {t : List Char} {l : SampleLine} (h : LineText t l) :
    SampleLine.read? t = some (l, []) := by
  obtain ⟨hname, hset, hblank, hb, hvalue, hread, hstamp⟩ := h
  rename_i name set b value stamp labels v
  -- the blanks before the value stop the name and an absent label set
  have hafter {p : Char → Bool} (hspace : p ' ' = false) (htab : p '\t' = false) :
      Stops p (b ++ (value ++ stamp)) :=
    stops_some_separators hblank hb (separator_outside hspace htab) _
  have hword : readMetricName? (name ++ (set ++ (b ++ (value ++ stamp)))) =
      some (name, set ++ (b ++ (value ++ stamp))) :=
    read_word_iff.mpr ⟨rfl, hname, optional_set_stops hset (hafter (by decide) (by decide))⟩
  have hlabels := read_optional_set hset (hafter (p := (· = '\x7b')) (by decide) (by decide))
  have hstart : Stops isSeparator (value ++ stamp) := by
    cases value with
    | nil => exact absurd rfl (numeral_ne_nil hread)
    | cons c value =>
      cases hs : isSeparator c with
      | false => exact hs
      | true => simpa [blank_of_separator hs] using hvalue c (by simp)
  have hskip : skipSeparators1? (b ++ (value ++ stamp)) = some (value ++ stamp) :=
    skip_some_iff.mpr ⟨b, hblank, hb, rfl, hstart⟩
  have hrun : ∀ c ∈ value, (!isBlank c) = true := fun c hc => by simp [hvalue c hc]
  simp only [SampleLine.read?, hword, hlabels, hskip, take_while_run hrun (stamp_stops hstamp),
    drop_while_run hrun (stamp_stops hstamp), hread, skip_stamp hstamp, Option.map_some]

theorem line_not_silent {t : List Char} {l : SampleLine} (h : LineText t l) :
    isSilent t = false := by
  obtain ⟨hname, -, -, -, -, -, -⟩ := h
  rename_i name _ _ _ _ _ _
  cases name with
  | nil => exact hname.elim
  | cons c name =>
    have hhash : c ≠ '#' := by
      rintro rfl
      exact absurd hname.1 (by decide)
    simp [isSilent, hhash]

theorem read_sample_iff (text : String) (s : Sample Float) :
    readSample text = .ok s ↔
      ∃ l, LineText (trim text.toList) l ∧ s = l.toSample .empty := by
  constructor
  · intro h
    simp only [readSample] at h
    split at h
    · cases h
    split at h
    · cases h
    rename_i l rest hread
    split at h
    · rename_i hrest
      cases h
      obtain ⟨t, ht, hline⟩ := line_of_read hread
      -- the line is trimmed, so blanks behind the sample cannot be left
      have hnil : rest = [] := trim_end ht (trim_eq_nil.mp (by simpa using hrest))
      rw [hnil, List.append_nil] at ht
      exact ⟨l, ht ▸ hline, rfl⟩
    · cases h
  · rintro ⟨l, hline, rfl⟩
    have hnil : trim [] = [] := rfl
    simp [readSample, line_not_silent hline, read_line hline, hnil]

namespace SampleLine

def lastValue? (l : SampleLine) (label : String) : Option String :=
  (l.labels.map fun p => (String.ofList p.1, String.ofList p.2)).reverse.lookup label

structure Denotes (l : SampleLine) (s : Sample Float) : Prop where
  name : s.name = String.ofList l.name
  kind : s.kind = kindOf .empty s.name s.labels
  labels : ∀ label, s.labels.find? label = l.lastValue? label
  value : s.value = l.value.toFloat

theorem find_label (l : SampleLine) (label : String) :
    l.labelMap.find? label = l.lastValue? label :=
  KeyMap.find?_ofList _ _

theorem denotes_iff (l : SampleLine) (s : Sample Float) :
    l.Denotes s ↔ s = l.toSample .empty := by
  constructor
  · rintro ⟨hname, hkind, hlabels, hvalue⟩
    have hmap : s.labels = l.labelMap :=
      KeyMap.eq_of_find _ _ fun label => (hlabels label).trans (find_label l label).symm
    cases s
    simp_all [toSample]
  · rintro rfl
    exact ⟨rfl, rfl, find_label l, rfl⟩

end SampleLine

/-- The reader of lines accepts its grammar and nothing else, and what it returns is the
reading of the parts that the line is put together from. -/
theorem read_exactly_lines (text : String) (s : Sample Float) :
    readSample text = .ok s ↔ ∃ l, LineText (trim text.toList) l ∧ l.Denotes s := by
  rw [read_sample_iff]
  constructor
  · rintro ⟨l, hline, hs⟩
    exact ⟨l, hline, (l.denotes_iff s).mpr hs⟩
  · rintro ⟨l, hline, hs⟩
    exact ⟨l, hline, (l.denotes_iff s).mp hs⟩

end ScrapeTelemetry
