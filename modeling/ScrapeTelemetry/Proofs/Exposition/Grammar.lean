import ScrapeTelemetry.Exposition.Scrape
import ScrapeTelemetry.Proofs.KeyMap.Order
import ScrapeTelemetry.Proofs.Text.Runs

/-!
# The grammar of sample lines

The texts of a sample line and of its parts, given by how they are put together. The
reader takes these texts and no others: a label set or a timestamp that it gives up on
leaves a text behind that stops it.
-/

set_option autoImplicit false

namespace ScrapeTelemetry

def IsWord (start more : Char → Bool) : List Char → Prop
  | [] => False
  | c :: cs => start c = true ∧ ∀ d ∈ cs, more d = true

instance (start more : Char → Bool) : (w : List Char) → Decidable (IsWord start more w)
  | [] => inferInstanceAs (Decidable False)
  -- by the list, not by all the characters that there are
  | c :: cs => decidable_of_iff (start c = true ∧ cs.all more = true)
      (and_congr_right' List.all_eq_true)

abbrev IsMetricName : List Char → Prop := IsWord isNameStart isNameRest

abbrev IsLabelName : List Char → Prop := IsWord isLabelStart isLabelRest

inductive Escaped : List Char → List Char → Prop
  | done : Escaped [] []
  | plain {c : Char} {t v : List Char} (hbackslash : c ≠ '\\') (hquote : c ≠ '"')
      (rest : Escaped t v) : Escaped (c :: t) (c :: v)
  | backslash {t v : List Char} (rest : Escaped t v) : Escaped ('\\' :: '\\' :: t) ('\\' :: v)
  | quote {t v : List Char} (rest : Escaped t v) : Escaped ('\\' :: '"' :: t) ('"' :: v)
  | lineFeed {t v : List Char} (rest : Escaped t v) : Escaped ('\\' :: 'n' :: t) ('\n' :: v)

inductive PairText : List Char → LabelPair → Prop
  | intro {b name b' b'' t v : List Char} (hb : Separators b) (hname : IsLabelName name)
      (hb' : Separators b') (hb'' : Separators b'') (hvalue : Escaped t v) :
      PairText (b ++ (name ++ (b' ++ '=' :: (b'' ++ '"' :: (t ++ ['"']))))) (name, v)

inductive SetEnd : List Char → Prop
  | blanks {b : List Char} (hb : Separators b) : SetEnd b
  | comma {b b' : List Char} (hb : Separators b) (hb' : Separators b') :
      SetEnd (b ++ ',' :: b')

inductive LabelSetText : List Char → List LabelPair → Prop
  | intro {texts : List (List Char)} {pairs : List LabelPair} {e : List Char}
      (hpairs : List.Forall₂ PairText texts pairs) (hend : SetEnd e) :
      LabelSetText ('\x7b' :: ([','].intercalate texts ++ (e ++ ['\x7d']))) pairs

inductive OptionalSet : List Char → List LabelPair → Prop
  | absent : OptionalSet [] []
  | present {t : List Char} {pairs : List LabelPair} (h : LabelSetText t pairs) :
      OptionalSet t pairs

inductive StampText : List Char → Prop
  | absent : StampText []
  | present {b ds : List Char} (hblank : b ≠ []) (hb : Separators b) (hne : ds ≠ [])
      (hds : ∀ c ∈ ds, isTimestampChar c = true) : StampText (b ++ ds)

/-- The whole line: nothing but a timestamp may follow the value, so the value ends where
the line ends or at a blank. -/
inductive LineText : List Char → SampleLine → Prop
  | intro {name set b value stamp : List Char} {labels : List LabelPair} {v : Numeral}
      (hname : IsMetricName name) (hset : OptionalSet set labels) (hblank : b ≠ [])
      (hb : Separators b) (hvalue : ∀ c ∈ value, isBlank c = false)
      (hread : Numeral.read? value = some v) (hstamp : StampText stamp) :
      LineText (name ++ (set ++ (b ++ (value ++ stamp)))) ⟨name, labels, v⟩

theorem read_word_iff {start more : Char → Bool} {cs w r : List Char} :
    readWord? start more cs = some (w, r) ↔
      cs = w ++ r ∧ IsWord start more w ∧ Stops more r := by
  constructor
  · intro h
    cases cs with
    | nil => simp [readWord?] at h
    | cons c cs =>
      by_cases hc : start c
      · simp only [readWord?, hc, if_true, Option.some.injEq, Prod.mk.injEq] at h
        obtain ⟨rfl, rfl⟩ := h
        have hword : IsWord start more (c :: cs.takeWhile more) :=
          ⟨hc, fun d hd => List.mem_takeWhile_imp hd⟩
        exact ⟨by simp, hword, stops_drop_while more cs⟩
      · simp [readWord?, hc] at h
  · rintro ⟨rfl, hw, hr⟩
    cases w with
    | nil => exact hw.elim
    | cons c w => simp [readWord?, hw.1, take_while_run hw.2 hr, drop_while_run hw.2 hr]

theorem no_word {start more : Char → Bool} {cs : List Char} (h : Stops start cs) :
    readWord? start more cs = none := by
  cases cs with
  | nil => rfl
  | cons c cs => simp [readWord?, show start c = false from h]

theorem word_stops {start more p : Char → Bool} {w r : List Char} (hw : IsWord start more w)
    (hp : ∀ c, start c = true → p c = false) : Stops p (w ++ r) := by
  cases w with
  | nil => exact hw.elim
  | cons c w => exact hp c hw.1

/-- A space or a tab belongs to no class of characters that has neither. -/
theorem separator_outside {p : Char → Bool} (hspace : p ' ' = false) (htab : p '\t' = false)
    (c : Char) (hc : isSeparator c = true) : p c = false := by
  simp only [isSeparator, Bool.or_eq_true, decide_eq_true_eq] at hc
  rcases hc with rfl | rfl
  · exact hspace
  · exact htab

theorem outside_separators {p : Char → Bool} (hspace : p ' ' = false) (htab : p '\t' = false)
    (c : Char) (hc : p c = true) : isSeparator c = false := by
  cases hs : isSeparator c with
  | false => rfl
  | true => rw [separator_outside hspace htab c hs] at hc; exact hc.symm

theorem read_escaped {t v : List Char} (h : Escaped t v) (r : List Char) :
    readQuoted? (t ++ '"' :: r) = some (v, r) := by
  induction h with
  | done => rfl
  | plain hbackslash hquote _ ih => simp [readQuoted?, hbackslash, ih]
  | backslash _ ih => simp [readQuoted?, ih]
  | quote _ ih => simp [readQuoted?, ih]
  | lineFeed _ ih => simp [readQuoted?, ih]

theorem read_after {c : Char} {rest v r : List Char}
    (h : ((readQuoted? rest).map fun (v, r) => (c :: v, r)) = some (v, r)) :
    ∃ v', v = c :: v' ∧ readQuoted? rest = some (v', r) := by
  obtain ⟨⟨v', r'⟩, hread, he⟩ := Option.map_eq_some_iff.mp h
  cases he
  exact ⟨v', rfl, hread⟩

theorem escaped_of_read {cs v r : List Char} (h : readQuoted? cs = some (v, r)) :
    ∃ t, cs = t ++ '"' :: r ∧ Escaped t v := by
  fun_induction readQuoted? cs generalizing v r with
  | case1 => simp at h
  | case2 rest =>
    cases h
    exact ⟨[], rfl, .done⟩
  | case3 rest ih =>
    obtain ⟨v', rfl, hread⟩ := read_after h
    obtain ⟨t, rfl, ht⟩ := ih hread
    exact ⟨_, rfl, .backslash ht⟩
  | case4 rest ih =>
    obtain ⟨v', rfl, hread⟩ := read_after h
    obtain ⟨t, rfl, ht⟩ := ih hread
    exact ⟨_, rfl, .quote ht⟩
  | case5 rest ih =>
    obtain ⟨v', rfl, hread⟩ := read_after h
    obtain ⟨t, rfl, ht⟩ := ih hread
    exact ⟨_, rfl, .lineFeed ht⟩
  | case6 => simp at h
  | case7 c rest hquote _ _ _ hbackslash ih =>
    obtain ⟨v', rfl, hread⟩ := read_after h
    obtain ⟨t, rfl, ht⟩ := ih hread
    exact ⟨_, rfl, .plain hbackslash hquote ht⟩

theorem read_pair {t : List Char} {p : LabelPair} (h : PairText t p) (r : List Char) :
    readLabelPair? (t ++ r) = some (p, r) := by
  obtain ⟨hb, hname, hb', hb'', hvalue⟩ := h
  rename_i b name b' b'' t v
  have hstart : Stops isSeparator (name ++ (b' ++ '=' :: (b'' ++ '"' :: (t ++ '"' :: r)))) :=
    word_stops hname (outside_separators (by decide) (by decide))
  have hword : readLabelName? (name ++ (b' ++ '=' :: (b'' ++ '"' :: (t ++ '"' :: r)))) =
      some (name, b' ++ '=' :: (b'' ++ '"' :: (t ++ '"' :: r))) :=
    read_word_iff.mpr ⟨rfl, hname,
      stops_separators hb' (separator_outside (by decide) (by decide))
        (stops_cons (by decide) _)⟩
  have hequals : skipSeparators (b' ++ '=' :: (b'' ++ '"' :: (t ++ '"' :: r))) =
      '=' :: (b'' ++ '"' :: (t ++ '"' :: r)) :=
    skip_separators hb' (stops_cons (by decide) _)
  have hquote : skipSeparators (b'' ++ '"' :: (t ++ '"' :: r)) = '"' :: (t ++ '"' :: r) :=
    skip_separators hb'' (stops_cons (by decide) _)
  simp only [List.append_assoc, List.cons_append, List.nil_append]
  simp [readLabelPair?, skip_separators hb hstart, hword, hequals, hquote, read_escaped hvalue]

theorem pair_of_read {cs r : List Char} {p : LabelPair} (h : readLabelPair? cs = some (p, r)) :
    ∃ t, cs = t ++ r ∧ PairText t p := by
  unfold readLabelPair? at h
  split at h
  · simp at h
  rename_i name afterName hname
  split at h
  case h_2 => simp at h
  rename_i afterEquals hequals
  split at h
  case h_2 => simp at h
  rename_i quoted hquote
  obtain ⟨⟨v, r'⟩, hread, he⟩ := Option.map_eq_some_iff.mp h
  cases he
  obtain ⟨t, rfl, hvalue⟩ := escaped_of_read hread
  obtain ⟨hcs, hword, -⟩ := read_word_iff.mp hname
  obtain ⟨b, hb, hskip⟩ := separators_before cs
  obtain ⟨b', hb', hskip'⟩ := separators_before afterName
  obtain ⟨b'', hb'', hskip''⟩ := separators_before afterEquals
  refine ⟨_, ?_, .intro hb hword hb' hb'' hvalue⟩
  rw [hskip, hcs, hskip', hequals, hskip'', hquote]
  simp

theorem join_with_commas (t : List Char) (texts : List (List Char)) :
    [','].intercalate (t :: texts) = t ++ texts.flatMap fun u => ',' :: u := by
  induction texts generalizing t with
  | nil => simp
  | cons u texts ih => rw [List.intercalate_cons_cons, ih]; simp

theorem no_pair_at_end {e : List Char} (he : SetEnd e) (r : List Char) :
    readLabelPair? (e ++ '\x7d' :: r) = none := by
  have hnone (b : List Char) (c : Char) (rest : List Char) (hb : Separators b)
      (hc : isSeparator c = false) (hstart : isLabelStart c = false) :
      readLabelPair? (b ++ c :: rest) = none := by
    have hword : readLabelName? (c :: rest) = none := no_word hstart
    simp [readLabelPair?, skip_separators hb (stops_cons hc rest), hword]
  cases he with
  | blanks hb => exact hnone _ _ _ hb (by decide) (by decide)
  | comma hb hb' =>
    rw [List.append_assoc]
    exact hnone _ _ _ hb (by decide) (by decide)

theorem no_more_pairs {cs : List Char} (h : Stops (· = ',') cs) : readMorePairs cs = ([], cs) := by
  unfold readMorePairs
  split
  · simp [Stops] at h
  · rfl

theorem more_pairs_at_end {e : List Char} (he : SetEnd e) (r : List Char) :
    readMorePairs (e ++ '\x7d' :: r) = ([], e ++ '\x7d' :: r) := by
  have hcomma : ∀ c, isSeparator c = true → decide (c = ',') = false :=
    separator_outside (by decide) (by decide)
  cases he with
  | blanks hb => exact no_more_pairs (stops_separators hb hcomma (stops_cons (by decide) r))
  | @comma b b' hb hb' =>
    cases b with
    | nil =>
      have hnone := no_pair_at_end (.blanks hb') r
      rw [List.nil_append, List.cons_append, readMorePairs]
      split
      · rfl
      · rename_i heq
        simp [hnone] at heq
    | cons c b =>
      rw [List.append_assoc]
      exact no_more_pairs (stops_some_separators (by simp) hb hcomma _)

theorem read_more_pairs {texts : List (List Char)} {pairs : List LabelPair}
    (h : List.Forall₂ PairText texts pairs) {r : List Char} (hr : readMorePairs r = ([], r)) :
    readMorePairs ((texts.flatMap fun u => ',' :: u) ++ r) = (pairs, r) := by
  induction h with
  | nil => exact hr
  | @cons t p texts pairs ht _ ih =>
    have hpair := read_pair ht ((texts.flatMap fun u => ',' :: u) ++ r)
    simp only [List.flatMap_cons, List.cons_append, List.append_assoc]
    rw [readMorePairs]
    split
    · rename_i heq
      simp [hpair] at heq
    · rename_i heq
      rw [hpair] at heq
      cases heq
      rw [ih]

theorem more_pairs_of_read (cs : List Char) :
    ∃ texts, List.Forall₂ PairText texts (readMorePairs cs).1 ∧
      cs = (texts.flatMap fun u => ',' :: u) ++ (readMorePairs cs).2 := by
  fun_induction readMorePairs cs with
  | case1 rest h => exact ⟨[], .nil, rfl⟩
  | case2 rest p r h _ ps r' hmore ih =>
    obtain ⟨texts, htexts, hr⟩ := ih
    obtain ⟨t, rfl, ht⟩ := pair_of_read h
    rw [hmore] at htexts hr
    refine ⟨t :: texts, .cons ht htexts, ?_⟩
    rw [hr]
    simp
  | case3 cs h => exact ⟨[], .nil, rfl⟩

theorem read_pairs {texts : List (List Char)} {pairs : List LabelPair} {e : List Char}
    (h : List.Forall₂ PairText texts pairs) (he : SetEnd e) (r : List Char) :
    readPairs ([','].intercalate texts ++ (e ++ '\x7d' :: r)) = (pairs, e ++ '\x7d' :: r) := by
  cases h with
  | nil => simp [readPairs, no_pair_at_end he]
  | cons ht hmore =>
    rw [join_with_commas, List.append_assoc, readPairs, read_pair ht]
    simp [read_more_pairs hmore (more_pairs_at_end he r)]

theorem pairs_of_read (cs : List Char) :
    ∃ texts, List.Forall₂ PairText texts (readPairs cs).1 ∧
      cs = [','].intercalate texts ++ (readPairs cs).2 := by
  unfold readPairs
  split
  · exact ⟨[], .nil, rfl⟩
  · rename_i p r h
    obtain ⟨t, rfl, ht⟩ := pair_of_read h
    obtain ⟨texts, htexts, hr⟩ := more_pairs_of_read r
    refine ⟨t :: texts, .cons ht htexts, ?_⟩
    rw [join_with_commas, List.append_assoc, ← hr]

theorem read_label_set {t : List Char} {pairs : List LabelPair} (h : LabelSetText t pairs)
    (r : List Char) : readLabelSet? (t ++ r) = some (pairs, r) := by
  obtain ⟨hpairs, he⟩ := h
  have hread := read_pairs hpairs he r
  simp only [List.cons_append, List.append_assoc, List.nil_append]
  rw [readLabelSet?, hread]
  have hbrace {b : List Char} (hb : Separators b) :
      skipSeparators (b ++ '\x7d' :: r) = '\x7d' :: r :=
    skip_separators hb (stops_cons (by decide) r)
  cases he with
  | blanks hb => simp [hbrace hb]
  | @comma b b' hb hb' =>
    have hcomma : skipSeparators (b ++ ',' :: (b' ++ '\x7d' :: r)) = ',' :: (b' ++ '\x7d' :: r) :=
      skip_separators hb (stops_cons (by decide) _)
    simp [hcomma, hbrace hb']

theorem label_set_of_read {cs r : List Char} {pairs : List LabelPair}
    (h : readLabelSet? cs = some (pairs, r)) : ∃ t, cs = t ++ r ∧ LabelSetText t pairs := by
  unfold readLabelSet? at h
  split at h
  case h_2 => simp at h
  rename_i cs
  obtain ⟨texts, htexts, hcs⟩ := pairs_of_read cs
  obtain ⟨b, hb, hskip⟩ := separators_before (readPairs cs).2
  simp only at h
  split at h
  case h_2 => simp at h
  rename_i r' hbrace
  cases h
  split at hbrace
  · rename_i afterComma hcomma
    obtain ⟨b', hb', hskip'⟩ := separators_before afterComma
    refine ⟨_, ?_, .intro htexts (.comma hb hb')⟩
    conv_lhs => rw [hcs, hskip, hcomma, hskip', hbrace]
    simp
  · refine ⟨_, ?_, .intro htexts (.blanks hb)⟩
    conv_lhs => rw [hcs, hskip, hbrace]
    simp

end ScrapeTelemetry
