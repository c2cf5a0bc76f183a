import ScrapeTelemetry.Number.Decimal
import ScrapeTelemetry.Text.Blank

/-!
# Sample lines

A sample line is a metric name, an optional label set, a value and an optional
timestamp. Readers take a text and return what they read with the rest; none of
them looks at what stands after a line.
-/

set_option autoImplicit false

namespace ScrapeTelemetry

def isNameStart (c : Char) : Bool := c.isAlpha || c = '_' || c = ':'

def isNameRest (c : Char) : Bool := c.isAlphanum || c = '_' || c = ':'

def isLabelStart (c : Char) : Bool := c.isAlpha || c = '_'

def isLabelRest (c : Char) : Bool := c.isAlphanum || c = '_'

def readWord? (start more : Char → Bool) : List Char → Option (List Char × List Char)
  | [] => none
  | c :: cs => if start c then some (c :: cs.takeWhile more, cs.dropWhile more) else none

def readMetricName? : List Char → Option (List Char × List Char) :=
  readWord? isNameStart isNameRest

def readLabelName? : List Char → Option (List Char × List Char) :=
  readWord? isLabelStart isLabelRest

def readQuoted? : List Char → Option (List Char × List Char)
  | [] => none
  | '"' :: rest => some ([], rest)
  | '\\' :: '\\' :: rest => (readQuoted? rest).map fun (v, r) => ('\\' :: v, r)
  | '\\' :: '"' :: rest => (readQuoted? rest).map fun (v, r) => ('"' :: v, r)
  | '\\' :: 'n' :: rest => (readQuoted? rest).map fun (v, r) => ('\n' :: v, r)
  | '\\' :: _ => none
  | c :: rest => (readQuoted? rest).map fun (v, r) => (c :: v, r)

abbrev LabelPair := List Char × List Char

def readLabelPair? (cs : List Char) : Option (LabelPair × List Char) :=
  match readLabelName? (skipSeparators cs) with
  | none => none
  | some (name, rest) =>
    match skipSeparators rest with
    | '=' :: rest =>
      match skipSeparators rest with
      | '"' :: rest => (readQuoted? rest).map fun (v, r) => ((name, v), r)
      | _ => none
    | _ => none

theorem length_skipSeparators_le (cs : List Char) :
    (skipSeparators cs).length ≤ cs.length :=
  (List.dropWhile_sublist isSeparator).length_le

theorem length_lt_of_readWord? {start more : Char → Bool} {cs w r : List Char}
    (h : readWord? start more cs = some (w, r)) : r.length < cs.length := by
  cases cs with
  | nil => simp [readWord?] at h
  | cons c cs =>
    simp only [readWord?] at h
    split at h
    · simp only [Option.some.injEq, Prod.mk.injEq] at h
      have := (List.dropWhile_sublist more (l := cs)).length_le
      simp [← h.2]
      omega
    · simp at h

theorem length_lt_of_readQuoted? {cs v r : List Char}
    (h : readQuoted? cs = some (v, r)) : r.length < cs.length := by
  fun_induction readQuoted? cs generalizing v r with
  | case1 => simp at h
  | case2 rest =>
    simp only [Option.some.injEq, Prod.mk.injEq] at h
    simp [← h.2]
  | case6 => simp at h
  | case3 _ ih | case4 _ ih | case5 _ ih | case7 _ _ _ _ _ _ _ ih =>
    obtain ⟨⟨v', r'⟩, hq, he⟩ := Option.map_eq_some_iff.1 h
    simp only [Prod.mk.injEq] at he
    have := ih hq
    simp [← he.2]
    omega

theorem length_lt_of_readLabelPair? {cs r : List Char} {p : LabelPair}
    (h : readLabelPair? cs = some (p, r)) : r.length < cs.length := by
  unfold readLabelPair? at h
  split at h
  · simp at h
  · rename_i name rest hname
    have h1 := length_lt_of_readWord? hname
    have h2 := length_skipSeparators_le cs
    split at h
    · rename_i rest' heq
      have h3 := length_skipSeparators_le rest
      rw [heq] at h3
      split at h
      · rename_i rest'' hquote
        have h4 := length_skipSeparators_le rest'
        rw [hquote] at h4
        obtain ⟨⟨v, r'⟩, hq, he⟩ := Option.map_eq_some_iff.1 h
        have h5 := length_lt_of_readQuoted? hq
        simp only [Prod.mk.injEq] at he
        simp only [List.length_cons] at h3 h4
        rw [← he.2]
        omega
      · simp at h
    · simp at h

def readMorePairs (cs : List Char) : List LabelPair × List Char :=
  match cs with
  | ',' :: rest =>
    match h : readLabelPair? rest with
    | none => ([], ',' :: rest)
    | some (p, r) =>
      have : r.length < rest.length + 1 := by
        have := length_lt_of_readLabelPair? h
        omega
      let (ps, r') := readMorePairs r
      (p :: ps, r')
  | other => ([], other)
termination_by cs.length

def readPairs (cs : List Char) : List LabelPair × List Char :=
  match readLabelPair? cs with
  | none => ([], cs)
  | some (p, r) =>
    let (ps, r') := readMorePairs r
    (p :: ps, r')

def readLabelSet? : List Char → Option (List LabelPair × List Char)
  | '\x7b' :: cs =>
    let (pairs, rest) := readPairs cs
    let afterComma :=
      match skipSeparators rest with
      | ',' :: r => skipSeparators r
      | r => r
    match afterComma with
    | '\x7d' :: r => some (pairs, r)
    | _ => none
  | _ => none

def isTimestampChar (c : Char) : Bool := c.isDigit || c = '-'

def skipTimestamp (cs : List Char) : List Char :=
  match skipSeparators1? cs with
  | none => cs
  | some rest =>
    if (rest.takeWhile isTimestampChar).isEmpty then cs else rest.dropWhile isTimestampChar

structure SampleLine where
  name : List Char
  labels : List LabelPair
  value : Numeral
  deriving DecidableEq

namespace SampleLine

def read? (cs : List Char) : Option (SampleLine × List Char) :=
  match readMetricName? cs with
  | none => none
  | some (name, afterName) =>
    let (labels, afterLabels) := (readLabelSet? afterName).getD ([], afterName)
    match skipSeparators1? afterLabels with
    | none => none
    | some atValue =>
      let text := atValue.takeWhile (!isBlank ·)
      let rest := atValue.dropWhile (!isBlank ·)
      (Numeral.read? text).map fun v => (⟨name, labels, v⟩, skipTimestamp rest)

end SampleLine
end ScrapeTelemetry
