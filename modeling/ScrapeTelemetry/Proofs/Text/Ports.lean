import Mathlib
import ScrapeTelemetry.Text.Port

/-!
# The port that an address names

An address names a port if it ends in a colon and the port's decimal digits. A plus sign
and zeros may stand before the digits; a port is never more than 65535.
-/

set_option autoImplicit false

namespace ScrapeTelemetry

/-- The address ends in a colon and the port, written with or without a plus sign and
leading zeros. -/
def HasPort (address : String) (port : ℕ) : Prop :=
  ∃ host sign zeros, (sign = "" ∨ sign = "+") ∧ (∀ c ∈ zeros.toList, c = '0') ∧
    port ≤ 65535 ∧ address = host ++ ":" ++ sign ++ zeros ++ toString port

theorem digit_char_of_digit {c : Char} (h : c.isDigit = true) :
    ∃ d, d < 10 ∧ c = Nat.digitChar d ∧ Decimal.digitValue c = d := by
  have hrange : 48 ≤ c.toNat ∧ c.toNat ≤ 57 := by
    simpa [Char.isDigit, UInt32.le_iff_toNat_le] using h
  refine ⟨c.toNat - 48, by omega, ?_, rfl⟩
  obtain ⟨hlow, hhigh⟩ := hrange
  have hchar := Char.ofNat_toNat c
  generalize c.toNat = n at hlow hhigh hchar
  rw [← hchar]
  interval_cases n <;> rfl

theorem value_concat (ds : List Char) (c : Char) :
    Decimal.natOfDigits (ds ++ [c]) =
      10 * Decimal.natOfDigits ds + Decimal.digitValue c := by
  simp [Decimal.natOfDigits]

theorem value_of_digits (n : ℕ) : Decimal.natOfDigits (Nat.toDigits 10 n) = n :=
  Nat.ofDigitChars_ten_toDigits

theorem value_after_zeros {zeros : List Char} (hzeros : ∀ c ∈ zeros, c = '0')
    (ds : List Char) : Decimal.natOfDigits (zeros ++ ds) = Decimal.natOfDigits ds := by
  induction zeros with
  | nil => rfl
  | cons c zeros ih =>
    rw [hzeros c List.mem_cons_self]
    exact ih fun d hd => hzeros d (List.mem_cons_of_mem c hd)

/-- Digits are the decimal digits of their value, after some zeros. -/
theorem digits_of_value {ds : List Char} (hne : ds ≠ []) (hds : ∀ c ∈ ds, c.isDigit = true) :
    ∃ zeros, (∀ c ∈ zeros, c = '0') ∧ ds = zeros ++ Nat.toDigits 10 (Decimal.natOfDigits ds) := by
  induction ds using List.reverseRecOn with
  | nil => exact absurd rfl hne
  | append_singleton ds c ih =>
    obtain ⟨d, hd, hc, hvalue⟩ := digit_char_of_digit (hds c (by simp))
    have hlast : [c] = Nat.toDigits 10 d := by rw [Nat.toDigits_of_lt_base hd, hc]
    rw [value_concat, hvalue]
    by_cases hempty : ds = []
    · refine ⟨[], by simp, ?_⟩
      simp [hempty, hlast, Decimal.natOfDigits]
    · obtain ⟨zeros, hzeros, hdigits⟩ := ih hempty fun x hx => hds x (List.mem_append_left _ hx)
      by_cases hzero : Decimal.natOfDigits ds = 0
      · -- nothing but zeros so far
        refine ⟨zeros ++ ['0'], ?_, ?_⟩
        · simpa [or_imp, forall_and] using hzeros
        · rw [hzero, Nat.toDigits_zero] at hdigits
          rw [hzero, hlast, ← hdigits, Nat.mul_zero, Nat.zero_add]
      · refine ⟨zeros, hzeros, ?_⟩
        rw [← Nat.toDigits_append_toDigits (by decide) (Nat.pos_of_ne_zero hzero) hd, ← hlast,
          ← List.append_assoc, ← hdigits]

theorem read_unsigned_iff (limit n : ℕ) (cs : List Char) :
    readUnsigned? limit cs = some n ↔
      ∃ ds, (cs = ds ∨ cs = '+' :: ds) ∧ (ds ≠ [] ∧ ∀ c ∈ ds, c.isDigit = true) ∧
        Decimal.natOfDigits ds = n ∧ n ≤ limit := by
  have hread (ds : List Char) :
      (if ds.isEmpty || !ds.all Char.isDigit then none
        else if Decimal.natOfDigits ds ≤ limit then some (Decimal.natOfDigits ds) else none) =
          some n ↔
        (ds ≠ [] ∧ ∀ c ∈ ds, c.isDigit = true) ∧ Decimal.natOfDigits ds = n ∧ n ≤ limit := by
    by_cases hds : ds ≠ [] ∧ ∀ c ∈ ds, c.isDigit = true
    · rw [if_neg (by simpa using hds), Option.ite_none_right_eq_some, Option.some_inj]
      constructor
      · rintro ⟨hle, rfl⟩
        exact ⟨hds, rfl, hle⟩
      · rintro ⟨-, rfl, hle⟩
        exact ⟨hle, rfl⟩
    · rw [if_pos (by simpa [or_iff_not_imp_left] using hds)]
      simp [hds]
  have hplus : Char.isDigit '+' = false := by decide
  by_cases hsign : ∃ ds, cs = '+' :: ds
  · obtain ⟨ds, rfl⟩ := hsign
    refine Iff.trans (hread ds) ⟨fun h => ⟨ds, .inr rfl, h⟩, ?_⟩
    rintro ⟨es, rfl | he, h⟩
    · simp [hplus] at h
    · rw [(List.cons.inj he).2]
      exact h
  · rw [readUnsigned?]
    · refine Iff.trans (hread cs) ⟨fun h => ⟨cs, .inl rfl, h⟩, ?_⟩
      rintro ⟨es, rfl | he, h⟩
      · exact h
      · exact absurd ⟨es, he⟩ hsign
    · exact fun ds h => hsign ⟨ds, h⟩

theorem mem_of_split (c : Char) (cs : List Char) : (splitAtLast? c cs).isSome ↔ c ∈ cs := by
  induction cs with
  | nil => simp [splitAtLast?]
  | cons x cs ih =>
    rw [splitAtLast?, List.mem_cons, ← ih]
    cases splitAtLast? c cs with
    | none =>
      rw [eq_comm (a := c)]
      by_cases hx : x = c <;> simp [hx]
    | some p => simp

theorem split_at_last_iff (c : Char) (cs before after : List Char) :
    splitAtLast? c cs = some (before, after) ↔ cs = before ++ c :: after ∧ c ∉ after := by
  induction cs generalizing before with
  | nil => simp [splitAtLast?]
  | cons x cs ih =>
    rw [splitAtLast?]
    cases before with
    | nil =>
      rw [List.nil_append, List.cons.injEq]
      have hlast : (x = c ∧ cs = after) ∧ c ∉ after ↔ (x = c ∧ cs = after) ∧ c ∉ cs :=
        and_congr_right fun h => by rw [h.2]
      rw [hlast, ← mem_of_split c cs]
      cases splitAtLast? c cs with
      | none => by_cases hx : x = c <;> simp [hx]
      | some p => simp
    | cons y before =>
      rw [List.cons_append, List.cons.injEq, and_assoc, ← ih]
      cases hcs : splitAtLast? c cs with
      | none => by_cases hx : x = c <;> simp [hx]
      | some p => simp [Prod.ext_iff, and_assoc]

theorem port_text_iff (text : List Char) (port : ℕ) :
    readUnsigned? portLimit text = some port ↔
      ∃ sign zeros, (sign = [] ∨ sign = ['+']) ∧ (∀ c ∈ zeros, c = '0') ∧
        port ≤ portLimit ∧ text = sign ++ zeros ++ Nat.toDigits 10 port := by
  rw [read_unsigned_iff]
  constructor
  · rintro ⟨ds, htext, ⟨hne, hds⟩, rfl, hle⟩
    obtain ⟨zeros, hzeros, hdigits⟩ := digits_of_value hne hds
    rcases htext with rfl | rfl
    · exact ⟨[], zeros, .inl rfl, hzeros, hle, by simpa using hdigits⟩
    · exact ⟨['+'], zeros, .inr rfl, hzeros, hle, by simpa using hdigits⟩
  · rintro ⟨sign, zeros, hsign, hzeros, hle, rfl⟩
    refine ⟨zeros ++ Nat.toDigits 10 port, ?_, ⟨?_, ?_⟩, ?_, hle⟩
    · rcases hsign with rfl | rfl <;> simp
    · simp [Nat.toDigits_ne_nil]
    · intro c hc
      rcases List.mem_append.mp hc with hc | hc
      · rw [hzeros c hc]
        rfl
      · exact Nat.isDigit_of_mem_toDigits (by decide) (by decide) hc
    · rw [value_after_zeros hzeros, value_of_digits]

theorem no_colon_in_port {text : List Char} {port : ℕ}
    (h : readUnsigned? portLimit text = some port) : ':' ∉ text := by
  obtain ⟨ds, htext, ⟨-, hds⟩, -⟩ := (read_unsigned_iff _ _ _).mp h
  have hcolon : ':' ∉ ds := fun hc => absurd (hds _ hc) (by decide)
  rcases htext with rfl | rfl
  · exact hcolon
  · simpa using hcolon

/-- A port is read off an address if and only if the address names it. -/
theorem port_in_iff (address : String) (port : ℕ) :
    portIn? address = some port ↔ HasPort address port := by
  rw [portIn?, Option.bind_eq_some_iff]
  constructor
  · rintro ⟨⟨host, text⟩, hsplit, hport⟩
    obtain ⟨haddress, -⟩ := (split_at_last_iff _ _ _ _).mp hsplit
    obtain ⟨sign, zeros, hsign, hzeros, hle, rfl⟩ := (port_text_iff text port).mp hport
    refine ⟨.ofList host, .ofList sign, .ofList zeros, ?_, by simpa using hzeros, hle, ?_⟩
    · rcases hsign with rfl | rfl
      · exact .inl rfl
      · exact .inr rfl
    · rw [← String.toList_inj, haddress]
      simp [Nat.toList_repr]
  · rintro ⟨host, sign, zeros, hsign, hzeros, hle, rfl⟩
    have hport := (port_text_iff (sign.toList ++ zeros.toList ++ Nat.toDigits 10 port) port).mpr
      ⟨sign.toList, zeros.toList, by rcases hsign with rfl | rfl <;> decide, hzeros, hle, rfl⟩
    refine ⟨(host.toList, _), (split_at_last_iff _ _ _ _).mpr ⟨?_, no_colon_in_port hport⟩, hport⟩
    simp [Nat.toList_repr]

end ScrapeTelemetry
