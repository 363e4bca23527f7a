import Mathlib.Data.List.TakeWhile
import RuleGrammar.Json.Parser

/-!
Owns what is read back of the strings and numbers that are written.

Contract: a string is read back whatever its characters, and an integer whatever its digits as long as
it fits 64 bits. The text behind a number must not continue it.
-/

namespace RuleGrammar

/-! ## Digits -/

namespace Decimal

theorem isDigit_of_mem_digitChars {n : Nat} {c : Char} (member : c ∈ digitChars n) :
    isDigit c = true := by
  have digit := Nat.isDigit_of_mem_toDigits (by decide) (by decide) member
  simpa [isDigit, Char.isDigit, Char.le_def] using digit

theorem extendNat_digitChars (n : Nat) : extendNat 0 (digitChars n) = n :=
  Nat.ofDigitChars_ten_toDigits

theorem digitChars_ne_nil (n : Nat) : digitChars n ≠ [] :=
  Nat.toDigits_ne_nil

theorem digitChars_append {n d : Nat} (positive : 0 < n) (digit : d < 10) :
    digitChars (10 * n + d) = digitChars n ++ [Nat.digitChar d] := by
  unfold digitChars
  rw [← Nat.toDigits_append_toDigits (by decide) positive digit, Nat.toDigits_of_lt_base digit]

/-- No zero stands before other digits. -/
theorem eq_zero_of_digitChars {n : Nat} {rest : List Char} (zero : digitChars n = '0' :: rest) :
    n = 0 := by
  induction n using Nat.base_induction 10 (by decide) generalizing rest with
  | single d digit =>
      rw [digitChars, Nat.toDigits_of_lt_base digit, List.cons.injEq] at zero
      exact Nat.digitChar_eq_zero.mp zero.1
  | digit n d digit positive inductionHypothesis =>
      rw [digitChars_append positive digit] at zero
      cases leading : digitChars n with
      | nil => exact absurd leading (digitChars_ne_nil n)
      | cons first others =>
          rw [leading, List.cons_append, List.cons.injEq] at zero
          rw [zero.1] at leading
          exact absurd (inductionHypothesis leading) (Nat.ne_of_gt positive)

end Decimal

namespace Json

/-! ## Numbers -/

/-- Nothing at the beginning of the text continues a number before it. -/
def EndsNumber (tail : List Char) : Prop :=
  ∀ c ∈ tail.head?, Decimal.isDigit c = false ∧ c ≠ '.' ∧ c ≠ 'e' ∧ c ≠ 'E'

theorem endsNumber_cons {c : Char} {tail : List Char} :
    EndsNumber (c :: tail) ↔ Decimal.isDigit c = false ∧ c ≠ '.' ∧ c ≠ 'e' ∧ c ≠ 'E' := by
  simp [EndsNumber]

section

variable {text rest tail : List Char}

/-- A run of digits is all the digits there are, and at least one. -/
theorem readDigitRun_eq_some_iff {digits : List Char} :
    readDigitRun text = some (digits, rest) ↔
      text = digits ++ rest ∧ digits ≠ [] ∧ (∀ c ∈ digits, Decimal.isDigit c = true) ∧
        ∀ c ∈ rest.head?, Decimal.isDigit c = false := by
  simp only [readDigitRun, Option.ite_none_left_eq_some, List.isEmpty_iff, Option.some.injEq,
    Prod.mk.injEq]
  constructor
  · rintro ⟨nonempty, rfl, rfl⟩
    refine ⟨List.takeWhile_append_dropWhile.symm, nonempty, fun c member => ?_, fun c member => ?_⟩
    · exact List.mem_takeWhile_imp member
    · have stops := List.head?_dropWhile_not Decimal.isDigit text
      rw [Option.mem_def.mp member] at stops
      exact stops
  · rintro ⟨rfl, nonempty, digits, stops⟩
    rw [List.takeWhile_append_of_pos digits, List.dropWhile_append_of_pos digits]
    cases rest with
    | nil => simp [nonempty]
    | cons c rest => simp [nonempty, stops c rfl]

theorem readDigitRun_append {digits : List Char} (ends : EndsNumber tail)
    (read : readDigitRun text = some (digits, rest)) :
    readDigitRun (text ++ tail) = some (digits, rest ++ tail) := by
  rw [readDigitRun_eq_some_iff] at read ⊢
  obtain ⟨rfl, nonempty, digits, stops⟩ := read
  refine ⟨List.append_assoc .., nonempty, digits, fun c member => ?_⟩
  cases rest with
  | nil => exact (ends c member).1
  | cons first rest => exact stops c member

theorem readDigitRun_of_readWhole {digits : List Char}
    (read : readWhole text = some (digits, rest)) : readDigitRun text = some (digits, rest) := by
  unfold readWhole at read
  split at read
  next => cases read
  next => exact read

theorem readWhole_append {digits : List Char} (ends : EndsNumber tail)
    (read : readWhole text = some (digits, rest)) :
    readWhole (text ++ tail) = some (digits, rest ++ tail) := by
  unfold readWhole at read ⊢
  split at read
  next => cases read
  next proper =>
    rw [readDigitRun_append ends read]
    split
    next leading =>
      cases leading
      exact absurd read (proper _ _ _)
    next => rfl

theorem readFraction_append {fraction : Option (List Char)} (ends : EndsNumber tail)
    (read : readFraction text = some (fraction, rest)) :
    readFraction (text ++ tail) = some (fraction, rest ++ tail) := by
  unfold readFraction at read ⊢
  split at read
  next rest' =>
    obtain ⟨⟨digits, left⟩, run, same⟩ := Option.map_eq_some_iff.mp read
    cases same
    rw [List.cons_append]
    simp only [readDigitRun_append ends run, Option.map_some]
  next plain =>
    cases read
    split
    next point =>
      cases text with
      | nil =>
          rw [List.nil_append] at point
          subst point
          exact absurd rfl (endsNumber_cons.mp ends).2.1
      | cons c text =>
          rw [List.cons_append, List.cons.injEq] at point
          rw [point.1] at plain
          exact absurd rfl (plain text)
    next => rfl

theorem splitSign_append (nonempty : text ≠ []) :
    Decimal.splitSign (text ++ tail) =
      ((Decimal.splitSign text).1, (Decimal.splitSign text).2 ++ tail) := by
  obtain ⟨c, text, rfl⟩ := List.exists_cons_of_ne_nil nonempty
  by_cases minus : c = '-'
  · subst minus
    rfl
  · by_cases plus : c = '+'
    · subst plus
      rfl
    · simp [Decimal.splitSign, minus, plus]

theorem readExponent_append {exponent : Option (Bool × List Char)} (ends : EndsNumber tail)
    (read : readExponent text = some (exponent, rest)) :
    readExponent (text ++ tail) = some (exponent, rest ++ tail) := by
  cases text with
  | nil =>
      cases read
      cases tail with
      | nil => rfl
      | cons c tail =>
          have other := endsNumber_cons.mp ends
          simp [readExponent, other]
  | cons mark text =>
      rw [List.cons_append]
      simp only [readExponent] at read ⊢
      by_cases marked : mark = 'e' ∨ mark = 'E'
      · rw [if_pos marked] at read ⊢
        obtain ⟨⟨digits, left⟩, run, same⟩ := Option.map_eq_some_iff.mp read
        cases same
        have nonempty : text ≠ [] := by
          rintro rfl
          exact (readDigitRun_eq_some_iff.mp run).2.1 (List.append_eq_nil_iff.mp
            (readDigitRun_eq_some_iff.mp run).1.symm).1
        simp only [splitSign_append nonempty, readDigitRun_append ends run, Option.map_some]
      · rw [if_neg marked] at read ⊢
        cases read
        rfl

/-- The number behind its sign. -/
def readUnsigned (negative : Bool) : Reader NumberText := fun text => do
  let (whole, rest) ← readWhole text
  let (fraction, rest) ← readFraction rest
  let (exponent, rest) ← readExponent rest
  some (⟨negative, whole, fraction, exponent⟩, rest)

theorem readNumberText_minus (text : List Char) :
    readNumberText ('-' :: text) = readUnsigned true text :=
  rfl

theorem readNumberText_of_ne {c : Char} (unsigned : c ≠ '-') (text : List Char) :
    readNumberText (c :: text) = readUnsigned false (c :: text) := by
  simp [readNumberText, readUnsigned, unsigned]

theorem readUnsigned_append {negative : Bool} {number : NumberText} (ends : EndsNumber tail)
    (read : readUnsigned negative text = some (number, rest)) :
    readUnsigned negative (text ++ tail) = some (number, rest ++ tail) := by
  simp only [readUnsigned, Option.bind_eq_bind, Option.bind_eq_some_iff] at read
  obtain ⟨⟨whole, left⟩, wholeRead, ⟨fraction, left'⟩, fractionRead, ⟨exponent, left''⟩,
    exponentRead, same⟩ := read
  cases same
  simp only [readUnsigned, Option.bind_eq_bind, readWhole_append ends wholeRead,
    readFraction_append ends fractionRead, readExponent_append ends exponentRead, Option.bind_some]

theorem readNumberText_append {number : NumberText} (ends : EndsNumber tail)
    (read : readNumberText text = some (number, rest)) :
    readNumberText (text ++ tail) = some (number, rest ++ tail) := by
  cases text with
  | nil => cases read
  | cons c text =>
      by_cases minus : c = '-'
      · subst minus
        rw [List.cons_append, readNumberText_minus] at *
        exact readUnsigned_append ends read
      · rw [List.cons_append, readNumberText_of_ne minus] at *
        exact readUnsigned_append ends read

/-- A number reads the same in front of a text that does not continue it. -/
theorem readNumber_append {value : Json} (ends : EndsNumber tail)
    (read : readNumber .full text = some (value, rest)) :
    readNumber .full (text ++ tail) = some (value, rest ++ tail) := by
  obtain ⟨⟨number, left⟩, text, valued⟩ := Option.bind_eq_some_iff.mp read
  obtain ⟨value, known, same⟩ := Option.map_eq_some_iff.mp valued
  cases same
  simp only [readNumber, Option.bind_eq_bind, readNumberText_append ends text, Option.bind_some,
    known, Option.map_some]

/-! ## Integers -/

theorem readUnsigned_digitChars (negative : Bool) (n : Nat) :
    readUnsigned negative (Decimal.digitChars n) =
      some (⟨negative, Decimal.digitChars n, none, none⟩, []) := by
  have run : readDigitRun (Decimal.digitChars n) = some (Decimal.digitChars n, []) :=
    readDigitRun_eq_some_iff.mpr ⟨(List.append_nil _).symm, Decimal.digitChars_ne_nil n,
      fun _ => Decimal.isDigit_of_mem_digitChars, fun _ member => by cases member⟩
  have whole : readWhole (Decimal.digitChars n) = some (Decimal.digitChars n, []) := by
    unfold readWhole
    rw [run]
    split
    next second others _ leading =>
      have digits := (Prod.mk.inj (Option.some.inj leading)).1
      rw [Decimal.eq_zero_of_digitChars digits] at digits
      cases digits
    next => rfl
  simp only [readUnsigned, whole, Option.bind_eq_bind, Option.bind_some]
  rfl

theorem readNumberText_digitChars (n : Nat) :
    readNumberText (Decimal.digitChars n) =
      some (⟨false, Decimal.digitChars n, none, none⟩, []) := by
  obtain ⟨c, digits, same⟩ := List.exists_cons_of_ne_nil (Decimal.digitChars_ne_nil n)
  have digit : Decimal.isDigit c = true :=
    Decimal.isDigit_of_mem_digitChars (n := n) (by rw [same]; exact List.mem_cons_self)
  have unsigned : c ≠ '-' := by
    rintro rfl
    cases digit
  rw [same, readNumberText_of_ne unsigned, ← same]
  exact readUnsigned_digitChars false n

theorem value?_negative {n : Nat} (positive : 0 < n) (small : n ≤ Nat.pow 2 63) :
    (NumberText.mk true (Decimal.digitChars n) none none).value? = some (.int (-n)) := by
  have half : Nat.pow 2 63 = 9223372036854775808 := rfl
  have fits : n < significandLimit := by
    rw [show significandLimit = 18446744073709551616 from rfl]
    omega
  have exact : ¬ (n = 0 ∨ Nat.pow 2 63 < n) := by omega
  rw [NumberText.value?, if_pos ⟨rfl, rfl⟩, Decimal.extendNat_digitChars]
  simp only [if_pos fits, if_neg exact, Bool.not_true, Bool.false_eq_true, if_false]

theorem value?_unsigned {n : Nat} (fits : n < significandLimit) :
    (NumberText.mk false (Decimal.digitChars n) none none).value? = some (.int n) := by
  rw [NumberText.value?, if_pos ⟨rfl, rfl⟩, Decimal.extendNat_digitChars]
  simp only [if_pos fits, Bool.not_false, if_true]

/-- An integer of 64 bits, signed or unsigned, is read back. -/
theorem readNumber_intChars {n : Int} (low : -(Nat.pow 2 63 : Int) ≤ n) (high : n < UInt64.size) :
    readNumber .full (intChars n) = some (.int n, []) := by
  by_cases negative : n < 0
  · have same : -(n.natAbs : Int) = n := by omega
    simp only [readNumber, intChars, if_pos negative, readNumberText_minus, readUnsigned_digitChars,
      Option.bind_eq_bind, Option.bind_some, Option.map_some,
      value?_negative (n := n.natAbs) (by omega) (by omega), same]
  · have fits : n.natAbs < significandLimit := by
      unfold significandLimit
      omega
    have same : (n.natAbs : Int) = n := by omega
    simp only [readNumber, intChars, if_neg negative, readNumberText_digitChars,
      Option.bind_eq_bind, Option.bind_some, Option.map_some, value?_unsigned fits, same]

end

/-! ## Strings -/

theorem digitValue?_digitChar : ∀ d < 16, Text.digitValue? 16 (Nat.digitChar d) = some d := by
  decide

/-- The escape of a control character. -/
theorem readUnit_escape {n : Nat} (control : n < 32) (rest : List Char) :
    readUnit ('0' :: '0' :: Nat.digitChar (n / 16) :: Nat.digitChar (n % 16) :: rest) =
      some (n, rest) := by
  have zero : Text.digitValue? 16 '0' = some 0 := rfl
  simp only [readUnit, zero, digitValue?_digitChar (n / 16) (by omega),
    digitValue?_digitChar (n % 16) (by omega), Option.bind_eq_bind, Option.bind_some,
    Option.some.injEq, Prod.mk.injEq, and_true]
  omega

/-- A character as it is written is read as one character. -/
theorem readChars_escapeChar (c : Char) (fuel : Nat) (rest : List Char) :
    readChars .full (fuel + 1) (escapeChar c ++ rest) =
      (readChars .full fuel rest).map fun (cs, left) => (c :: cs, left) := by
  unfold escapeChar
  split
  next => rfl
  next => rfl
  next => rfl
  next => rfl
  next => rfl
  next => rfl
  next => rfl
  next quote backslash _ _ _ _ _ =>
    by_cases control : c.toNat < 32
    · rw [if_pos control]
      have unit := readUnit_escape control rest
      have unicode : readUnicode .full
          ('0' :: '0' :: Nat.digitChar (c.toNat / 16) :: Nat.digitChar (c.toNat % 16) :: rest) =
            some (c, rest) := by
        have low : ¬ (0xD800 ≤ c.toNat ∧ c.toNat < 0xDC00) := by omega
        have high : ¬ (0xDC00 ≤ c.toNat ∧ c.toNat < 0xE000) := by omega
        simp only [readUnicode, unit, Option.bind_eq_bind, Option.bind_some, if_neg low,
          if_neg high, Char.ofNat_toNat]
      simp only [List.cons_append, List.nil_append, readChars, readEscape, unicode]
    · rw [if_neg control, List.cons_append, List.nil_append, readChars, if_neg control]
      · exact quote
      · exact backslash

theorem readChars_flatMap {chars tail : List Char} {fuel : Nat} (enough : chars.length < fuel) :
    readChars .full fuel (chars.flatMap escapeChar ++ '"' :: tail) = some (chars, tail) := by
  induction chars generalizing fuel with
  | nil =>
      obtain ⟨fuel, rfl⟩ := Nat.exists_eq_succ_of_ne_zero (Nat.ne_of_gt enough)
      rfl
  | cons c chars inductionHypothesis =>
      rw [List.length_cons] at enough
      obtain ⟨fuel, rfl⟩ := Nat.exists_eq_succ_of_ne_zero (Nat.ne_zero_of_lt enough)
      rw [List.flatMap_cons, List.append_assoc, readChars_escapeChar,
        inductionHypothesis (Nat.lt_of_succ_lt_succ enough), Option.map_some]

theorem escapeChar_ne_nil (c : Char) : escapeChar c ≠ [] := by
  unfold escapeChar
  split
  case h_8 => split <;> exact List.cons_ne_nil _ _
  all_goals exact List.cons_ne_nil _ _

theorem length_le_length_escaped (chars : List Char) :
    chars.length ≤ (chars.flatMap escapeChar).length := by
  induction chars with
  | nil => exact le_rfl
  | cons c chars inductionHypothesis =>
      have positive := List.length_pos_iff.mpr (escapeChar_ne_nil c)
      rw [List.flatMap_cons, List.length_append, List.length_cons]
      omega

/-- A string as it is written, behind its opening quote, is read back. -/
theorem readString_escaped (s : String) (tail : List Char) :
    readString .full (s.toList.flatMap escapeChar ++ '"' :: tail) = some (s, tail) := by
  have enough : s.toList.length <
      (s.toList.flatMap escapeChar ++ '"' :: tail).length + 1 := by
    have escaped := length_le_length_escaped s.toList
    rw [List.length_append]
    omega
  simp only [readString, readChars_flatMap enough, Option.map_some, String.ofList_toList]

end Json

end RuleGrammar
