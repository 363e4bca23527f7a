import Mathlib.Data.List.TakeWhile
import RuleGrammar.Proofs.BaseType.Numeral

/-!
Owns which numbers as they are written stand for a value.

Contract: what `Numeral.scan` finds has its parts in the form of a number (`Numeral.wellFormed_scan`), and
such a number with a digit has a value exactly when its digits are ASCII digits
(`Numeral.WellFormed.isSome_readFloat?_iff`).
-/

namespace RuleGrammar

open Text (isDecimalDigit)

/-! ## Runs -/

section

variable {α : Type} {holds : α → Bool} {items rest : List α}

theorem takeWhile_run (run : ∀ item ∈ items, holds item = true)
    (ended : ∀ item ∈ rest.head?, holds item = false) : (items ++ rest).takeWhile holds = items := by
  rw [List.takeWhile_append_of_pos run]
  cases rest with
  | nil => simp
  | cons item rest => simp [ended item rfl]

theorem dropWhile_run (run : ∀ item ∈ items, holds item = true)
    (ended : ∀ item ∈ rest.head?, holds item = false) : (items ++ rest).dropWhile holds = rest := by
  rw [List.dropWhile_append_of_pos run]
  cases rest with
  | nil => rfl
  | cons item rest => simp [ended item rfl]

end

/-! ## Digits with a value -/

/-- A member of a set lies in one of its ranges. -/
theorem Text.CodePoints.exists_range {ranges : CodePoints} {c : Char}
    (member : ranges.contains c = true) : ∃ range ∈ ranges, range.1 ≤ c.toNat ∧ c.toNat ≤ range.2 := by
  induction ranges with
  | nil => cases member
  | cons range ranges inductionHypothesis =>
      rw [contains] at member
      split_ifs at member with below
      · exact ⟨range, List.mem_cons_self, of_decide_eq_true member, below⟩
      · obtain ⟨other, inRanges, bounds⟩ := inductionHypothesis member
        exact ⟨other, List.mem_cons_of_mem _ inRanges, bounds⟩

/-- Between the ASCII digits and those of the next script there is none. -/
theorem Text.le_or_le_of_isDecimalDigit {c : Char} (decimal : isDecimalDigit c = true) :
    c.toNat ≤ 0x39 ∨ 0x660 ≤ c.toNat := by
  obtain ⟨range, member, low, high⟩ := CodePoints.exists_range decimal
  have apart : ∀ range ∈ decimalDigitRanges, range.2 ≤ 0x39 ∨ 0x660 ≤ range.1 := by decide
  rcases apart range member with below | above <;> omega

/-- No digit of another script. -/
def DigitsAscii (text : List Char) : Prop :=
  ∀ c ∈ text, isDecimalDigit c = true → Decimal.isDigit c = true

instance (text : List Char) : Decidable (DigitsAscii text) :=
  List.decidableBAll (fun c => isDecimalDigit c = true → Decimal.isDigit c = true) text

namespace DigitsAscii

variable {c : Char} {first second text : List Char}

theorem append_iff : DigitsAscii (first ++ second) ↔ DigitsAscii first ∧ DigitsAscii second :=
  List.forall_mem_append

theorem cons_iff (other : isDecimalDigit c = false) : DigitsAscii (c :: text) ↔ DigitsAscii text := by
  rw [DigitsAscii, List.forall_mem_cons, other]
  exact and_iff_right nofun

theorem of_all (digits : ∀ c ∈ text, Decimal.isDigit c = true) : DigitsAscii text :=
  fun c member _ => digits c member

end DigitsAscii

namespace Decimal

variable {c : Char} {text : List Char}

theorem splitSign_cons (sign : Numeral.isSign c = true) (rest : List Char) :
    (splitSign (c :: rest)).2 = rest := by
  simp only [Numeral.isSign, Bool.or_eq_true, beq_iff_eq] at sign
  rcases sign with rfl | rfl <;> rfl

theorem splitSign_of_unsigned (unsigned : ∀ c ∈ text.head?, Numeral.isSign c = false) :
    splitSign text = (false, text) := by
  cases text with
  | nil => rfl
  | cons c rest =>
      have other := unsigned c rfl
      simp only [Numeral.isSign, Bool.or_eq_false_iff, beq_eq_false_iff_ne] at other
      simp [splitSign, other]

theorem digitsAscii_splitSign_iff : DigitsAscii (splitSign text).2 ↔ DigitsAscii text := by
  cases text with
  | nil => rfl
  | cons c rest =>
      by_cases sign : Numeral.isSign c = true
      · rw [splitSign_cons sign, DigitsAscii.cons_iff (Numeral.isDecimalDigit_eq_false (.inl sign))]
      · rw [splitSign_of_unsigned (by simpa using sign)]

theorem digitsAscii_of_readExponent? (read : (readExponent? text).isSome) : DigitsAscii text := by
  cases text with
  | nil => exact nofun
  | cons mark rest =>
      rw [readExponent?] at read
      split at read
      next marked =>
        have notDigit : isDecimalDigit mark = false := by
          rcases marked with rfl | rfl <;> decide
        rw [DigitsAscii.cons_iff notDigit, ← digitsAscii_splitSign_iff]
        simp only at read
        split_ifs at read with digits
        · exact .of_all (List.all_eq_true.mp digits.2)
        · cases read
      next => cases read

/-- Digits behind a point, and what follows them. -/
def splitFraction : List Char → List Char × List Char
  | '.' :: rest => (rest.takeWhile isDigit, rest.dropWhile isDigit)
  | text => ([], text)

theorem splitFraction_of_ne (other : ∀ rest, text ≠ '.' :: rest) : splitFraction text = ([], text) := by
  unfold splitFraction
  split
  · next rest => exact absurd rfl (other rest)
  · rfl

theorem digitsAscii_splitFraction (behind : DigitsAscii (splitFraction text).2) : DigitsAscii text := by
  unfold splitFraction at behind
  split at behind
  · next rest =>
    rw [DigitsAscii.cons_iff (by decide), ← List.takeWhile_append_dropWhile (p := isDigit) (l := rest),
      DigitsAscii.append_iff]
    exact ⟨.of_all fun _ member => List.mem_takeWhile_imp member, behind⟩
  · exact behind

/-- A number has a digit before or behind the point, and a complete exponent if any. -/
theorem isSome_readScientific?_iff :
    (readScientific? text).isSome ↔
      let body := (splitSign text).2
      let fraction := splitFraction (body.dropWhile isDigit)
      ¬(body.takeWhile isDigit = [] ∧ fraction.1 = []) ∧ (readExponent? fraction.2).isSome := by
  have same : readScientific? text =
      let body := (splitSign text).2
      let fraction := splitFraction (body.dropWhile isDigit)
      if body.takeWhile isDigit = [] ∧ fraction.1 = [] then none
      else (readExponent? fraction.2).bind fun exponent =>
        some ⟨(splitSign text).1, extendNat 0 (body.takeWhile isDigit ++ fraction.1),
          exponent - fraction.1.length⟩ := by
    rw [readScientific?]
    simp only
    generalize (splitSign text).2.dropWhile isDigit = behind
    split
    · rfl
    · next other =>
      rw [splitFraction_of_ne other]
      rfl
  rw [same]
  simp only
  split_ifs with missing
  · exact iff_of_false nofun fun held => held.1 missing
  · rw [and_iff_right missing, Option.isSome_bind]
    cases readExponent? _ <;> rfl

theorem digitsAscii_of_readScientific? (read : (readScientific? text).isSome) : DigitsAscii text := by
  have behind := digitsAscii_of_readExponent? (isSome_readScientific?_iff.mp read).2
  rw [← digitsAscii_splitSign_iff, ← List.takeWhile_append_dropWhile (p := isDigit)
    (l := (splitSign text).2), DigitsAscii.append_iff]
  exact ⟨.of_all fun _ member => List.mem_takeWhile_imp member, digitsAscii_splitFraction behind⟩

theorem toLower_of_isDecimalDigit (decimal : isDecimalDigit c = true) : c.toLower = c := by
  refine dif_neg fun upper => ?_
  have low : 0x41 ≤ c.toNat := upper.1
  have high : c.toNat ≤ 0x5a := upper.2
  rcases Text.le_or_le_of_isDecimalDigit decimal with below | above <;> omega

/-- No digit stands in a name. -/
theorem digitsAscii_of_namedFloat? (read : (namedFloat? text).isSome) : DigitsAscii text := by
  have named : ∃ name ∈ ["inf", "infinity", "nan"], text.map Char.toLower = name.toList := by
    rw [namedFloat?] at read
    split_ifs at read with infinite undefined
    · rcases infinite with short | long
      · exact ⟨"inf", by simp, by rw [← short, String.toList_ofList]⟩
      · exact ⟨"infinity", by simp, by rw [← long, String.toList_ofList]⟩
    · exact ⟨"nan", by simp, by rw [← undefined, String.toList_ofList]⟩
    · cases read
  obtain ⟨name, listed, same⟩ := named
  intro c member decimal
  have letters : ∀ name ∈ ["inf", "infinity", "nan"],
      ∀ code ∈ name.toList.map Char.toNat, 0x39 < code ∧ code < 0x660 := by decide
  have inName : c ∈ name.toList :=
    same ▸ List.mem_map.mpr ⟨c, member, toLower_of_isDecimalDigit decimal⟩
  obtain ⟨above, below⟩ := letters name listed c.toNat (List.mem_map_of_mem inName)
  rcases Text.le_or_le_of_isDecimalDigit decimal with low | high <;> omega

theorem digitsAscii_of_readFloat? (read : (readFloat? text).isSome) : DigitsAscii text := by
  rw [readFloat?] at read
  simp only at read
  split at read
  · next named =>
    rw [← digitsAscii_splitSign_iff]
    exact digitsAscii_of_namedFloat? (by rw [named]; rfl)
  · rw [Option.isSome_map] at read
    exact digitsAscii_of_readScientific? read

theorem isSome_readFloat? (read : (readScientific? text).isSome) : (readFloat? text).isSome := by
  rw [readFloat?]
  simp only
  split
  · rfl
  · rwa [Option.isSome_map]

end Decimal

namespace Numeral

/-! ## Form of the parts -/

def IsMaybeSign (sign : List Char) : Prop :=
  sign = [] ∨ ∃ c, isSign c = true ∧ sign = [c]

structure WellFormed (numeral : Numeral) : Prop where
  sign : IsMaybeSign numeral.sign
  whole : ∀ c ∈ numeral.whole, isDecimalDigit c = true
  fraction : numeral.fraction = [] ∨
    ∃ digits, numeral.fraction = '.' :: digits ∧ ∀ c ∈ digits, isDecimalDigit c = true
  exponent : numeral.exponent = [] ∨
    ∃ mark sign digits, numeral.exponent = mark :: (sign ++ digits) ∧ isMark mark = true ∧
      IsMaybeSign sign ∧ digits ≠ [] ∧ ∀ c ∈ digits, isDecimalDigit c = true

theorem isMaybeSign_takeSign (text : List Char) : IsMaybeSign (takeSign text).1 := by
  cases text with
  | nil => exact .inl rfl
  | cons c rest =>
      rw [takeSign]
      split_ifs with sign
      · exact .inr ⟨c, sign, rfl⟩
      · exact .inl rfl

theorem wellFormed_scan (text : List Char) : (scan text).1.WellFormed where
  sign := isMaybeSign_takeSign text
  whole := fun _ member => List.mem_takeWhile_imp member
  fraction := by
    change (takeFraction _).1 = [] ∨ ∃ digits, (takeFraction _).1 = _ ∧ _
    generalize (takeSign text).2.dropWhile isDecimalDigit = behind
    cases behind with
    | nil => exact .inl rfl
    | cons c rest =>
        by_cases point : c = '.'
        · subst point
          exact .inr ⟨_, rfl, fun _ member => List.mem_takeWhile_imp member⟩
        · exact .inl (congrArg Prod.fst (if_neg point))
  exponent := by
    change (takeExponent _).1 = [] ∨ ∃ mark sign digits, (takeExponent _).1 = _ ∧ _
    generalize (takeFraction ((takeSign text).2.dropWhile isDecimalDigit)).2 = behind
    cases behind with
    | nil => exact .inl rfl
    | cons mark rest =>
        simp only [takeExponent]
        split_ifs with counts
        · obtain ⟨marked, digit⟩ := Bool.and_eq_true_iff.mp counts
          refine .inr ⟨mark, _, _, rfl, marked, isMaybeSign_takeSign rest, ?_,
            fun _ member => List.mem_takeWhile_imp member⟩
          intro none
          have empty := isEmpty_takeWhile isDecimalDigit (takeSign rest).2
          rw [none, digit] at empty
          cases empty
        · exact .inl rfl

/-! ## Values -/

theorem isDigit_eq_false {c : Char} (other : isSign c = true ∨ isMark c = true ∨ c = '.') :
    Decimal.isDigit c = false :=
  Bool.eq_false_iff.mpr fun digit =>
    Bool.eq_false_iff.mp (isDecimalDigit_eq_false other) (isDecimalDigit_of_isDigit digit)

theorem IsMaybeSign.splitSign_append {sign body : List Char} (signs : IsMaybeSign sign)
    (unsigned : ∀ c ∈ body.head?, isSign c = false) : (Decimal.splitSign (sign ++ body)).2 = body := by
  rcases signs with rfl | ⟨c, sign, rfl⟩
  · exact congrArg Prod.snd (Decimal.splitSign_of_unsigned unsigned)
  · exact Decimal.splitSign_cons sign body

theorem isSign_eq_false {c : Char} (decimal : isDecimalDigit c = true) : isSign c = false :=
  Bool.eq_false_iff.mpr fun sign =>
    Bool.eq_false_iff.mp (isDecimalDigit_eq_false (.inl sign)) decimal

namespace WellFormed

variable {numeral : Numeral}

theorem isMark_of_mem_head? (formed : numeral.WellFormed) :
    ∀ c ∈ numeral.exponent.head?, isMark c = true := by
  rcases formed.exponent with none | ⟨mark, sign, digits, same, marked, -⟩
  · simp [none]
  · simp [same, marked]

theorem isSome_readExponent? (formed : numeral.WellFormed) (ascii : DigitsAscii numeral.exponent) :
    (Decimal.readExponent? numeral.exponent).isSome := by
  rcases formed.exponent with none | ⟨mark, sign, digits, same, marked, signs, some, decimals⟩
  · rw [none]
    rfl
  · rw [same] at ascii ⊢
    have split : (Decimal.splitSign (sign ++ digits)).2 = digits :=
      signs.splitSign_append fun c first => isSign_eq_false (decimals c (List.mem_of_mem_head? first))
    have all : digits.all Decimal.isDigit = true := List.all_eq_true.mpr fun c member =>
      ascii c (by simp [member]) (decimals c member)
    simp only [isMark, Bool.or_eq_true, beq_iff_eq] at marked
    rw [Decimal.readExponent?, if_pos marked]
    simp only [split]
    rw [if_pos ⟨some, all⟩]
    rfl

/-- The digits behind a point are split off whole. -/
theorem splitFraction_eq (formed : numeral.WellFormed) (ascii : DigitsAscii numeral.fraction) :
    Decimal.splitFraction (numeral.fraction ++ numeral.exponent) =
      (numeral.fraction.tail, numeral.exponent) := by
  have marks := formed.isMark_of_mem_head?
  rcases formed.fraction with whole | ⟨digits, same, decimals⟩
  · rw [whole]
    refine Decimal.splitFraction_of_ne fun rest point => ?_
    rw [List.nil_append] at point
    exact absurd (marks '.' (by rw [point]; rfl)) (by decide)
  · rw [same] at ascii ⊢
    have run : ∀ c ∈ digits, Decimal.isDigit c = true := fun c member =>
      ascii c (List.mem_cons_of_mem _ member) (decimals c member)
    have ended : ∀ c ∈ numeral.exponent.head?, Decimal.isDigit c = false := fun c first =>
      isDigit_eq_false (.inr (.inl (marks c first)))
    rw [List.cons_append, Decimal.splitFraction, takeWhile_run run ended, dropWhile_run run ended]
    rfl

theorem behindWhole (formed : numeral.WellFormed) :
    ∀ c ∈ (numeral.fraction ++ numeral.exponent).head?, isMark c = true ∨ c = '.' := by
  rcases formed.fraction with whole | ⟨digits, same, -⟩
  · rw [whole, List.nil_append]
    exact fun c first => .inl (formed.isMark_of_mem_head? c first)
  · simp [same]

/-- A number that has a digit has a value exactly when its digits are ASCII digits. -/
theorem isSome_readFloat?_iff (formed : numeral.WellFormed) (digits : numeral.hasDigits = true) :
    (Decimal.readFloat? numeral.text).isSome ↔ DigitsAscii numeral.text := by
  refine ⟨Decimal.digitsAscii_of_readFloat?, fun ascii => Decimal.isSome_readFloat? ?_⟩
  simp only [text, DigitsAscii.append_iff] at ascii
  obtain ⟨-, wholeAscii, fractionAscii, exponentAscii⟩ := ascii
  have unsigned : ∀ c ∈ (numeral.whole ++ (numeral.fraction ++ numeral.exponent)).head?,
      isSign c = false := by
    cases whole : numeral.whole with
    | nil =>
        intro c first
        rcases formed.behindWhole c first with mark | rfl
        · simp only [isMark, Bool.or_eq_true, beq_iff_eq] at mark
          rcases mark with rfl | rfl <;> rfl
        · rfl
    | cons digit rest =>
        rintro c ⟨rfl⟩
        exact isSign_eq_false (formed.whole digit (by simp [whole]))
  have run : ∀ c ∈ numeral.whole, Decimal.isDigit c = true := fun c member =>
    wholeAscii c member (formed.whole c member)
  have ended : ∀ c ∈ (numeral.fraction ++ numeral.exponent).head?, Decimal.isDigit c = false :=
    fun c first => isDigit_eq_false (.inr (formed.behindWhole c first))
  rw [Decimal.isSome_readScientific?_iff, text, formed.sign.splitSign_append unsigned]
  simp only [takeWhile_run run ended, dropWhile_run run ended, formed.splitFraction_eq fractionAscii]
  refine ⟨?_, formed.isSome_readExponent? exponentAscii⟩
  rintro ⟨noWhole, noFraction⟩
  simp [hasDigits, noWhole, noFraction] at digits

/-- A point or a mark in the text is that of the fraction or of the exponent. -/
theorem exists_mem_text_iff (formed : numeral.WellFormed) :
    (∃ c ∈ numeral.text, c = '.' ∨ c = 'e' ∨ c = 'E') ↔ numeral.isScaled = true := by
  have noSign : ∀ c ∈ numeral.sign, ¬(c = '.' ∨ c = 'e' ∨ c = 'E') := by
    rcases formed.sign with none | ⟨sign, signed, single⟩
    · simp [none]
    · rw [single, List.forall_mem_singleton]
      rintro (rfl | rfl | rfl) <;> exact absurd signed (by decide)
  have noDigit : ∀ c ∈ numeral.whole, ¬(c = '.' ∨ c = 'e' ∨ c = 'E') := by
    intro c member
    have decimal := formed.whole c member
    rintro (rfl | rfl | rfl) <;> exact absurd decimal (by decide)
  constructor
  · rintro ⟨c, member, scales⟩
    simp only [text, List.mem_append] at member
    rcases member with sign | whole | fraction | exponent
    · exact absurd scales (noSign c sign)
    · exact absurd scales (noDigit c whole)
    · simp [isScaled, List.ne_nil_of_mem fraction]
    · simp [isScaled, List.ne_nil_of_mem exponent]
  · intro scaled
    rcases formed.fraction with whole | ⟨digits, same, -⟩
    · rcases formed.exponent with unscaled | ⟨mark, sign, digits, same, marked, -⟩
      · simp [isScaled, whole, unscaled] at scaled
      · refine ⟨mark, by simp [text, same], .inr ?_⟩
        simpa [isMark] using marked
    · exact ⟨'.', by simp [text, same], .inl rfl⟩

end WellFormed

end Numeral

end RuleGrammar
