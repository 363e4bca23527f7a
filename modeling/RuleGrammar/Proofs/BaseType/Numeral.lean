import RuleGrammar.BaseType
import RuleGrammar.Proofs.Regex.Membership
import RuleGrammar.Proofs.Regex.Preference
import RuleGrammar.Proofs.Regex.Properties

/-!
Owns numbers as they are written: a sign, digits of any script, a fraction and an exponent, each taken as
long as it can be in one pass.

Contract: the expressions of the number types leave of a text what such a pass leaves
(`Numeral.scannedBy_float`, `Numeral.scannedBy_strictFloat`, `Numeral.scannedBy_int`).
-/

namespace RuleGrammar

/-- A number as it is written. Parts that it does not have are empty. -/
structure Numeral where
  sign : List Char
  whole : List Char
  /-- With the point in front. -/
  fraction : List Char
  /-- With its mark in front. -/
  exponent : List Char
deriving DecidableEq, Repr

namespace Numeral

/-! ## One pass -/

def isSign (c : Char) : Bool :=
  c == '+' || c == '-'

def isMark (c : Char) : Bool :=
  c == 'e' || c == 'E'

def text (numeral : Numeral) : List Char :=
  numeral.sign ++ (numeral.whole ++ (numeral.fraction ++ numeral.exponent))

/-- A digit before or behind the point. -/
def hasDigits (numeral : Numeral) : Bool :=
  !numeral.whole.isEmpty || !numeral.fraction.tail.isEmpty

/-- A point or an exponent. -/
def isScaled (numeral : Numeral) : Bool :=
  !numeral.fraction.isEmpty || !numeral.exponent.isEmpty

def takeSign : List Char → List Char × List Char
  | [] => ([], [])
  | c :: rest => if isSign c then ([c], rest) else ([], c :: rest)

def takeFraction : List Char → List Char × List Char
  | [] => ([], [])
  | c :: rest =>
      if c = '.' then
        (c :: rest.takeWhile Text.isDecimalDigit, rest.dropWhile Text.isDecimalDigit)
      else
        ([], c :: rest)

/-- A mark counts only with a digit behind it, or behind a sign behind it. -/
def takeExponent : List Char → List Char × List Char
  | [] => ([], [])
  | c :: rest =>
      let signed := takeSign rest
      if isMark c && signed.2.head?.any Text.isDecimalDigit then
        (c :: (signed.1 ++ signed.2.takeWhile Text.isDecimalDigit),
          signed.2.dropWhile Text.isDecimalDigit)
      else
        ([], c :: rest)

/-- The number in front of a text that has no sign. -/
def scanUnsigned (text : List Char) : Numeral × List Char :=
  let fraction := takeFraction (text.dropWhile Text.isDecimalDigit)
  let exponent := takeExponent fraction.2
  (⟨[], text.takeWhile Text.isDecimalDigit, fraction.1, exponent.1⟩, exponent.2)

/-- The number in front of a text, which may be without digits, and what follows it. -/
def scan (text : List Char) : Numeral × List Char :=
  let signed := takeSign text
  let found := scanUnsigned signed.2
  ({ found.1 with sign := signed.1 }, found.2)

def float : Reader (List Char) := fun text =>
  let found := scan text
  if found.1.hasDigits then some (found.1.text, found.2) else none

def strictFloat : Reader (List Char) := fun text =>
  let found := scan text
  if found.1.hasDigits && found.1.isScaled then some (found.1.text, found.2) else none

/-- Only ASCII digits count here. -/
def int : Reader (List Char) := fun text =>
  let signed := takeSign text
  if signed.2.head?.any Decimal.isDigit then
    some (signed.1 ++ signed.2.takeWhile Decimal.isDigit, signed.2.dropWhile Decimal.isDigit)
  else
    none

/-! ### Nothing is lost -/

theorem takeSign_append (text : List Char) : (takeSign text).1 ++ (takeSign text).2 = text := by
  unfold takeSign
  split
  · rfl
  · split_ifs <;> rfl

theorem takeSign_of_unsigned {text : List Char} (unsigned : ∀ c ∈ text.head?, isSign c = false) :
    takeSign text = ([], text) := by
  cases text with
  | nil => rfl
  | cons c rest => exact if_neg (by simp [unsigned c rfl])

theorem takeFraction_append (text : List Char) :
    (takeFraction text).1 ++ (takeFraction text).2 = text := by
  unfold takeFraction
  split
  · rfl
  · split_ifs
    · simp
    · rfl

theorem takeExponent_append (text : List Char) :
    (takeExponent text).1 ++ (takeExponent text).2 = text := by
  unfold takeExponent
  split
  · rfl
  · simp only
    split_ifs
    · simp [takeSign_append]
    · rfl

theorem scan_append (text : List Char) : (scan text).1.text ++ (scan text).2 = text := by
  simp only [scan, scanUnsigned, Numeral.text, List.append_assoc, takeExponent_append,
    takeFraction_append, List.takeWhile_append_dropWhile, takeSign_append]

/-! ## Expressions -/

def signs : CharSet :=
  (CharSet.single '+').union (.single '-')

def marks : CharSet :=
  (CharSet.single 'e').union (.single 'E')

/-- A sign, or none. -/
def maybeSign : Regex :=
  .times (.oneOf signs) 0 (some 1) true

def someDigits : Regex :=
  .times (.oneOf .digit) 1 none true

def scale : Regex :=
  .cat (.cat (.oneOf marks) maybeSign) someDigits

def maybeScale : Regex :=
  .times scale 0 (some 1) true

def anyDigits : Regex :=
  .times (.oneOf .digit) 0 none true

/-- A point and digits, or none of it. -/
def maybeFraction : Regex :=
  .times (.cat (.literal ['.']) anyDigits) 0 (some 1) true

def mantissa : Regex :=
  .alt (.cat someDigits maybeFraction) (.cat (.literal ['.']) someDigits)

def floatExpression : Regex :=
  .cat (.cat maybeSign mantissa) maybeScale

def digitsWithScale : Regex :=
  .cat (.cat (.cat someDigits (.oneOf marks)) maybeSign) someDigits

def fractionAlone : Regex :=
  .cat (.cat (.literal ['.']) someDigits) maybeScale

def digitsWithPoint : Regex :=
  .cat (.cat (.cat someDigits (.literal ['.'])) anyDigits) maybeScale

def scaled : Regex :=
  .alt digitsWithScale (.alt fractionAlone digitsWithPoint)

/-- The sign, which all branches begin with, stands in front of them. -/
def strictFloatExpression : Regex :=
  .cat maybeSign scaled

def intExpression : Regex :=
  .cat maybeSign (.times (.oneOf (.range '0' '9')) 1 none true)

theorem parse?_float (properties : Regex.PropertyTable) :
    Regex.parse? properties BaseType.floatSource.toList = some floatExpression :=
  Regex.parse?_of_none (by decide +kernel) properties

theorem parse?_strictFloat (properties : Regex.PropertyTable) :
    Regex.parse? properties BaseType.strictFloatSource.toList = some strictFloatExpression :=
  Regex.parse?_of_none (by decide +kernel) properties

theorem parse?_int (properties : Regex.PropertyTable) :
    Regex.parse? properties "[+-]?[0-9]+".toList = some intExpression :=
  Regex.parse?_of_none (by decide +kernel) properties

/-! ## Members of the sets -/

theorem contains_digit : CharSet.digit.contains = Text.isDecimalDigit :=
  funext fun c => CharSet.contains_ofCodePoints c (by decide)

theorem contains_signs : signs.contains = isSign := by
  funext c
  rw [signs, CharSet.contains_union c (by decide) (by decide), isSign, Bool.eq_iff_iff]
  simp only [Bool.or_eq_true, CharSet.contains_single, beq_iff_eq]

theorem contains_marks : marks.contains = isMark := by
  funext c
  rw [marks, CharSet.contains_union c (by decide) (by decide), isMark, Bool.eq_iff_iff]
  simp only [Bool.or_eq_true, CharSet.contains_single, beq_iff_eq]

theorem contains_asciiDigits : (CharSet.range '0' '9').contains = Decimal.isDigit := by
  funext c
  rw [Bool.eq_iff_iff, CharSet.contains_range c (by decide), Decimal.isDigit, decide_eq_true_iff]
  rfl

theorem isDecimalDigit_of_isDigit {c : Char} (digit : Decimal.isDigit c = true) :
    Text.isDecimalDigit c = true := by
  obtain ⟨low, high⟩ := of_decide_eq_true digit
  have low' : 0x30 ≤ c.toNat := low
  have high' : c.toNat ≤ 0x39 := high
  rw [Text.isDecimalDigit, Text.decimalDigitRanges, Text.CodePoints.contains, if_pos high']
  exact decide_eq_true low'

/-- What a number has besides digits is no digit of any script. -/
theorem isDecimalDigit_eq_false {c : Char} (other : isSign c = true ∨ isMark c = true ∨ c = '.') :
    Text.isDecimalDigit c = false := by
  simp only [isSign, isMark, Bool.or_eq_true, beq_iff_eq] at other
  rcases other with (rfl | rfl) | (rfl | rfl) | rfl <;> decide

/-! ## What the expressions leave -/

section

variable {β : Type} {next : List Char → Option β}

/-- A sign is read where there is one, if nothing is found in front of a sign. -/
theorem findBehind_maybeSign (missed : ∀ c rest, isSign c = true → next (c :: rest) = none)
    (text : List Char) : maybeSign.findBehind next text = next (takeSign text).2 := by
  rw [maybeSign, Regex.findBehind_optional]
  cases text with
  | nil => rfl
  | cons c rest =>
      rw [Regex.findBehind_oneOf_cons, contains_signs, takeSign]
      split_ifs with sign
      · rw [missed c rest sign, Option.or_none]
      · rfl

theorem findBehind_someDigits {text : List Char}
    (settled : (next (text.dropWhile Text.isDecimalDigit)).isSome ∨
      ∀ c rest, Text.isDecimalDigit c = true → next (c :: rest) = none) :
    someDigits.findBehind next text =
      if text.head?.any Text.isDecimalDigit then next (text.dropWhile Text.isDecimalDigit)
      else none := by
  rw [← contains_digit] at settled ⊢
  exact Regex.findBehind_someOf settled

theorem findBehind_anyDigits {text : List Char}
    (found : (next (text.dropWhile Text.isDecimalDigit)).isSome) :
    anyDigits.findBehind next text = next (text.dropWhile Text.isDecimalDigit) := by
  rw [← contains_digit] at found ⊢
  exact Regex.findBehind_anyOf (.inl found)

/-- A fraction is read where there is one, if something is found everywhere behind it. -/
theorem findBehind_maybeFraction (found : ∀ text, (next text).isSome) (text : List Char) :
    maybeFraction.findBehind next text = next (takeFraction text).2 := by
  rw [maybeFraction, Regex.findBehind_optional, Regex.findBehind_cat]
  cases text with
  | nil => rfl
  | cons c rest =>
      rw [Regex.findBehind_char_cons, takeFraction]
      split_ifs
      · rw [findBehind_anyDigits (found _)]
        exact Option.or_of_isSome (found _)
      · rfl

theorem isEmpty_takeWhile {α : Type} (holds : α → Bool) (items : List α) :
    (items.takeWhile holds).isEmpty = !items.head?.any holds := by
  cases items with
  | nil => rfl
  | cons item items => cases here : holds item <;> simp [here]

theorem findBehind_mantissa (found : ∀ text, (next text).isSome) (text : List Char) :
    mantissa.findBehind next text =
      if (scanUnsigned text).1.hasDigits then
        next (takeFraction (text.dropWhile Text.isDecimalDigit)).2
      else none := by
  have behindDigits : someDigits.findBehind (maybeFraction.findBehind next) text = _ :=
    findBehind_someDigits (.inl (by rw [findBehind_maybeFraction found]; exact found _))
  rw [mantissa, Regex.findBehind_alt, Regex.findBehind_cat, Regex.findBehind_cat, behindDigits,
    findBehind_maybeFraction found]
  simp only [scanUnsigned, hasDigits, isEmpty_takeWhile, Bool.not_not]
  cases text with
  | nil => rfl
  | cons c rest =>
      rw [List.head?_cons, Option.any_some]
      by_cases digit : Text.isDecimalDigit c = true
      · rw [digit, if_pos rfl, Bool.true_or, if_pos rfl]
        exact Option.or_of_isSome (found _)
      · rw [if_neg digit, Option.none_or, List.dropWhile_cons_of_neg digit, Regex.findBehind_char_cons,
          findBehind_someDigits (.inl (found _)), takeFraction, Bool.eq_false_iff.mpr digit,
          Bool.false_or]
        by_cases point : c = '.'
        · simp only [if_pos point, List.tail_cons, isEmpty_takeWhile, Bool.not_not]
        · simp [point]

end

theorem findBehind_scale (text : List Char) :
    scale.findBehind some text =
      if (takeExponent text).1.isEmpty then none else some (takeExponent text).2 := by
  have digits : someDigits.findBehind some = fun text =>
      if text.head?.any Text.isDecimalDigit then some (text.dropWhile Text.isDecimalDigit)
      else none :=
    funext fun text => findBehind_someDigits (.inl rfl)
  rw [scale, Regex.findBehind_cat, Regex.findBehind_cat, digits]
  cases text with
  | nil => rfl
  | cons c rest =>
      have unsigned : ∀ c rest, isSign c = true →
          (if (c :: rest).head?.any Text.isDecimalDigit then
            some ((c :: rest).dropWhile Text.isDecimalDigit) else none) = none :=
        fun c rest sign => if_neg (by simp [isDecimalDigit_eq_false (.inl sign)])
      rw [Regex.findBehind_oneOf_cons, contains_marks, findBehind_maybeSign unsigned, takeExponent]
      cases isMark c
      · rfl
      · by_cases digits : (takeSign rest).2.head?.any Text.isDecimalDigit = true <;> simp [digits]

theorem findBehind_maybeScale (text : List Char) :
    maybeScale.findBehind some text = some (takeExponent text).2 := by
  rw [maybeScale, Regex.findBehind_optional, findBehind_scale]
  split_ifs with unscaled
  · have whole := takeExponent_append text
    rw [List.isEmpty_iff.mp unscaled, List.nil_append] at whole
    rw [whole]
    rfl
  · rfl

/-- Digits are not given back, for none of them is a mark. -/
theorem findBehind_digitsWithScale (text : List Char) :
    digitsWithScale.findBehind some text =
      if text.head?.any Text.isDecimalDigit then
        scale.findBehind some (text.dropWhile Text.isDecimalDigit)
      else none := by
  have parts : digitsWithScale.findBehind some = someDigits.findBehind (scale.findBehind some) := by
    simp only [digitsWithScale, scale, Regex.findBehind_cat]
  rw [parts]
  refine findBehind_someDigits (.inr fun c rest digit => ?_)
  have unmarked : isMark c = false := Bool.eq_false_iff.mpr fun mark =>
    Bool.eq_false_iff.mp (isDecimalDigit_eq_false (.inr (.inl mark))) digit
  rw [findBehind_scale, takeExponent, unmarked]
  rfl

theorem findBehind_fractionAlone (c : Char) (rest : List Char) :
    fractionAlone.findBehind some (c :: rest) =
      if c = '.' ∧ rest.head?.any Text.isDecimalDigit then
        some (takeExponent (rest.dropWhile Text.isDecimalDigit)).2
      else none := by
  rw [fractionAlone, Regex.findBehind_cat, Regex.findBehind_cat, Regex.findBehind_char_cons,
    findBehind_someDigits (.inl (by rw [findBehind_maybeScale]; rfl)), findBehind_maybeScale, ite_and]

/-- Digits are not given back, for none of them is a point. -/
theorem findBehind_digitsWithPoint (text : List Char) :
    digitsWithPoint.findBehind some text =
      if text.head?.any Text.isDecimalDigit then
        Regex.findBehind (.literal ['.'])
          (fun rest => some (takeExponent (takeFraction ('.' :: rest)).2).2)
          (text.dropWhile Text.isDecimalDigit)
      else none := by
  have behindPoint : anyDigits.findBehind (maybeScale.findBehind some) =
      fun rest => some (takeExponent (takeFraction ('.' :: rest)).2).2 := by
    funext rest
    rw [findBehind_anyDigits (by rw [findBehind_maybeScale]; rfl), findBehind_maybeScale]
    rfl
  rw [digitsWithPoint, Regex.findBehind_cat, Regex.findBehind_cat, Regex.findBehind_cat, behindPoint]
  refine findBehind_someDigits (.inr fun c rest digit => ?_)
  rw [Regex.findBehind_char_cons, if_neg]
  rintro rfl
  exact absurd digit (by decide)

theorem findBehind_scaled (text : List Char) :
    scaled.findBehind some text =
      let found := scanUnsigned text
      if found.1.hasDigits && found.1.isScaled then some found.2 else none := by
  rw [scaled, Regex.findBehind_alt, Regex.findBehind_alt, findBehind_digitsWithScale,
    findBehind_digitsWithPoint]
  simp only [scanUnsigned, hasDigits, isScaled, isEmpty_takeWhile, Bool.not_not]
  cases text with
  | nil => rfl
  | cons c rest =>
      rw [List.head?_cons, Option.any_some, findBehind_fractionAlone]
      by_cases digit : Text.isDecimalDigit c = true
      · have notPoint : ¬(c = '.' ∧ rest.head?.any Text.isDecimalDigit) := by
          rintro ⟨rfl, -⟩
          exact absurd digit (by decide)
        rw [if_pos digit, if_neg notPoint, Option.none_or, if_pos digit, digit, Bool.true_or,
          Bool.true_and]
        generalize (c :: rest).dropWhile Text.isDecimalDigit = behind
        cases behind with
        | nil => rfl
        | cons d behind =>
            rw [Regex.findBehind_char_cons, findBehind_scale]
            by_cases point : d = '.'
            · have unmarked : takeExponent ('.' :: behind) = ([], '.' :: behind) := rfl
              have fraction : (takeFraction ('.' :: behind)).1.isEmpty = false := rfl
              rw [point, if_pos rfl, unmarked, fraction]
              rfl
            · have whole : takeFraction (d :: behind) = ([], d :: behind) := if_neg point
              rw [if_neg point, Option.or_none, whole]
              cases (takeExponent (d :: behind)).1.isEmpty <;> simp
      · rw [if_neg digit, Option.none_or, if_neg digit, Option.or_none, Bool.eq_false_iff.mpr digit,
          Bool.false_or, List.dropWhile_cons_of_neg digit, takeFraction]
        by_cases point : c = '.'
        · simp only [point, true_and, if_true, List.tail_cons, isEmpty_takeWhile, Bool.not_not,
            List.isEmpty_cons, Bool.not_false, Bool.true_or, Bool.and_true]
        · simp [point]

/-! ## One pass is enough -/

theorem hasDigits_of_isSign {c : Char} (rest : List Char) (sign : isSign c = true) :
    (scanUnsigned (c :: rest)).1.hasDigits = false := by
  have notDigit := isDecimalDigit_eq_false (.inl sign)
  have notPoint : c ≠ '.' := by
    rintro rfl
    exact absurd sign (by decide)
  simp [scanUnsigned, hasDigits, takeFraction, notDigit, notPoint]

theorem scannedBy_float : floatExpression.ScannedBy float where
  left text := by
    have behindMantissa : mantissa.findBehind (maybeScale.findBehind some) = fun text =>
        if (scanUnsigned text).1.hasDigits then some (scanUnsigned text).2 else none := by
      funext text
      rw [findBehind_mantissa fun rest => by rw [findBehind_maybeScale]; rfl, findBehind_maybeScale]
      rfl
    have found : floatExpression.findBehind some text =
        if (scan text).1.hasDigits then some (scan text).2 else none := by
      rw [floatExpression, Regex.findBehind_cat, Regex.findBehind_cat, behindMantissa]
      exact findBehind_maybeSign
        (fun c rest sign => if_neg (by simp [hasDigits_of_isSign rest sign])) text
    rw [found, float]
    split_ifs <;> rfl
  split {text matched rest} found := by
    rw [float] at found
    split_ifs at found
    cases found
    exact (scan_append text).symm

theorem scannedBy_strictFloat : strictFloatExpression.ScannedBy strictFloat where
  left text := by
    have found : strictFloatExpression.findBehind some text =
        if (scan text).1.hasDigits && (scan text).1.isScaled then some (scan text).2 else none := by
      rw [strictFloatExpression, Regex.findBehind_cat, funext findBehind_scaled]
      exact findBehind_maybeSign
        (fun c rest sign => if_neg (by simp [hasDigits_of_isSign rest sign])) text
    rw [found, strictFloat]
    split_ifs <;> rfl
  split {text matched rest} found := by
    rw [strictFloat] at found
    split_ifs at found
    cases found
    exact (scan_append text).symm

theorem scannedBy_int : intExpression.ScannedBy int where
  left text := by
    have digits : Regex.findBehind (.times (.oneOf (.range '0' '9')) 1 none true) some = fun text =>
        if text.head?.any Decimal.isDigit then some (text.dropWhile Decimal.isDigit) else none := by
      funext text
      rw [← contains_asciiDigits]
      exact Regex.findBehind_someOf (.inl rfl)
    have found : intExpression.findBehind some text =
        if (takeSign text).2.head?.any Decimal.isDigit then
          some ((takeSign text).2.dropWhile Decimal.isDigit)
        else none := by
      rw [intExpression, Regex.findBehind_cat, digits]
      refine findBehind_maybeSign (fun c rest sign => if_neg fun digit => ?_) text
      exact Bool.eq_false_iff.mp (isDecimalDigit_eq_false (.inl sign))
        (isDecimalDigit_of_isDigit digit)
    rw [found, int]
    split_ifs <;> rfl
  split {text matched rest} found := by
    rw [int] at found
    split_ifs at found
    cases found
    rw [List.append_assoc, List.takeWhile_append_dropWhile, takeSign_append]

end Numeral

end RuleGrammar
