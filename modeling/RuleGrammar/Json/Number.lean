import RuleGrammar.Json.Basic

/-!
Owns the reading of JSON numbers.

A number without a fraction and an exponent is an integer as long as it fits 64 bits, signed or
unsigned; minus zero is a float. Any other number is a float: as many leading digits as fit 64 bits,
scaled by one power of ten, so that it may differ from the nearest float in the last place. A number
too large for a float is refused.
-/

namespace RuleGrammar.Json

/-- Leading digits that fit 64 bits, and the power of ten to scale them by. -/
structure Scale where
  significand : Nat
  exponent : Int
deriving DecidableEq, Repr

def significandLimit : Nat := UInt64.size

def exponentLimit : Nat := Nat.pow 2 31

/-- Takes digits while the number fits 64 bits; the flag says that one did not. -/
def takeDigits (significand : Nat) : List Char → (Nat × Nat × Bool)
  | [] => (significand, 0, false)
  | c :: rest =>
      let next := 10 * significand + Decimal.digitValue c
      if next < significandLimit then
        let (total, count, full) := takeDigits next rest
        (total, count + 1, full)
      else
        (significand, 0, true)

def powerOfTen (exponent : Nat) : Float :=
  Float.ofScientific 1 false exponent

/-- Scales in steps that stay within the range of floats. -/
def scaleFloat : (fuel : Nat) → Float → Int → Option Float
  | 0, x, _ => some x
  | fuel + 1, x, exponent =>
      if exponent.natAbs ≤ 308 then
        if 0 ≤ exponent then
          let scaled := x * powerOfTen exponent.natAbs
          if scaled.isInf then none else some scaled
        else
          some (x / powerOfTen exponent.natAbs)
      else if x == 0.0 then
        some x
      else if 0 ≤ exponent then
        none
      else
        scaleFloat fuel (x / powerOfTen 308) (exponent + 308)

def Scale.toFloat? (scale : Scale) : Option Float :=
  scaleFloat 20 (Float.ofNat scale.significand) scale.exponent

/-- A number taken apart: its digits before and after the point, and its exponent. -/
structure NumberText where
  negative : Bool
  whole : List Char
  fraction : Option (List Char)
  exponent : Option (Bool × List Char)
deriving DecidableEq, Repr

/-- Digits, at least one. -/
def readDigitRun (text : List Char) : Option (List Char × List Char) :=
  let digits := text.takeWhile Decimal.isDigit
  if digits.isEmpty then none else some (digits, text.dropWhile Decimal.isDigit)

/-- A whole part has no leading zero unless it is zero. -/
def readWhole (text : List Char) : Option (List Char × List Char) :=
  match readDigitRun text with
  | some ('0' :: _ :: _, _) => none
  | result => result

def readFraction : List Char → Option (Option (List Char) × List Char)
  | '.' :: rest => (readDigitRun rest).map fun (digits, rest) => (some digits, rest)
  | text => some (none, text)

def readExponent : List Char → Option (Option (Bool × List Char) × List Char)
  | mark :: rest =>
      if mark = 'e' ∨ mark = 'E' then
        let (negative, digits) := Decimal.splitSign rest
        (readDigitRun digits).map fun (digits, rest) => (some (negative, digits), rest)
      else
        some (none, mark :: rest)
  | [] => some (none, [])

def readNumberText (text : List Char) : Option (NumberText × List Char) := do
  let (negative, unsigned) :=
    match text with
    | '-' :: rest => (true, rest)
    | _ => (false, text)
  let (whole, rest) ← readWhole unsigned
  let (fraction, rest) ← readFraction rest
  let (exponent, rest) ← readExponent rest
  some (⟨negative, whole, fraction, exponent⟩, rest)

/-- The leading digits of the number: when the whole part does not fit, its other digits only count,
and a fraction that does not fit is cut off. -/
def NumberText.scale (number : NumberText) : Scale :=
  let (whole, wholeCount, full) := takeDigits 0 number.whole
  let surplus : Int := if full then (number.whole.length - wholeCount : Nat) else 0
  let (total, count, _) := takeDigits whole (number.fraction.getD [])
  ⟨total, surplus - count⟩

def applySign (negative : Bool) (x : Float) : Float :=
  if negative then -x else x

/-- The float that a number with a fraction, an exponent or too many digits stands for. -/
def NumberText.toFloat? (number : NumberText) : Option Float :=
  let scale := number.scale
  match number.exponent with
  | none => scale.toFloat?.map (applySign number.negative)
  | some (negative, digits) =>
      let exponent := Decimal.extendNat 0 digits
      if exponentLimit ≤ exponent then
        if scale.significand ≠ 0 ∧ ¬negative then none else some (applySign number.negative 0.0)
      else
        ({ scale with exponent := scale.exponent + Decimal.signed negative exponent } : Scale).toFloat?.map
          (applySign number.negative)

/-- The value of a number; `none` when it is out of range. -/
def NumberText.value? (number : NumberText) : Option Json :=
  if number.fraction.isNone ∧ number.exponent.isNone then
    let n := Decimal.extendNat 0 number.whole
    if n < significandLimit then
      if !number.negative then some (.int n)
      else if n = 0 ∨ Nat.pow 2 63 < n then some (.float (-Float.ofNat n))
      else some (.int (-n))
    else
      number.toFloat?.map .float
  else
    number.toFloat?.map .float

end RuleGrammar.Json
