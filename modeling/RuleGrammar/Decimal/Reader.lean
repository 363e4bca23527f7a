/-!
Owns the reading of numbers from whole texts.

Contract: the text is the number and nothing else. Only the ASCII digits count as digits.
An integer outside the signed 64-bit range is not read; a float is rounded to the nearest
number, to infinity when it is too large, and keeps the sign of zero.
-/

namespace RuleGrammar.Decimal

def isDigit (c : Char) : Bool :=
  decide ('0' ≤ c ∧ c ≤ '9')

def digitValue (c : Char) : Nat :=
  c.toNat - '0'.toNat

/-- The number that a run of digits continues. -/
def extendNat (initial : Nat) (digits : List Char) : Nat :=
  digits.foldl (fun n c => 10 * n + digitValue c) initial

/-- Splits off a sign; `true` is minus. -/
def splitSign : List Char → Bool × List Char
  | '-' :: rest => (true, rest)
  | '+' :: rest => (false, rest)
  | text => (false, text)

def signed (negative : Bool) (n : Nat) : Int :=
  if negative then -(n : Int) else n

def int64? (n : Int) : Option Int64 :=
  if -(Nat.pow 2 63) ≤ n ∧ n < Nat.pow 2 63 then some (Int64.ofInt n) else none

def readInt? (text : List Char) : Option Int64 :=
  let (negative, digits) := splitSign text
  if digits ≠ [] ∧ digits.all isDigit then
    int64? (signed negative (extendNat 0 digits))
  else
    none

/-- The number `significand * 10 ^ exponent`, with a sign of its own so that zero has one. -/
structure Scientific where
  negative : Bool
  significand : Nat
  exponent : Int
deriving DecidableEq, Repr

/-- The exponent part; nothing at all stands for zero. -/
def readExponent? : List Char → Option Int
  | [] => some 0
  | mark :: rest =>
      if mark = 'e' ∨ mark = 'E' then
        let (negative, digits) := splitSign rest
        if digits ≠ [] ∧ digits.all isDigit then
          some (signed negative (extendNat 0 digits))
        else
          none
      else
        none

/-- Digits with at most one point among them, at least one digit, and an exponent part. -/
def readScientific? (text : List Char) : Option Scientific :=
  let (negative, body) := splitSign text
  let whole := body.takeWhile isDigit
  let afterWhole := body.dropWhile isDigit
  let (fraction, afterFraction) :=
    match afterWhole with
    | '.' :: rest => (rest.takeWhile isDigit, rest.dropWhile isDigit)
    | _ => ([], afterWhole)
  if whole = [] ∧ fraction = [] then
    none
  else do
    let exponent ← readExponent? afterFraction
    some ⟨negative, extendNat 0 (whole ++ fraction), exponent - fraction.length⟩

/-- The nearest floating-point number. Beyond 400 places the answer is zero or infinity whatever
the digits are. -/
def Scientific.toFloat (number : Scientific) : Float :=
  let place := number.exponent + (Nat.toDigits 10 number.significand).length
  let magnitude :=
    if number.significand = 0 ∨ place < -400 then
      0.0
    else if 400 < place then
      1.0 / 0.0
    else
      Float.ofScientific number.significand (decide (number.exponent < 0)) number.exponent.natAbs
  if number.negative then -magnitude else magnitude

/-- Names of the numbers that have no digits, without regard to case. -/
def namedFloat? (body : List Char) : Option Float :=
  let name := String.ofList (body.map Char.toLower)
  if name = "inf" ∨ name = "infinity" then some (1.0 / 0.0)
  else if name = "nan" then some (0.0 / 0.0)
  else none

def readFloat? (text : List Char) : Option Float :=
  let (negative, body) := splitSign text
  match namedFloat? body with
  | some x => some (if negative then -x else x)
  | none => (readScientific? text).map Scientific.toFloat

end RuleGrammar.Decimal
