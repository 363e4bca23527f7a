/-!
Owns the shortest decimal of a floating-point number: the fewest digits that read back as the
same number, and of those the nearest to it.

A finite number is taken apart into `significand * 2 ^ exponent`. The decimals that read back
as it form an interval around it, whose ends belong to it when the significand is even. For
each digit count in turn the two neighbours of the number on that decimal grid are tested in
exact arithmetic; the first count with a hit wins.
-/

namespace RuleGrammar.Decimal

/-- What the bits of a floating-point number stand for. -/
inductive Binary where
  | nan
  | infinite (negative : Bool)
  | finite (negative : Bool) (significand : Nat) (exponent : Int)
deriving DecidableEq, Repr

def Binary.ofFloat (x : Float) : Binary :=
  let bits := x.toBits.toNat
  let negative := decide (Nat.pow 2 63 ≤ bits)
  let field : Nat := bits / Nat.pow 2 52 % Nat.pow 2 11
  let fraction : Nat := bits % Nat.pow 2 52
  if field = 2047 then
    if fraction = 0 then .infinite negative else .nan
  else if field = 0 then
    .finite negative fraction (-1074 : Int)
  else
    .finite negative (Nat.pow 2 52 + fraction) ((field : Int) - 1075)

/-- The number `digits * 10 ^ exponent`. -/
structure Scaled where
  digits : Nat
  exponent : Int
deriving DecidableEq, Repr

/-- Which of two equally near decimals is taken. -/
inductive Tie where
  | up
  | even
deriving DecidableEq, Repr

/-- A positive number as a quotient, with the ends of its rounding interval over the same
denominator. -/
structure Interval where
  low : Nat
  value : Nat
  high : Nat
  denominator : Nat
  closed : Bool
deriving DecidableEq, Repr

/-- Below a power of two the neighbouring number is half as far away as above it. -/
def Interval.around (significand : Nat) (exponent : Int) : Interval :=
  let scale := Nat.pow 2 exponent.toNat
  let below := if significand = Nat.pow 2 52 ∧ -1074 < exponent then 1 else 2
  { low := (4 * significand - below) * scale
    value := 4 * significand * scale
    high := (4 * significand + 2) * scale
    denominator := 4 * Nat.pow 2 (-exponent).toNat
    closed := significand % 2 = 0 }

/-- Change of unit: the interval measured in steps of `10 ^ exponent`. -/
def Interval.inSteps (interval : Interval) (exponent : Int) : Interval :=
  let finer := Nat.pow 10 (-exponent).toNat
  { interval with
    low := interval.low * finer
    value := interval.value * finer
    high := interval.high * finer
    denominator := interval.denominator * Nat.pow 10 exponent.toNat }

def Interval.holds (interval : Interval) (count : Nat) : Bool :=
  let point := count * interval.denominator
  if interval.closed then
    decide (interval.low ≤ point ∧ point ≤ interval.high)
  else
    decide (interval.low < point ∧ point < interval.high)

/-- The nearer of the two whole step counts around the value that lie in the interval. -/
def Interval.nearest? (interval : Interval) (tie : Tie) : Option Nat :=
  let below := interval.value / interval.denominator
  let above := below + 1
  match interval.holds below && decide (0 < below), interval.holds above with
  | false, false => none
  | true, false => some below
  | false, true => some above
  | true, true =>
      let down := interval.value - below * interval.denominator
      let up := above * interval.denominator - interval.value
      if down < up then some below
      else if up < down then some above
      else match tie with
        | .up => some above
        | .even => if below % 2 = 0 then some below else some above

/-- Position of the first digit: the greatest `place` with `10 ^ place` at most the quotient. -/
def leadingPlace (numerator denominator : Nat) : Int :=
  if denominator ≤ numerator then
    ((Nat.toDigits 10 (numerator / denominator)).length : Int) - 1
  else
    -(raise 1100 1)
where
  raise : Nat → Nat → Nat
    | 0, place => place
    | fuel + 1, place =>
        if denominator ≤ numerator * Nat.pow 10 place then place else raise fuel (place + 1)

/-- Moves trailing zeros of the digits into the exponent. -/
def stripZeros : Nat → Scaled → Scaled
  | 0, scaled => scaled
  | fuel + 1, scaled =>
      if scaled.digits ≠ 0 ∧ scaled.digits % 10 = 0 then
        stripZeros fuel ⟨scaled.digits / 10, scaled.exponent + 1⟩
      else
        scaled

/-- Tries the digit counts from `count` on; seventeen digits always suffice. -/
def searchDigits (interval : Interval) (place : Int) (tie : Tie) : Nat → Nat → Scaled
  | 0, _ => ⟨interval.value / interval.denominator, 0⟩
  | fuel + 1, count =>
      let exponent := place + 1 - count
      match (interval.inSteps exponent).nearest? tie with
      | some digits => stripZeros 20 ⟨digits, exponent⟩
      | none => searchDigits interval place tie fuel (count + 1)

/-- The shortest decimal of `significand * 2 ^ exponent`. -/
def shortest (tie : Tie) (significand : Nat) (exponent : Int) : Scaled :=
  if significand = 0 then
    ⟨0, 0⟩
  else
    let interval := Interval.around significand exponent
    searchDigits interval (leadingPlace interval.value interval.denominator) tie 17 1

end RuleGrammar.Decimal
