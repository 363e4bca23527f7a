import RuleGrammar.Decimal.Shortest

/-!
Owns the written forms of floating-point numbers.

A layout says which numbers are written without an exponent and whether a whole number keeps
a fractional digit. Two layouts are in use: `Layout.plain`, which never writes an exponent,
and `Layout.data`, the one of data files.
-/

namespace RuleGrammar.Decimal

structure Layout where
  tie : Tie
  /-- Places of the leading digit that are written without an exponent. -/
  positional : Int → Bool
  /-- Whether a whole number written without an exponent ends in `.0`. -/
  wholeFraction : Bool

/-- Never an exponent, no fraction for whole numbers, and a tie goes up. -/
def Layout.plain : Layout :=
  { tie := .up, positional := fun _ => true, wholeFraction := false }

/-- No exponent from `0.00001` to below `1e+16`, always a fraction there, and a tie goes to the
even digit. -/
def Layout.data : Layout :=
  { tie := .even, positional := fun place => decide (-5 ≤ place ∧ place ≤ 15), wholeFraction := true }

def digitChars (n : Nat) : List Char :=
  Nat.toDigits 10 n

/-- A whole part of at least one digit, then the fraction if there is one. -/
def positionalChars (wholeFraction : Bool) (scaled : Scaled) : List Char :=
  let digits := digitChars scaled.digits
  if 0 ≤ scaled.exponent then
    let zeros := if scaled.digits = 0 then 0 else scaled.exponent.toNat
    digits ++ List.replicate zeros '0' ++ (if wholeFraction then ['.', '0'] else [])
  else
    let places := (-scaled.exponent).toNat
    let padded := List.replicate (places + 1 - digits.length) '0' ++ digits
    let whole := padded.length - places
    padded.take whole ++ '.' :: padded.drop whole

/-- One digit, the others after a point, and a signed exponent. -/
def scientificChars (scaled : Scaled) : List Char :=
  let digits := digitChars scaled.digits
  let place := scaled.exponent + digits.length - 1
  let sign := if place < 0 then '-' else '+'
  let fraction := if digits.length ≤ 1 then [] else '.' :: digits.drop 1
  digits.take 1 ++ fraction ++ 'e' :: sign :: digitChars place.natAbs

def Layout.finiteChars (layout : Layout) (negative : Bool) (significand : Nat) (exponent : Int) :
    List Char :=
  let scaled := shortest layout.tie significand exponent
  let place := scaled.exponent + (digitChars scaled.digits).length - 1
  let body :=
    if layout.positional place then
      positionalChars layout.wholeFraction scaled
    else
      scientificChars scaled
  if negative then '-' :: body else body

/-- The number as text in a message: infinities and the undefined number have names. -/
def plainText (x : Float) : String :=
  match Binary.ofFloat x with
  | .nan => "NaN"
  | .infinite negative => if negative then "-inf" else "inf"
  | .finite negative significand exponent =>
      String.ofList (Layout.plain.finiteChars negative significand exponent)

/-- The number as it stands in a data file, where only finite numbers have a form. -/
def dataText? (x : Float) : Option String :=
  match Binary.ofFloat x with
  | .finite negative significand exponent =>
      some (String.ofList (Layout.data.finiteChars negative significand exponent))
  | _ => none

end RuleGrammar.Decimal
