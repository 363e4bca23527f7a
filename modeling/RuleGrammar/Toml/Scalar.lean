import RuleGrammar.Decimal.Reader
import RuleGrammar.Text.Digit
import RuleGrammar.Text.Offset
import RuleGrammar.Toml.Basic

/-!
Owns numbers, truth values, dates and times: the values that are written without quotes and
brackets, each a run of characters that is judged as a whole.

Contract: a run that has the form of none of them is malformed. The form of a number leaves some runs
without a value: an integer beyond 128 bits, a float beyond the range of floats, a base mark with no
digits, and a decimal integer in which other characters follow an underscore and a digit.
-/

namespace RuleGrammar.Toml

/-! ## Underscores -/

/-- The parts of a text between underscores. -/
def underscoreParts (text : List Char) : List (List Char) :=
  text.foldr
    (fun c parts =>
      match parts with
      | part :: parts => if c = '_' then [] :: part :: parts else (c :: part) :: parts
      | [] => [])
    [[]]

/-- A part before an underscore ends in a digit, unless it is a single character at the start. -/
def endsInDigit (isDigit : Char → Bool) (part : List Char) : Bool :=
  part.getLast?.all isDigit

/-- The parts behind the first one: each starts with a digit, and each but the last ends in one. -/
def areJoinable (isDigit : Char → Bool) : List (List Char) → Bool
  | [] => true
  | [part] => part.head?.all isDigit
  | part :: parts =>
      !part.isEmpty && part.head?.all isDigit && endsInDigit isDigit part &&
        areJoinable isDigit parts

/-- The text without underscores, which must stand between digits; nothing stands before the first one
but digits or a sign. -/
def joinDigits? (isDigit : Char → Bool) (text : List Char) : Option (List Char) :=
  match underscoreParts text with
  | first :: rest =>
      if rest.isEmpty then
        some text
      else if first.isEmpty || rest.getLast?.all List.isEmpty then
        none
      else if (first.length = 1 || endsInDigit isDigit first) && areJoinable isDigit rest then
        some (text.filter (· != '_'))
      else
        none
  | [] => none

/-! ## Numbers -/

def isDigitInBase (base : Nat) (c : Char) : Bool :=
  (Text.digitValue? base c).isSome

def natInBase (base : Nat) (digits : List Char) : Nat :=
  digits.foldl (fun n c => base * n + (Text.digitValue? base c).getD 0) 0

/-- Digits of a decimal whole number: no leading zero unless it is zero. -/
def hasLeadingZero : List Char → Bool
  | '0' :: _ :: _ => true
  | _ => false

/-- Integers have a value within 128 bits, with a sign or without. -/
def ofInt (n : Int) : Toml :=
  if -(Nat.pow 2 127) ≤ n ∧ n < Nat.pow 2 128 then .integer n else .unreadable

/-- What follows the mark of a base. -/
def readInBase? (base : Nat) (text : List Char) : Option Toml :=
  if text.all fun c => c == '_' || isDigitInBase base c then
    (joinDigits? (isDigitInBase 16) text).map fun digits =>
      if digits.isEmpty then .unreadable else ofInt (natInBase base digits)
  else
    none

/-- Reads an integer without the mark of a base. -/
def readDecimal? (text : List Char) : Option Toml := do
  let joined ← joinDigits? (isDigitInBase 16) text
  let (negative, digits) := Decimal.splitSign joined
  if hasLeadingZero digits then
    none
  else if digits ≠ [] ∧ digits.all Decimal.isDigit then
    some (ofInt (Decimal.signed negative (Decimal.extendNat 0 digits)))
  else
    some .unreadable

def isExponentMark (c : Char) : Bool :=
  c == 'e' || c == 'E'

def areDigits (text : List Char) : Bool :=
  !text.isEmpty && text.all Decimal.isDigit

/-- Digits, then a fraction or an exponent or both. An exponent may have leading zeros. -/
def isFloatForm (unsigned : List Char) : Bool :=
  let mantissa := unsigned.takeWhile (!isExponentMark ·)
  let exponent := unsigned.dropWhile (!isExponentMark ·)
  let whole := mantissa.takeWhile (· != '.')
  let fraction := mantissa.dropWhile (· != '.')
  areDigits whole && !hasLeadingZero whole &&
    !(fraction.isEmpty && exponent.isEmpty) &&
    (fraction.isEmpty || areDigits (fraction.drop 1)) &&
    (exponent.isEmpty || areDigits (Decimal.splitSign (exponent.drop 1)).2)

def readFloat? (text : List Char) : Option Toml := do
  let joined ← joinDigits? Decimal.isDigit text
  if isFloatForm (Decimal.splitSign joined).2 then
    match Decimal.readFloat? joined with
    | some x => some (if x.isInf then .unreadable else .float x)
    | none => none
  else
    none

def namedFloat? (negative : Bool) (unsigned : List Char) : Option Float :=
  match unsigned with
  | ['i', 'n', 'f'] => some (if negative then -(1.0 / 0.0) else 1.0 / 0.0)
  | ['n', 'a', 'n'] => some (0.0 / 0.0)
  | _ => none

/-! ## Dates and times -/

/-- A number of exactly so many digits. -/
def readDigits? (count : Nat) (text : List Char) : Option (Nat × List Char) :=
  let digits := text.take count
  if digits.length = count ∧ digits.all Decimal.isDigit then
    some (Decimal.extendNat 0 digits, text.drop count)
  else
    none

def isLeapYear (year : Nat) : Bool :=
  decide (year % 4 = 0 ∧ (year % 100 ≠ 0 ∨ year % 400 = 0))

def daysInMonth (year month : Nat) : Nat :=
  if month = 2 then (if isLeapYear year then 29 else 28)
  else if month = 4 ∨ month = 6 ∨ month = 9 ∨ month = 11 then 30
  else 31

/-- The text behind a date. -/
def dropDate? (text : List Char) : Option (List Char) := do
  let (year, rest) ← readDigits? 4 text
  let (month, rest) ← readDigits? 2 (← Text.dropPrefix? ['-'] rest)
  let (day, rest) ← readDigits? 2 (← Text.dropPrefix? ['-'] rest)
  if 1 ≤ month ∧ month ≤ 12 ∧ 1 ≤ day ∧ day ≤ daysInMonth year month then some rest else none

/-- The text behind a time, with a fraction of a second if there is one. -/
def dropTime? (text : List Char) : Option (List Char) := do
  let (hour, rest) ← readDigits? 2 text
  let (minute, rest) ← readDigits? 2 (← Text.dropPrefix? [':'] rest)
  let (second, rest) ← readDigits? 2 (← Text.dropPrefix? [':'] rest)
  if hour ≤ 23 ∧ minute ≤ 59 ∧ second ≤ 60 then
    match rest with
    | '.' :: digits =>
        if (digits.takeWhile Decimal.isDigit).isEmpty then none
        else some (digits.dropWhile Decimal.isDigit)
    | _ => some rest
  else
    none

def isOffset (text : List Char) : Bool :=
  match text with
  | [c] => c == 'Z' || c == 'z'
  | sign :: rest =>
      (sign == '+' || sign == '-') &&
        match readDigits? 2 rest with
        | some (hour, ':' :: rest) =>
            match readDigits? 2 rest with
            | some (minute, []) => decide (hour ≤ 23 ∧ minute ≤ 59)
            | _ => false
        | _ => false
  | [] => false

def isDateTimeMark (c : Char) : Bool :=
  c == 'T' || c == 't' || c == ' '

/-- A date, a time, or both with an offset or without. -/
def isDateTime (text : List Char) : Bool :=
  match dropDate? text with
  | some [] => true
  | some (mark :: rest) =>
      isDateTimeMark mark &&
        match dropTime? rest with
        | some [] => true
        | some offset => isOffset offset
        | none => false
  | none => dropTime? text == some []

/-! ## Scalars -/

/-- Numbers, dates and times are told apart by what follows the digits at the start. -/
def readNumber? (text : List Char) : Option Toml :=
  let (negative, unsigned) := Decimal.splitSign text
  match namedFloat? negative unsigned with
  | some x => some (.float x)
  | none =>
      match unsigned.dropWhile Decimal.isDigit with
      | [] => if unsigned.isEmpty then none else readDecimal? text
      | '_' :: rest =>
          if rest.any fun c => c == '.' || isExponentMark c then readFloat? text
          else readDecimal? text
      | c :: rest =>
          if c = '-' ∨ c = ':' then
            if isDateTime text then some (.dateTime (String.ofList text)) else none
          else if (c :: rest).any fun c => c == '.' || isExponentMark c then
            readFloat? text
          else
            none

def readScalar? (text : List Char) : Option Toml :=
  match text with
  | ['t', 'r', 'u', 'e'] => some (.boolean true)
  | ['f', 'a', 'l', 's', 'e'] => some (.boolean false)
  | '0' :: 'x' :: digits => readInBase? 16 digits
  | '0' :: 'o' :: digits => readInBase? 8 digits
  | '0' :: 'b' :: digits => readInBase? 2 digits
  | text => readNumber? text

/-- Characters that end a scalar. -/
def scalarEnds : List Char :=
  [' ', '\t', '\n', '\r', '#', ',', '=', '[', ']', '\x7b', '\x7d']

def isScalarChar (c : Char) : Bool :=
  !scalarEnds.contains c

/-- The run of characters of a scalar. A blank may stand between a date and a time. -/
def scalarText (text : List Char) : List Char × List Char :=
  let run := text.takeWhile isScalarChar
  let rest := text.dropWhile isScalarChar
  match rest with
  | ' ' :: next :: more =>
      if dropDate? run == some [] && Decimal.isDigit next then
        (run ++ ' ' :: (next :: more).takeWhile isScalarChar, (next :: more).dropWhile isScalarChar)
      else
        (run, rest)
  | _ => (run, rest)

end RuleGrammar.Toml
