import RuleGrammar.Decimal.Layout
import RuleGrammar.Decimal.Reader
import RuleGrammar.Text.Quoted

/-!
Owns scalar values and the kinds that matched text is converted to.

Contract: `ValueKind.convert` looks at the whole text. Texts and truth values always convert;
numbers convert when the text is one, in full.
-/

namespace RuleGrammar

inductive ValueKind where
  | text
  | bool
  | int
  | float
deriving DecidableEq, Repr

inductive Value where
  | bool (b : Bool)
  | int (n : Int64)
  | float (x : Float)
  | text (s : String)
deriving Repr

namespace ValueKind

def all : List ValueKind :=
  [.text, .bool, .int, .float]

def name : ValueKind → String
  | .text => "text"
  | .bool => "bool"
  | .int => "int"
  | .float => "float"

def ofName? (name : String) : Option ValueKind :=
  all.find? (·.name == name)

/-- The letters of the word in any case; only ASCII letters have a case here. -/
def readTruth (text : List Char) : Bool :=
  text.map Char.toLower == ['t', 'r', 'u', 'e']

def convert (kind : ValueKind) (text : List Char) : Option Value :=
  match kind with
  | .text => some (.text (String.ofList text))
  | .bool => some (.bool (readTruth text))
  | .int => (Decimal.readInt? text).map .int
  | .float => (Decimal.readFloat? text).map .float

end ValueKind

namespace Value

def asText? : Value → Option String
  | .text s => some s
  | _ => none

def asBool? : Value → Option Bool
  | .bool b => some b
  | _ => none

def asInt? : Value → Option Int64
  | .int n => some n
  | _ => none

/-- Integers widen to the nearest float. -/
def asFloat? : Value → Option Float
  | .float x => some x
  | .int n => some (Float.ofInt n.toInt)
  | _ => none

/-- Values of different kinds differ. Floats compare as numbers, so the undefined number
differs from itself and the two zeros are equal. -/
def beq : Value → Value → Bool
  | .bool a, .bool b => a == b
  | .int a, .int b => a == b
  | .float a, .float b => a == b
  | .text a, .text b => a == b
  | _, _ => false

instance : BEq Value := ⟨beq⟩

def boolText (b : Bool) : String :=
  if b then "true" else "false"

/-- The value on one line. -/
def shown : Value → String
  | .bool b => boolText b
  | .int n => toString n.toInt
  | .float x => Decimal.plainText x
  | .text s => Text.quoted s

end Value

end RuleGrammar
