import RuleGrammar.Decimal.Layout
import RuleGrammar.Decimal.Reader

/-!
Owns JSON values and their written forms.

An integer and a float are different values even when they are the same number. Members keep the
order in which they were given. A writer puts a value in front of the text that follows it.
-/

namespace RuleGrammar

inductive Json where
  | null
  | bool (b : Bool)
  | int (n : Int)
  | float (x : Float)
  | string (s : String)
  | array (items : List Json)
  | object (members : List (String × Json))
deriving Repr

namespace Json

/-- A control character without a short escape takes four hexadecimal digits. -/
def escapeChar (c : Char) : List Char :=
  match c with
  | '"' => ['\\', '"']
  | '\\' => ['\\', '\\']
  | '\x08' => ['\\', 'b']
  | '\x0c' => ['\\', 'f']
  | '\n' => ['\\', 'n']
  | '\r' => ['\\', 'r']
  | '\t' => ['\\', 't']
  | c =>
      if c.toNat < 32 then
        ['\\', 'u', '0', '0', Nat.digitChar (c.toNat / 16), Nat.digitChar (c.toNat % 16)]
      else
        [c]

def writeString (s : String) (tail : List Char) : List Char :=
  '"' :: (s.toList.flatMap escapeChar ++ '"' :: tail)

def intChars (n : Int) : List Char :=
  if n < 0 then '-' :: Decimal.digitChars n.natAbs else Decimal.digitChars n.natAbs

/-- Numbers without a decimal form are written as `null`. -/
def floatChars (x : Float) : List Char :=
  ((Decimal.dataText? x).getD "null").toList

def boolChars (b : Bool) : List Char :=
  if b then ['t', 'r', 'u', 'e'] else ['f', 'a', 'l', 's', 'e']

/-! ## Indented form -/

/-- A new line, indented by two spaces for each level. -/
def newLine (level : Nat) (tail : List Char) : List Char :=
  '\n' :: (List.replicate (2 * level) ' ' ++ tail)

mutual

/-- The form with one item or member a line; `level` is that of the value's own line. -/
def writePretty (level : Nat) : Json → List Char → List Char
  | .null, tail => ['n', 'u', 'l', 'l'] ++ tail
  | .bool b, tail => boolChars b ++ tail
  | .int n, tail => intChars n ++ tail
  | .float x, tail => floatChars x ++ tail
  | .string s, tail => writeString s tail
  | .array [], tail => '[' :: ']' :: tail
  | .array (item :: items), tail =>
      '[' :: newLine (level + 1) (writePretty (level + 1) item
        (writePrettyItems level items (newLine level (']' :: tail))))
  | .object [], tail => '\x7b' :: '\x7d' :: tail
  | .object ((key, value) :: members), tail =>
      '\x7b' :: newLine (level + 1) (writeString key (':' :: ' ' :: writePretty (level + 1) value
        (writePrettyMembers level members (newLine level ('\x7d' :: tail)))))

def writePrettyItems (level : Nat) : List Json → List Char → List Char
  | [], tail => tail
  | item :: items, tail =>
      ',' :: newLine (level + 1) (writePretty (level + 1) item (writePrettyItems level items tail))

def writePrettyMembers (level : Nat) : List (String × Json) → List Char → List Char
  | [], tail => tail
  | (key, value) :: members, tail =>
      ',' :: newLine (level + 1) (writeString key (':' :: ' ' :: writePretty (level + 1) value
        (writePrettyMembers level members tail)))

end

def pretty (json : Json) : String :=
  String.ofList (json.writePretty 0 [])

/-! ## Compact form -/

mutual

def writeCompact : Json → List Char → List Char
  | .null, tail => ['n', 'u', 'l', 'l'] ++ tail
  | .bool b, tail => boolChars b ++ tail
  | .int n, tail => intChars n ++ tail
  | .float x, tail => floatChars x ++ tail
  | .string s, tail => writeString s tail
  | .array [], tail => '[' :: ']' :: tail
  | .array (item :: items), tail =>
      '[' :: writeCompact item (writeCompactItems items (']' :: tail))
  | .object [], tail => '\x7b' :: '\x7d' :: tail
  | .object ((key, value) :: members), tail =>
      '\x7b' :: writeString key (':' :: writeCompact value
        (writeCompactMembers members ('\x7d' :: tail)))

def writeCompactItems : List Json → List Char → List Char
  | [], tail => tail
  | item :: items, tail => ',' :: writeCompact item (writeCompactItems items tail)

def writeCompactMembers : List (String × Json) → List Char → List Char
  | [], tail => tail
  | (key, value) :: members, tail =>
      ',' :: writeString key (':' :: writeCompact value (writeCompactMembers members tail))

end

def compact (json : Json) : String :=
  String.ofList (json.writeCompact [])

end Json

end RuleGrammar
