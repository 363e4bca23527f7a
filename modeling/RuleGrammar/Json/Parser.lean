import RuleGrammar.Json.Number
import RuleGrammar.Text.Digit
import RuleGrammar.Text.Reader

/-!
Owns the reading of JSON texts.

A text is read strictly: strings are well-formed, numbers are in range, and values nest at most 127
deep. The outermost object may have members that nobody asks for; of those only the form is checked.
-/

namespace RuleGrammar.Json

def isSpace (c : Char) : Bool :=
  c == ' ' || c == '\n' || c == '\t' || c == '\r'

def skipSpace (text : List Char) : List Char :=
  text.dropWhile isSpace

/-- How values are read: in full, or for their form only. -/
inductive Care where
  | full
  | form
deriving DecidableEq, Repr

/-! ## Strings -/

def readUnit : Reader Nat
  | a :: b :: c :: d :: rest => do
      let a ← Text.digitValue? 16 a
      let b ← Text.digitValue? 16 b
      let c ← Text.digitValue? 16 c
      let d ← Text.digitValue? 16 d
      some (4096 * a + 256 * b + 16 * c + d, rest)
  | _ => none

/-- What follows `\u`. Two halves of a surrogate pair make one character; a half alone is refused
unless only the form matters. -/
def readUnicode (care : Care) : Reader Char := fun text => do
  let (unit, rest) ← readUnit text
  match care with
  | .form => some ('?', rest)
  | .full =>
      if 0xD800 ≤ unit ∧ unit < 0xDC00 then
        match rest with
        | '\\' :: 'u' :: rest => do
            let (low, rest) ← readUnit rest
            if 0xDC00 ≤ low ∧ low < 0xE000 then
              some (Char.ofNat (0x10000 + 1024 * (unit - 0xD800) + (low - 0xDC00)), rest)
            else
              none
        | _ => none
      else if 0xDC00 ≤ unit ∧ unit < 0xE000 then
        none
      else
        some (Char.ofNat unit, rest)

def readEscape (care : Care) : Reader Char
  | '"' :: rest => some ('"', rest)
  | '\\' :: rest => some ('\\', rest)
  | '/' :: rest => some ('/', rest)
  | 'b' :: rest => some ('\x08', rest)
  | 'f' :: rest => some ('\x0c', rest)
  | 'n' :: rest => some ('\n', rest)
  | 'r' :: rest => some ('\r', rest)
  | 't' :: rest => some ('\t', rest)
  | 'u' :: rest => readUnicode care rest
  | _ => none

/-- What follows the opening quote. -/
def readChars (care : Care) : (fuel : Nat) → Reader (List Char)
  | 0, _ => none
  | _ + 1, [] => none
  | _ + 1, '"' :: rest => some ([], rest)
  | fuel + 1, '\\' :: rest =>
      match readEscape care rest with
      | none => none
      | some (c, rest) => (readChars care fuel rest).map fun (cs, left) => (c :: cs, left)
  | fuel + 1, c :: rest =>
      if c.toNat < 32 then
        none
      else
        (readChars care fuel rest).map fun (cs, left) => (c :: cs, left)

def readString (care : Care) : Reader String := fun text =>
  (readChars care (text.length + 1) text).map fun (cs, rest) => (String.ofList cs, rest)

def readNumber (care : Care) : Reader Json := fun text => do
  let (number, rest) ← readNumberText text
  match care with
  | .form => some (.null, rest)
  | .full => (number.value?).map (·, rest)

/-! ## Values -/

def nestingLimit : Nat := 127

mutual

/-- A value that `depth` more levels may be nested in. Where only the form matters there is no such
limit. -/
def readValue (care : Care) : (fuel depth : Nat) → Reader Json
  | 0, _, _ => none
  | fuel + 1, depth, text =>
      match skipSpace text with
      | 'n' :: 'u' :: 'l' :: 'l' :: rest => some (.null, rest)
      | 't' :: 'r' :: 'u' :: 'e' :: rest => some (.bool true, rest)
      | 'f' :: 'a' :: 'l' :: 's' :: 'e' :: rest => some (.bool false, rest)
      | '"' :: rest => (readString care rest).map fun (s, rest) => (.string s, rest)
      | '[' :: rest =>
          if care = .full ∧ depth = 0 then
            none
          else
            match skipSpace rest with
            | ']' :: rest => some (.array [], rest)
            | rest =>
                (readItems care fuel (depth - 1) rest).map fun (items, rest) => (.array items, rest)
      | '\x7b' :: rest =>
          if care = .full ∧ depth = 0 then
            none
          else
            match skipSpace rest with
            | '\x7d' :: rest => some (.object [], rest)
            | rest =>
                (readMembers care (fun _ => care) fuel (depth - 1) rest).map fun (members, rest) =>
                  (.object members, rest)
      | text => readNumber care text

/-- Items, at least one, up to the closing bracket. -/
def readItems (care : Care) : (fuel depth : Nat) → Reader (List Json)
  | 0, _, _ => none
  | fuel + 1, depth, text =>
      match readValue care fuel depth text with
      | none => none
      | some (item, rest) =>
          match skipSpace rest with
          | ',' :: rest =>
              (readItems care fuel depth rest).map fun (items, rest) => (item :: items, rest)
          | ']' :: rest => some ([item], rest)
          | _ => none

/-- Members, at least one, up to the closing brace; the name says how the value is read. -/
def readMembers (nameCare : Care) (care : String → Care) :
    (fuel depth : Nat) → Reader (List (String × Json))
  | 0, _, _ => none
  | fuel + 1, depth, text =>
      match skipSpace text with
      | '"' :: rest =>
          match readString nameCare rest with
          | none => none
          | some (key, rest) =>
              match skipSpace rest with
              | ':' :: rest =>
                  match readValue (care key) fuel depth rest with
                  | none => none
                  | some (value, rest) =>
                      match skipSpace rest with
                      | ',' :: rest =>
                          (readMembers nameCare care fuel depth rest).map fun (members, rest) =>
                            ((key, value) :: members, rest)
                      | '\x7d' :: rest => some ([(key, value)], rest)
                      | _ => none
              | _ => none
      | _ => none

end

/-- An object whose members outside `heeded` are read for their form only. -/
def readOutermost (heeded : String → Bool) (fuel : Nat) : Reader Json := fun text =>
  match skipSpace text with
  | '\x7b' :: rest =>
      match skipSpace rest with
      | '\x7d' :: rest => some (.object [], rest)
      | rest =>
          let care := fun key => if heeded key then Care.full else Care.form
          (readMembers .full care fuel (nestingLimit - 1) rest).map fun (members, rest) =>
            (.object members, rest)
  | text => readValue .full fuel nestingLimit text

/-- The value of a whole text. Reading a value and reading its items take turns, so twice the length
of the text is enough fuel. -/
def parse? (heeded : String → Bool) (text : String) : Option Json :=
  match readOutermost heeded (2 * text.toList.length + 2) text.toList with
  | some (json, rest) => if (skipSpace rest).isEmpty then some json else none
  | none => none

end RuleGrammar.Json
