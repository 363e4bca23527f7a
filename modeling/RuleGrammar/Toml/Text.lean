import RuleGrammar.Text.Digit
import RuleGrammar.Text.Reader
import RuleGrammar.Toml.Space

/-!
Owns strings and keys.

Basic strings have escapes, literal strings have none; either kind may run over several lines when its
quotes are tripled. A line end right after the opening quotes does not count, and every other one is kept
as it was written.
-/

namespace RuleGrammar.Toml

/-- A character given by a fixed count of hexadecimal digits. -/
def readCodePoint : (count value : Nat) → Reader Char
  | 0, value, text => if value.isValidChar then some (Char.ofNat value, text) else none
  | _ + 1, _, [] => none
  | count + 1, value, c :: rest => do
      let digit ← Text.digitValue? 16 c
      readCodePoint count (16 * value + digit) rest

/-- What follows a backslash. -/
def readEscape : Reader Char
  | 'b' :: rest => some ('\x08', rest)
  | 't' :: rest => some ('\t', rest)
  | 'n' :: rest => some ('\n', rest)
  | 'f' :: rest => some ('\x0c', rest)
  | 'r' :: rest => some ('\r', rest)
  | '"' :: rest => some ('"', rest)
  | '\\' :: rest => some ('\\', rest)
  | 'u' :: rest => readCodePoint 4 0 rest
  | 'U' :: rest => readCodePoint 8 0 rest
  | _ => none

/-- What follows the opening quote of a basic string. -/
def readBasic : (fuel : Nat) → Reader (List Char)
  | 0, _ => none
  | _ + 1, [] => none
  | _ + 1, '"' :: rest => some ([], rest)
  | fuel + 1, '\\' :: rest =>
      match readEscape rest with
      | none => none
      | some (c, rest) => (readBasic fuel rest).map fun (cs, left) => (c :: cs, left)
  | fuel + 1, c :: rest =>
      if isControl c then none
      else (readBasic fuel rest).map fun (cs, left) => (c :: cs, left)

/-- What follows the opening quote of a literal string. -/
def readLiteral : Reader (List Char)
  | [] => none
  | '\'' :: rest => some ([], rest)
  | c :: rest =>
      if isControl c then none
      else (readLiteral rest).map fun (cs, left) => (c :: cs, left)

/-- Closing quotes: three of them, and up to two more that belong to the text. -/
def closingQuotes? (quote : Char) (text : List Char) : Option (List Char × List Char) :=
  let count := (text.takeWhile (· == quote)).length
  if count < 3 then none
  else
    let own := min (count - 3) 2
    some (List.replicate own quote, text.drop (own + 3))

/-- A backslash at the end of a line: the text behind all blanks and line ends that follow it. -/
def continuation? (text : List Char) : Option (List Char) :=
  match lineEnd? (skipBlanks text) with
  | none => none
  | some rest => some (skipFolded rest.length rest)
where
  skipFolded : Nat → List Char → List Char
    | 0, text => text
    | fuel + 1, text =>
        match lineEnd? (skipBlanks text) with
        | some rest => skipFolded fuel rest
        | none => skipBlanks text

/-- What follows the opening quotes of a string of several lines. -/
def readMultiLine (quote : Char) (escapes : Bool) : (fuel : Nat) → Reader (List Char)
  | 0, _ => none
  | fuel + 1, text =>
      match closingQuotes? quote text with
      | some result => some result
      | none =>
          match text with
          | [] => none
          | '\n' :: rest =>
              (readMultiLine quote escapes fuel rest).map fun (cs, left) => ('\n' :: cs, left)
          | '\r' :: '\n' :: rest =>
              (readMultiLine quote escapes fuel rest).map fun (cs, left) => ('\r' :: '\n' :: cs, left)
          | c :: rest =>
              if escapes && c == '\\' then
                match continuation? rest with
                | some rest => readMultiLine quote escapes fuel rest
                | none =>
                    match readEscape rest with
                    | none => none
                    | some (c, rest) =>
                        (readMultiLine quote escapes fuel rest).map fun (cs, left) => (c :: cs, left)
              else if isControl c then
                none
              else
                (readMultiLine quote escapes fuel rest).map fun (cs, left) => (c :: cs, left)

/-- A line end right after the opening quotes does not count. -/
def openMultiLine (quote : Char) (escapes : Bool) : Reader (List Char) := fun text =>
  let text := (lineEnd? text).getD text
  readMultiLine quote escapes (text.length + 1) text

/-- A string of any of the four kinds, if the text starts with a quote. -/
def readString? : List Char → Option (Option (List Char × List Char))
  | '"' :: '"' :: '"' :: rest => some (openMultiLine '"' true rest)
  | '"' :: rest => some (readBasic (rest.length + 1) rest)
  | '\'' :: '\'' :: '\'' :: rest => some (openMultiLine '\'' false rest)
  | '\'' :: rest => some (readLiteral rest)
  | _ => none

/-! ## Keys -/

def isBareKeyChar (c : Char) : Bool :=
  c.isAlphanum || c == '_' || c == '-'

/-- One part of a key: bare, or a string of one line. -/
def readSimpleKey : Reader String
  | '"' :: rest =>
      (readBasic (rest.length + 1) rest).map fun (cs, left) => (String.ofList cs, left)
  | '\'' :: rest => (readLiteral rest).map fun (cs, left) => (String.ofList cs, left)
  | text =>
      let key := text.takeWhile isBareKeyChar
      if key.isEmpty then none else some (String.ofList key, text.dropWhile isBareKeyChar)

def keyLimit : Nat := 80

/-- The parts of a key, with points between them and blanks around those; `limit` is the most there may
be. -/
def readKey : (limit : Nat) → Reader (List String)
  | 0, _ => none
  | limit + 1, text =>
      match readSimpleKey (skipBlanks text) with
      | none => none
      | some (key, rest) =>
          match skipBlanks rest with
          | '.' :: rest => (readKey limit rest).map fun (keys, left) => (key :: keys, left)
          | rest => some ([key], rest)

end RuleGrammar.Toml
