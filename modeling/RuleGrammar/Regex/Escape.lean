import RuleGrammar.Regex.Basic
import RuleGrammar.Regex.Flags
import RuleGrammar.Regex.Property
import RuleGrammar.Text.Digit
import RuleGrammar.Text.Reader

/-!
Owns the small parts of a pattern's text: blanks and comments in verbose mode, counts, hexadecimal
characters, names of Unicode properties, escapes and group names. What the names of properties stand for is
a parameter.
-/

namespace RuleGrammar.Regex

/-- Drops blanks and comments; a comment runs to the end of its line. -/
def dropSpace : (inComment : Bool) → List Char → List Char
  | _, [] => []
  | true, c :: rest => dropSpace (c != '\n') rest
  | false, c :: rest =>
      if Text.isBlank c then dropSpace false rest
      else if c = '#' then dropSpace true rest
      else c :: rest

/-- Blanks and comments count for nothing in verbose mode only. -/
def skipSpace (verbose : Bool) (text : List Char) : List Char :=
  if verbose then dropSpace false text else text

/-! ## Counts -/

/-- Blanks are allowed around a count in either mode. -/
def skipBlanks (verbose : Bool) : Nat → List Char → List Char
  | 0, text => text
  | _ + 1, [] => []
  | fuel + 1, c :: rest =>
      if Text.isBlank c then skipBlanks verbose fuel (skipSpace verbose rest) else c :: rest

def readDigits (verbose : Bool) : Nat → List Char → List Nat × List Char
  | 0, text => ([], text)
  | _ + 1, [] => ([], [])
  | fuel + 1, c :: rest =>
      match Text.digitValue? 10 c with
      | some d =>
          let (digits, left) := readDigits verbose fuel (skipSpace verbose rest)
          (d :: digits, left)
      | none => ([], c :: rest)

/-- A decimal count below `2 ^ 32`. -/
def readCount (verbose : Bool) : Reader Nat := fun text =>
  let (digits, rest) := readDigits verbose text.length (text.dropWhile Text.isBlank)
  let count := digits.foldl (fun n d => 10 * n + d) 0
  if digits.isEmpty ∨ UInt32.size ≤ count then
    none
  else
    some (count, skipBlanks verbose rest.length rest)

/-! ## Characters by number -/

def charOfNat? (n : Nat) : Option Char :=
  if n.isValidChar then some (Char.ofNat n) else none

def readHexFixed (verbose : Bool) : (count value : Nat) → Reader Char
  | 0, value, text => (charOfNat? value).map (·, text)
  | count + 1, value, text =>
      match text with
      | [] => none
      | c :: rest => do
          let d ← Text.digitValue? 16 c
          readHexFixed verbose count (16 * value + d) (skipSpace verbose rest)

/-- Digits up to the closing brace, at least one. -/
def readHexBraced (verbose : Bool) : (fuel : Nat) → (value : Option Nat) → Reader Char
  | 0, _, _ => none
  | fuel + 1, value, text =>
      match skipSpace verbose text with
      | [] => none
      | '\x7d' :: rest => do
          let c ← charOfNat? (← value)
          some (c, skipSpace verbose rest)
      | c :: rest => do
          let d ← Text.digitValue? 16 c
          readHexBraced verbose fuel (some (16 * value.getD 0 + d)) rest

/-- What follows the letter of a numbered character: a fixed count of digits, for characters that pass the
test, or any count in braces. -/
def readHex (verbose : Bool) (count : Nat) (test : Char → Bool) : Reader Char := fun text =>
  match skipSpace verbose text with
  | '\x7b' :: rest => readHexBraced verbose (rest.length + 1) none rest
  | text => (readHexFixed verbose count 0 text).filter (test ∘ Prod.fst)

/-! ## Escapes -/

/-- What one escape or plain character stands for. -/
inductive Primitive where
  | char (c : Char)
  | set (set : CharSet)
  | look (condition : Look)
deriving DecidableEq, Repr

def isWordName (c : Char) : Bool :=
  decide ('a' ≤ c ∧ c ≤ 'z' ∨ 'A' ≤ c ∧ c ≤ 'Z' ∨ c = '-')

def readName (verbose : Bool) : Nat → List Char → List Char × List Char
  | 0, text => ([], text)
  | _ + 1, [] => ([], [])
  | fuel + 1, c :: rest =>
      if isWordName c then
        let (name, left) := readName verbose fuel (skipSpace verbose rest)
        (c :: name, left)
      else
        ([], c :: rest)

/-- What follows `\b`: a named boundary in braces, or nothing of its own. Braces that do not open
with a letter are left for a count. -/
def readBoundary (verbose : Bool) : Reader WordEdge := fun text =>
  match text with
  | '\x7b' :: inside =>
      match skipSpace verbose inside with
      | [] => none
      | c :: rest =>
          if isWordName c then
            match readName verbose (rest.length + 1) (c :: rest) with
            | (name, '\x7d' :: left) =>
                match String.ofList name with
                | "start" => some (.start, left)
                | "end" => some (.stop, left)
                | "start-half" => some (.startHalf, left)
                | "end-half" => some (.stopHalf, left)
                | _ => none
            | _ => none
          else
            some (.boundary, text)
  | _ => some (.boundary, text)

/-- Punctuation and other ASCII characters that a backslash makes plain. -/
def isEscapable (c : Char) : Bool :=
  decide (c.toNat < 128) && !c.isAlphanum && c != '<' && c != '>'

/-- The characters up to the closing brace. -/
def readBraced (verbose : Bool) : (fuel : Nat) → Reader (List Char)
  | 0, _ => none
  | fuel + 1, text =>
      match skipSpace verbose text with
      | [] => none
      | '\x7d' :: rest => some ([], rest)
      | c :: rest => (readBraced verbose fuel rest).map fun (name, left) => (c :: name, left)

/-- What follows the letter of a Unicode class: a name in braces, or one that is a single character. -/
def readProperty (verbose : Bool) : Reader (List Char) := fun text =>
  match skipSpace verbose text with
  | [] => none
  | '\x7b' :: rest => readBraced verbose (rest.length + 1) rest
  | c :: rest => if c = '\\' then none else some ([c], rest)

/-- The class of a Unicode property; case variants are added before negation. -/
def readUnicodeClass (properties : PropertyTable) (flags : Flags) (negated : Bool) : Reader CharSet :=
  fun text => do
    let (name, rest) ← readProperty flags.verbose text
    let set ← properties.set? name
    let folded := flags.foldCase set
    if flags.unicode then some (if negated then folded.compl else folded, rest) else none

/-- What follows a backslash. -/
def readEscape (properties : PropertyTable) (flags : Flags) : Reader Primitive
  | [] => none
  | c :: rest =>
      match c with
      | 'x' => (readHex flags.verbose 2 flags.admitsByte rest).map fun (c, left) => (.char c, left)
      | 'u' => (readHex flags.verbose 4 (fun _ => true) rest).map fun (c, left) => (.char c, left)
      | 'U' => (readHex flags.verbose 8 (fun _ => true) rest).map fun (c, left) => (.char c, left)
      | 'p' => (readUnicodeClass properties flags false rest).map fun (set, left) => (.set set, left)
      | 'P' => (readUnicodeClass properties flags true rest).map fun (set, left) => (.set set, left)
      | 'd' => (flags.classOf? false .digit).map fun set => (.set set, rest)
      | 's' => (flags.classOf? false .blank).map fun set => (.set set, rest)
      | 'w' => (flags.classOf? false .word).map fun set => (.set set, rest)
      | 'D' => (flags.classOf? true .digit).map fun set => (.set set, rest)
      | 'S' => (flags.classOf? true .blank).map fun set => (.set set, rest)
      | 'W' => (flags.classOf? true .word).map fun set => (.set set, rest)
      | 'a' => some (.char '\x07', rest)
      | 'f' => some (.char '\x0c', rest)
      | 't' => some (.char '\t', rest)
      | 'n' => some (.char '\n', rest)
      | 'r' => some (.char '\r', rest)
      | 'v' => some (.char '\x0b', rest)
      | 'A' => some (.look .textStart, rest)
      | 'z' => some (.look .textEnd, rest)
      | 'b' =>
          (readBoundary flags.verbose rest).map fun (edge, left) => (.look (.word edge flags.unicode), left)
      | 'B' => some (.look (.word .noBoundary flags.unicode), rest)
      | '<' => some (.look (.word .start flags.unicode), rest)
      | '>' => some (.look (.word .stop flags.unicode), rest)
      | c => if isEscapable c then some (.char c, rest) else none

/-! ## Group names -/

def isGroupNameChar (first : Bool) (c : Char) : Bool :=
  if first then
    c == '_' || Text.isAlphabetic c
  else
    c == '_' || c == '.' || c == '[' || c == ']' || Text.isAlphanumeric c

/-- A name and the angle bracket that closes it. -/
def readGroupName : (first : Bool) → Reader (List Char)
  | _, [] => none
  | first, '>' :: rest => if first then none else some ([], rest)
  | first, c :: rest =>
      if isGroupNameChar first c then
        (readGroupName false rest).map fun (name, left) => (c :: name, left)
      else
        none

end RuleGrammar.Regex
