/-!
Owns what stands between the parts of a document: blanks, comments and line ends.
-/

namespace RuleGrammar.Toml

def isBlank (c : Char) : Bool :=
  c == ' ' || c == '\t'

/-- Characters that may stand nowhere but, some of them, in line ends. -/
def isControl (c : Char) : Bool :=
  (decide (c.toNat < 32) && c != '\t') || c.toNat == 127

def skipBlanks (text : List Char) : List Char :=
  text.dropWhile isBlank

/-- The text behind a line end, if it starts with one. -/
def lineEnd? : List Char → Option (List Char)
  | '\n' :: rest => some rest
  | '\r' :: '\n' :: rest => some rest
  | _ => none

/-- Skips a comment up to the line end, if there is one. -/
def skipComment : List Char → Option (List Char)
  | '#' :: rest =>
      let left := rest.dropWhile (!isControl ·)
      if left.isEmpty ∨ (lineEnd? left).isSome then some left else none
  | text => some text

/-- What may follow an entry on its line: blanks and a comment. -/
def finishLine (text : List Char) : Option (List Char) :=
  match skipComment (skipBlanks text) with
  | none => none
  | some [] => some []
  | some text => lineEnd? text

/-- Skips blanks, comments and line ends. -/
def skipLines : (fuel : Nat) → List Char → Option (List Char)
  | 0, text => some text
  | fuel + 1, text =>
      match skipComment (skipBlanks text) with
      | none => none
      | some text =>
          match lineEnd? text with
          | some rest => skipLines fuel rest
          | none => some text

end RuleGrammar.Toml
