import RuleGrammar.Regex.Escape

/-!
Owns bracketed classes: `[a-z]`, negation, nesting, named ASCII classes and the set operators
`&&`, `--` and `~~`, which have equal precedence and group to the left.
-/

namespace RuleGrammar.Regex

/-- A set with the depth of the notation it was written in. -/
structure SetPart where
  set : CharSet
  depth : Nat
deriving DecidableEq, Repr

inductive SetOp where
  | inter
  | diff
  | symmDiff
deriving DecidableEq, Repr

def SetOp.apply : SetOp → CharSet → CharSet → CharSet
  | .inter => CharSet.inter
  | .diff => CharSet.diff
  | .symmDiff => CharSet.symmDiff

/-- One open bracket: the items read since it, or since its last operator, latest first. -/
structure OpenSet where
  negated : Bool
  pending : Option (SetOp × SetPart)
  items : List SetPart
deriving DecidableEq, Repr

namespace OpenSet

def push (set : OpenSet) (part : SetPart) : OpenSet :=
  { set with items := part :: set.items }

def pushSet (bracket : OpenSet) (set : CharSet) : OpenSet :=
  bracket.push ⟨set, 0⟩

/-- The items as one part. -/
def union (bracket : OpenSet) : SetPart :=
  match bracket.items with
  | [] => ⟨.empty, 0⟩
  | [part] => part
  | parts =>
      ⟨parts.foldl (fun set part => part.set.union set) .empty,
        1 + parts.foldl (fun depth part => max depth part.depth) 0⟩

/-- The items, combined with what stands left of the last operator. -/
def operand (flags : Flags) (bracket : OpenSet) : SetPart :=
  let right := bracket.union
  match bracket.pending with
  | none => right
  | some (op, left) =>
      ⟨op.apply (flags.foldCase left.set) (flags.foldCase right.set), 1 + max left.depth right.depth⟩

def operator (flags : Flags) (bracket : OpenSet) (op : SetOp) : OpenSet :=
  { bracket with pending := some (op, bracket.operand flags), items := [] }

/-- The class as a whole; case variants are added before negation. -/
def close (flags : Flags) (bracket : OpenSet) : SetPart :=
  let inner := bracket.operand flags
  let folded := flags.foldCase inner.set
  ⟨if bracket.negated then folded.compl else folded, 1 + inner.depth⟩

end OpenSet

/-! ## Items -/

def asciiClass? (name : String) : Option CharSet :=
  match name with
  | "alnum" => some (.ofRanges [('0', '9'), ('A', 'Z'), ('a', 'z')])
  | "alpha" => some (.ofRanges [('A', 'Z'), ('a', 'z')])
  | "ascii" => some (.range '\x00' '\x7f')
  | "blank" => some (.ofRanges [('\t', '\t'), (' ', ' ')])
  | "cntrl" => some (.ofRanges [('\x00', '\x1f'), ('\x7f', '\x7f')])
  | "digit" => some (.range '0' '9')
  | "graph" => some (.range '!' '~')
  | "lower" => some (.range 'a' 'z')
  | "print" => some (.range ' ' '~')
  | "punct" => some (.ofRanges [('!', '/'), (':', '@'), ('[', '\x60'), ('\x7b', '~')])
  | "space" => some (.ofRanges [('\t', '\r'), (' ', ' ')])
  | "upper" => some (.range 'A' 'Z')
  | "word" => some (.ofRanges [('0', '9'), ('A', 'Z'), ('_', '_'), ('a', 'z')])
  | "xdigit" => some (.ofRanges [('0', '9'), ('A', 'F'), ('a', 'f')])
  | _ => none

/-- What follows the bracket of a named class such as `[:alpha:]`, if this is one; case variants are
added before negation. -/
def readAsciiClass (flags : Flags) : Reader CharSet
  | ':' :: rest =>
      let (negated, named) :=
        match rest with
        | '^' :: named => (true, named)
        | _ => (false, rest)
      let name := named.takeWhile (· != ':')
      match named.dropWhile (· != ':') with
      | ':' :: ']' :: left =>
          (asciiClass? (String.ofList name)).map fun set =>
            let folded := flags.foldCase set
            (if negated then folded.compl else folded, left)
      | _ => none
  | _ => none

/-- The character after the next one, where blanks and the sign of a comment count for nothing in
verbose mode. -/
def peekAfter (verbose : Bool) (rest : List Char) : Option Char :=
  if verbose then
    match rest.dropWhile Text.isBlank with
    | [] => rest.head?
    | '#' :: more =>
        match more.dropWhile Text.isBlank with
        | [] => rest.head?
        | c :: _ => some c
    | c :: _ => some c
  else
    rest.head?

def readSetPrimitive (properties : PropertyTable) (flags : Flags) : Reader Primitive
  | [] => none
  | '\\' :: rest => readEscape properties flags rest
  | c :: rest => some (.char c, rest)

/-- A single character, a class escape, or a range between two characters. -/
def readSetItem (properties : PropertyTable) (flags : Flags) : Reader CharSet := fun text => do
  let (first, rest) ← readSetPrimitive properties flags text
  let rest := skipSpace flags.verbose rest
  let lone : Option (CharSet × List Char) :=
    match first with
    | .char c => some (.single c, rest)
    | .set set => some (set, rest)
    | .look _ => none
  match rest with
  | [] => none
  | '-' :: more =>
      let next := peekAfter flags.verbose more
      if next = some ']' ∨ next = some '-' then
        lone
      else
        match skipSpace flags.verbose more with
        | [] => none
        | more => do
            let (second, left) ← readSetPrimitive properties flags more
            match first, second with
            | .char a, .char b => if a ≤ b then some (.range a b, left) else none
            | _, _ => none
  | _ => lone

/-! ## Brackets -/

/-- Leading hyphens are plain. -/
def readLeadingHyphens (verbose : Bool) : Nat → OpenSet → List Char → OpenSet × List Char
  | fuel + 1, bracket, '-' :: rest =>
      readLeadingHyphens verbose fuel (bracket.pushSet (.single '-')) (skipSpace verbose rest)
  | _, bracket, text => (bracket, text)

/-- What follows an opening bracket: a negation, leading hyphens, or a bracket that closes nothing
because the class would be empty. Some text must be left. -/
def readOpenSet (verbose : Bool) : Reader OpenSet := fun text =>
  let afterBracket := skipSpace verbose text
  let (negated, afterSign) :=
    match afterBracket with
    | '^' :: rest => (true, skipSpace verbose rest)
    | _ => (false, afterBracket)
  let (bracket, rest) := readLeadingHyphens verbose afterSign.length ⟨negated, none, []⟩ afterSign
  match bracket.items, rest with
  | _, [] => none
  | [], ']' :: rest =>
      match skipSpace verbose rest with
      | [] => none
      | rest => some (bracket.pushSet (.single ']'), rest)
  | _, rest => some (bracket, rest)

/-- Reads up to the bracket that closes the outermost class; `outer` holds the classes around the
innermost one. Named classes, classes and items must each be admitted by the flags. -/
def readSetBody (properties : PropertyTable) (flags : Flags) :
    (fuel : Nat) → OpenSet → List OpenSet → Reader SetPart
  | 0, _, _, _ => none
  | fuel + 1, bracket, outer, text =>
      match skipSpace flags.verbose text with
      | [] => none
      | '[' :: rest =>
          match readAsciiClass flags rest with
          | some (set, left) =>
              if flags.admits set then
                readSetBody properties flags fuel (bracket.pushSet set) outer left
              else
                none
          | none =>
              match readOpenSet flags.verbose rest with
              | some (inner, left) => readSetBody properties flags fuel inner (bracket :: outer) left
              | none => none
      | ']' :: rest =>
          let part := bracket.close flags
          if flags.admits part.set then
            match outer with
            | [] => some (part, rest)
            | around :: outer => readSetBody properties flags fuel (around.push part) outer rest
          else
            none
      | '&' :: '&' :: rest =>
          readSetBody properties flags fuel (bracket.operator flags .inter) outer rest
      | '-' :: '-' :: rest =>
          readSetBody properties flags fuel (bracket.operator flags .diff) outer rest
      | '~' :: '~' :: rest =>
          readSetBody properties flags fuel (bracket.operator flags .symmDiff) outer rest
      | text =>
          match readSetItem properties flags text with
          | some (set, left) =>
              if flags.admits set then
                readSetBody properties flags fuel (bracket.pushSet set) outer left
              else
                none
          | none => none

/-- What follows the opening bracket of a class. -/
def readBracket (properties : PropertyTable) (flags : Flags) : Reader SetPart := fun text => do
  let (bracket, rest) ← readOpenSet flags.verbose text
  readSetBody properties flags (rest.length + 1) bracket [] rest

end RuleGrammar.Regex
