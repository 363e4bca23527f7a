import RuleGrammar.Regex.Basic
import RuleGrammar.Regex.Bracket

/-!
Owns the reading of patterns: from text to regular expression.

The reader walks once over the text. Its state is the branch being read, the finished branches of
the same group, and what stands around the group. A flag group such as `(?i)` changes the flags from
there to the end of the group around it, later branches included. Groups may nest 250 deep,
counting every level of the notation, whatever is left of it in the expression.

Contract: all of the notation is read that a match by itself can be described with: literals, escapes,
classes, properties of Unicode by the table that is given, flags, groups, repetitions and conditions.
Conditions on the text around a group and references back to a group are refused.
-/

namespace RuleGrammar.Regex

/-- A part of a branch, with the depth of its notation. Flag groups match nothing of their own and
cannot be repeated. -/
structure Piece where
  regex : Regex
  depth : Nat
  repeatable : Bool
deriving DecidableEq, Repr

def Piece.leaf (regex : Regex) : Piece :=
  ⟨regex, 0, true⟩

/-- What is set aside while a group is read, with the number of the group if it has one. -/
structure Level where
  index : Option Nat
  flags : Flags
  pieces : List Piece
  branches : List Piece
deriving DecidableEq, Repr

/-- Pieces and branches are held latest first; `groups` counts the numbered groups opened so far. -/
structure PatternState where
  rest : List Char
  flags : Flags
  pieces : List Piece
  branches : List Piece
  outer : List Level
  groups : Nat
  names : List (List Char)
deriving DecidableEq, Repr

/-! ## Putting pieces together -/

def maxDepth (pieces : List Piece) : Nat :=
  pieces.foldl (fun depth piece => max depth piece.depth) 0

/-- Pieces one after the other, latest first. -/
def joinPieces : List Piece → Piece
  | [] => ⟨.empty, 0, false⟩
  | [piece] => piece
  | pieces => ⟨.ofParts (pieces.reverse.map Piece.regex), 1 + maxDepth pieces, true⟩

/-- Branches in order of preference, latest first. -/
def joinBranches : List Piece → Piece
  | [] => ⟨.empty, 0, false⟩
  | [branch] => branch
  | branches => ⟨.ofBranches (branches.reverse.map Piece.regex), 1 + maxDepth branches, true⟩

namespace PatternState

/-- The group being read, as one piece. -/
def joined (state : PatternState) : Piece :=
  joinBranches (joinPieces state.pieces :: state.branches)

def push (state : PatternState) (piece : Piece) (rest : List Char) : PatternState :=
  { state with pieces := piece :: state.pieces, rest := rest }

/-- Replaces the last piece by its repetition; there must be one that can be repeated. -/
def repeatLast (state : PatternState) (min : Nat) (max : Option Nat) (lazy : Bool)
    (rest : List Char) : Option PatternState :=
  match state.pieces with
  | [] => none
  | piece :: pieces =>
      if piece.repeatable then
        let greedy := lazy == state.flags.swapGreed
        some { state with
          pieces := ⟨.ofRounds piece.regex min max greedy, 1 + piece.depth, true⟩ :: pieces
          rest := rest }
      else
        none

/-- A mark `?` after a repetition makes it lazy. -/
def repeatMarked (state : PatternState) (min : Nat) (max : Option Nat) (rest : List Char) :
    Option PatternState :=
  match rest with
  | '?' :: rest => state.repeatLast min max true rest
  | _ => state.repeatLast min max false rest

/-- What follows the opening brace of a count. -/
def repeatCounted (state : PatternState) (text : List Char) : Option PatternState := do
  let verbose := state.flags.verbose
  let (min, rest) ← readCount verbose (skipSpace verbose text)
  match rest with
  | '\x7d' :: rest => state.repeatMarked min (some min) (skipSpace verbose rest)
  | ',' :: rest =>
      match skipSpace verbose rest with
      | '\x7d' :: rest => state.repeatMarked min none (skipSpace verbose rest)
      | rest =>
          match ← readCount verbose rest with
          | (max, '\x7d' :: rest) =>
              if min ≤ max then state.repeatMarked min (some max) (skipSpace verbose rest) else none
          | _ => none
  | _ => none

/-! ## Groups -/

def openGroup (state : PatternState) (index : Option Nat) (flags : Flags) (rest : List Char) :
    PatternState :=
  { state with
    rest := rest
    flags := flags
    pieces := []
    branches := []
    outer := ⟨index, state.flags, state.pieces, state.branches⟩ :: state.outer }

def openNumbered (state : PatternState) (rest : List Char) : PatternState :=
  { state.openGroup (some state.groups) state.flags rest with groups := state.groups + 1 }

def closeGroup (state : PatternState) (rest : List Char) : Option PatternState :=
  match state.outer with
  | [] => none
  | level :: outer =>
      let inside := state.joined
      let group :=
        match level.index with
        | some index => .group index inside.regex
        | none => inside.regex
      some { state with
        rest := rest
        flags := level.flags
        pieces := ⟨group, 1 + inside.depth, true⟩ :: level.pieces
        branches := level.branches
        outer := outer }

/-- How flags are being read: what was seen, whether a minus came before, and whether it was the
last sign. -/
structure FlagRun where
  flags : Flags
  seen : List Flag
  negated : Bool
  dangling : Bool

/-- Flags up to the colon or parenthesis that ends them, which is left. No flag may come twice, nor
the minus, and a minus needs a flag after it. -/
def readFlags (run : FlagRun) : Reader FlagRun
  | [] => none
  | c :: rest =>
      if c = ':' ∨ c = ')' then
        if run.dangling then none else some (run, c :: rest)
      else if c = '-' then
        if run.negated then
          none
        else
          readFlags { run with negated := true, dangling := true } rest
      else
        match Flag.ofChar? c with
        | none => none
        | some flag =>
            if run.seen.contains flag then
              none
            else
              readFlags
                { run with
                  flags := run.flags.set flag (!run.negated)
                  seen := flag :: run.seen
                  dangling := false }
                rest

def openFlags (state : PatternState) (text : List Char) : Option PatternState := do
  match ← readFlags ⟨state.flags, [], false, false⟩ text with
  | (run, ':' :: rest) => some (state.openGroup none run.flags rest)
  | (run, _ :: rest) =>
      if run.seen.isEmpty then
        none
      else
        some { state with flags := run.flags, pieces := ⟨.empty, 0, false⟩ :: state.pieces, rest := rest }
  | _ => none

def openNamed (state : PatternState) (text : List Char) : Option PatternState := do
  let (name, rest) ← readGroupName true text
  if state.names.contains name then
    none
  else
    some { state.openNumbered rest with names := name :: state.names }

/-- What follows an opening parenthesis. Conditions on the text around a group are not supported. -/
def openParen (state : PatternState) (text : List Char) : Option PatternState :=
  match skipSpace state.flags.verbose text with
  | '?' :: '=' :: _ => none
  | '?' :: '!' :: _ => none
  | '?' :: '<' :: '=' :: _ => none
  | '?' :: '<' :: '!' :: _ => none
  | '?' :: 'P' :: '<' :: rest => state.openNamed rest
  | '?' :: '<' :: rest => state.openNamed rest
  | '?' :: rest => state.openFlags rest
  | rest => some (state.openNumbered rest)

/-! ## One step -/

def plainChar (flags : Flags) (c : Char) : Regex :=
  .ofSet (flags.foldCase (.single c))

/-- Any character, or any but those that end lines. -/
def dot (flags : Flags) : Regex :=
  let lineEnds := if flags.crlf then (CharSet.single '\n').union (.single '\r') else .single '\n'
  .ofSet (if flags.dotAll then .all else lineEnds.compl)

def primitive (flags : Flags) : Primitive → Regex
  | .char c => plainChar flags c
  | .set set => .ofSet set
  | .look condition => .look condition

/-- Reads the part of the pattern that begins with `c`. -/
def step (properties : PropertyTable) (state : PatternState) (c : Char) (rest : List Char) :
    Option PatternState :=
  let flags := state.flags
  match c with
  | '(' => state.openParen rest
  | ')' => state.closeGroup rest
  | '|' =>
      some { state with pieces := [], branches := joinPieces state.pieces :: state.branches, rest := rest }
  | '[' => do
      let (part, rest) ← readBracket properties flags rest
      some (state.push ⟨.ofSet part.set, part.depth, true⟩ rest)
  | '?' => state.repeatMarked 0 (some 1) rest
  | '*' => state.repeatMarked 0 none rest
  | '+' => state.repeatMarked 1 none rest
  | '\x7b' => state.repeatCounted rest
  | '\\' => do
      let (part, rest) ← readEscape properties flags rest
      some (state.push (.leaf (primitive flags part)) rest)
  | '.' => if flags.unicode then some (state.push (.leaf (dot flags)) rest) else none
  | '^' =>
      some (state.push (.leaf (.look (if flags.multiLine then .lineStart flags.crlf else .textStart))) rest)
  | '$' =>
      some (state.push (.leaf (.look (if flags.multiLine then .lineEnd flags.crlf else .textEnd))) rest)
  | c => some (state.push (.leaf (plainChar flags c)) rest)

/-- Reads the rest of the pattern. Every step takes at least one character, so the length of the
text is enough fuel. -/
def run (properties : PropertyTable) : Nat → PatternState → Option PatternState
  | 0, state => if state.rest.isEmpty then some state else none
  | fuel + 1, state =>
      match skipSpace state.flags.verbose state.rest with
      | [] => some { state with rest := [] }
      | c :: rest =>
          match state.step properties c rest with
          | some state => run properties fuel state
          | none => none

end PatternState

def depthLimit : Nat := 250

/-- The regular expression that a pattern denotes, if it is well-formed: no group is left open. -/
def parse? (properties : PropertyTable) (text : List Char) : Option Regex := do
  let state ← PatternState.run properties (text.length + 1) ⟨text, {}, [], [], [], 0, []⟩
  let whole := state.joined
  if state.outer.isEmpty ∧ whole.depth ≤ depthLimit then some whole.regex else none

end RuleGrammar.Regex
