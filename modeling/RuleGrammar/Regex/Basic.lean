import RuleGrammar.Regex.CharSet

/-!
Owns regular expressions as trees.

Expressions are put together by `Regex.ofSet`, `Regex.ofRounds`, `Regex.ofParts` and
`Regex.ofBranches`, which keep them in a short form: no concatenation directly inside a concatenation and
no choice directly inside a choice, neighbouring characters as one text, a choice among characters as a
class, a repetition of what reads nothing as one round at most. A choice all of whose branches begin
with the same parts has these parts in front of it, once.
-/

namespace RuleGrammar

/-- What the characters before and after a position are like where a word begins or ends. -/
inductive WordEdge where
  | boundary
  | noBoundary
  | start
  | stop
  | startHalf
  | stopHalf
deriving DecidableEq, Repr

/-- Conditions on a position that consume nothing. Lines may end with a line feed only or also with a
carriage return, words may be made of word characters of Unicode or of ASCII only. -/
inductive Look where
  | textStart
  | textEnd
  | lineStart (crlf : Bool)
  | lineEnd (crlf : Bool)
  | word (edge : WordEdge) (unicode : Bool)
deriving DecidableEq, Repr

/-- Groups are numbered in the order in which they open, so that no two of them are equal. A
concatenation of several parts leans to the left, a choice among several branches to the right. -/
inductive Regex where
  | empty
  | literal (chars : List Char)
  | oneOf (set : CharSet)
  | look (condition : Look)
  | group (index : Nat) (body : Regex)
  | cat (first second : Regex)
  | alt (preferred other : Regex)
  | times (body : Regex) (min : Nat) (max : Option Nat) (greedy : Bool)
deriving DecidableEq, Repr

namespace Regex

/-! ## Lengths -/

/-- The least number of characters of a match, conditions taken for granted; `none` if some part of the
expression cannot match at all. -/
def minLength : Regex → Option Nat
  | .empty => some 0
  | .literal chars => some chars.length
  | .oneOf set => if set.isEmpty then none else some 1
  | .look _ => some 0
  | .group _ body => body.minLength
  | .cat first second => do some ((← first.minLength) + (← second.minLength))
  | .alt preferred other => do some (min (← preferred.minLength) (← other.minLength))
  | .times body min _ _ => do some (min * (← body.minLength))

/-- Whether a match is known to have characters. -/
def isConsuming (regex : Regex) : Bool :=
  regex.minLength.any (0 < ·)

/-- Whether a match never has characters. -/
def isZeroWidth : Regex → Bool
  | .empty => true
  | .literal _ => false
  | .oneOf _ => false
  | .look _ => true
  | .group _ body => body.isZeroWidth
  | .cat first second => first.isZeroWidth && second.isZeroWidth
  | .alt preferred other => preferred.isZeroWidth && other.isZeroWidth
  | .times body _ max _ => max.isSome && body.isZeroWidth

/-! ## Parts and branches -/

def partsBefore : Regex → List Regex → List Regex
  | .cat first second, later => first.partsBefore (second :: later)
  | regex, later => regex :: later

/-- The parts of a concatenation; any other expression is its only part. -/
def parts (regex : Regex) : List Regex :=
  regex.partsBefore []

/-- The branches of a choice; any other expression is its only branch. -/
def branches : Regex → List Regex
  | .alt preferred other => preferred :: other.branches
  | regex => [regex]

/-- The one character that an expression stands for. -/
def theChar? : Regex → Option Char
  | .literal [c] => some c
  | _ => none

def theSet? : Regex → Option CharSet
  | .oneOf set => some set
  | _ => none

/-- The text that an expression stands for. -/
def theText? : Regex → Option (List Char)
  | .literal chars => some chars
  | _ => none

/-! ## Construction -/

/-- A single character out of a set. -/
def ofSet (set : CharSet) : Regex :=
  match set.theOnly? with
  | some c => .literal [c]
  | none => .oneOf set

/-- Rounds that read nothing are all alike, so one of them is enough; no round at all is the empty
expression, and exactly one is the body. -/
def ofRounds (body : Regex) (min : Nat) (max : Option Nat) (greedy : Bool) : Regex :=
  let min := if body.isZeroWidth then Nat.min min 1 else min
  let max := if body.isZeroWidth then some (Nat.min (max.getD 1) 1) else max
  if max = some 0 then .empty
  else if min = 1 ∧ max = some 1 then body
  else .times body min max greedy

/-- Puts a part in front of parts that are in short form. -/
def joinPart (part : Regex) (parts : List Regex) : List Regex :=
  match part, parts with
  | .empty, parts => parts
  | .literal chars, .literal more :: parts => .literal (chars ++ more) :: parts
  | part, parts => part :: parts

/-- Expressions one after the other. -/
def ofParts (parts : List Regex) : Regex :=
  match (parts.flatMap Regex.parts).foldr joinPart [] with
  | [] => .empty
  | first :: others => others.foldl .cat first

def altOf : List Regex → Regex
  | [] => .oneOf .empty
  | [branch] => branch
  | branch :: branches => .alt branch (altOf branches)

/-- A choice among branches that are no choices themselves. -/
def ofFlatBranches (branches : List Regex) : Regex :=
  match branches with
  | [] => altOf []
  | [branch] => branch
  | branches =>
      match branches.mapM theChar?, branches.mapM theSet? with
      | some cs, _ => ofSet (cs.foldl (fun set c => set.union (.single c)) .empty)
      | none, some sets => ofSet (sets.foldl .union .empty)
      | none, none => altOf branches

/-- The parts with which both lists begin. -/
def commonParts : List Regex → List Regex → List Regex
  | a :: as, b :: bs => if a = b then a :: commonParts as bs else []
  | _, _ => []

/-- The parts with which all branches begin, if each is a concatenation. -/
def sharedParts : List Regex → List Regex
  | [] => []
  | branch :: branches =>
      if (branch :: branches).all (fun branch => 2 ≤ branch.parts.length) then
        branches.foldl (fun shared branch => commonParts shared branch.parts) branch.parts
      else
        []

/-- A choice, the preferred branch first. -/
def ofBranches (branches : List Regex) : Regex :=
  let branches := branches.flatMap Regex.branches
  match branches, sharedParts branches with
  | _ :: _ :: _, first :: shared =>
      let rests := branches.map fun branch => ofParts (branch.parts.drop (shared.length + 1))
      ofParts (first :: shared ++ [ofFlatBranches (rests.flatMap Regex.branches)])
  | branches, _ => ofFlatBranches branches

end Regex

end RuleGrammar
