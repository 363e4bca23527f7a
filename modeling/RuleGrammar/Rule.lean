import RuleGrammar.Pattern

/-!
Owns grammar rules: what a rule reads and which other rules it reads for that.

A rule refers to its parts through a type of its own. In a grammar as written, a `RuleDef`, they are
names; once linked, a `LinkedRule`, they are the positions of the rules in the registry.
-/

namespace RuleGrammar

/-- Position of a rule in its registry. -/
structure RuleId where
  index : Nat
deriving DecidableEq, Repr

/-- What a sequence makes of the matches of its items. -/
inductive Shape where
  /-- All of them, in order. -/
  | all
  /-- Only the match of one item. -/
  | one (index : Nat)
  /-- The matches of some items, in the order given. -/
  | selection (indices : List Nat)
  /-- Matches of items under field names. -/
  | object (fields : List (Nat × String))
deriving DecidableEq, Repr

def Shape.indices : Shape → List Nat
  | .all => []
  | .one index => [index]
  | .selection indices => indices
  | .object fields => fields.map Prod.fst

/-- Occurrences of an element, with a separator between any two of them if there is one. -/
structure Repetition (R : Type) where
  element : R
  separator : Option R := none
  min : Nat := 0
  /-- Unbounded when absent. -/
  max : Option Nat := none
  /-- Whether a repetition of at most one occurrence gives the element's own match. -/
  collapseSingle : Bool := false
  /-- Whether separators are kept, each in a pair with the element after it. -/
  retainSeparators : Bool := false
deriving DecidableEq, Repr

inductive RuleKind (R : Type) where
  | literal (text : String)
  | pattern (pattern : Pattern)
  | sequence (items : List R) (shape : Shape)
  | choice (options : List R)
  | optional (inner : R)
  | repetition (repetition : Repetition R)
deriving DecidableEq, Repr

structure Rule (R : Type) where
  name : String
  /-- Whether skippable text is read first. -/
  appliesSkip : Bool
  kind : RuleKind R
deriving DecidableEq, Repr

abbrev RuleDef := Rule String

abbrev LinkedRule := Rule RuleId

namespace RuleKind

variable {R : Type}

def label : RuleKind R → String
  | .literal _ => "literal"
  | .pattern _ => "pattern"
  | .sequence _ _ => "sequence"
  | .choice _ => "choice"
  | .optional _ => "optional"
  | .repetition _ => "repeat"

/-- Whether the rule reads text itself, and not through other rules. -/
def isLeaf : RuleKind R → Bool
  | .literal _ => true
  | .pattern _ => true
  | _ => false

/-- The rules referred to, in the order in which they are looked up. -/
def dependencies : RuleKind R → List R
  | .literal _ => []
  | .pattern _ => []
  | .sequence items _ => items
  | .choice options => options
  | .optional inner => [inner]
  | .repetition rep => rep.element :: rep.separator.toList

end RuleKind

/-- Leaves apply skip unless told otherwise, rules made of rules do not. -/
def RuleDef.ofKind (name : String) (kind : RuleKind String) (skip : Option Bool := none) : RuleDef :=
  ⟨name, skip.getD kind.isLeaf, kind⟩

end RuleGrammar
