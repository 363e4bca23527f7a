import RuleGrammar.Regex.Basic
import RuleGrammar.Regex.Size.Classes
import RuleGrammar.Regex.Size.Literals

/-!
Owns the limit on the size of expressions: the automata that read one forward and backward must
stay within it.

Contract: `Regex.fits` decides by `Regex.sizeBound` alone where that is below the limit, and builds up the
two automata otherwise. A repetition with counts has a copy of its body for each round that it counts.
-/

namespace RuleGrammar.Regex

/-! ## Growth by an expression -/

def encode (chars : List Char) : List UInt8 :=
  chars.flatMap String.utf8EncodeChar

/-- The texts of a choice among nothing but texts. -/
def literalBranches? (regex : Regex) : Option (List (List UInt8)) :=
  regex.branches.mapM fun branch => branch.theText?.map encode

/-- Growth by the rounds of a repetition. A way past the rest of the rounds is a link to it, and what may
be left out altogether has an end of its own. -/
def growRounds (body : Growth) (consuming : Bool) : (min : Nat) → (max : Option Nat) → Growth
  | 0, none, footprint =>
      if consuming then do
        body (← grow 1 8 footprint)
      else do
        grow 3 16 (← body footprint)
  | min + 1, none, footprint => do
      grow 1 8 (← growTimes body (min + 1) footprint)
  | min, some max, footprint =>
      if max = min then
        if min = 0 then grow 1 0 footprint else growTimes body min footprint
      else if min = 0 ∧ max = 1 then do
        grow 1 0 (← body (← grow 1 8 footprint))
      else do
        let footprint ← if min = 0 then grow 1 0 footprint else growTimes body min footprint
        let optional : Growth := fun footprint => do
          body (← grow 1 8 footprint)
        growTimes optional (max - min) (← grow 1 0 footprint)

mutual

/-- Growth by an expression that is read forward, with the ends of its groups noted, or backward. -/
def growth (backward : Bool) : Regex → Growth
  | .empty, footprint => grow 1 0 footprint
  | .literal chars, footprint => grow (encode chars).length 0 footprint
  | .oneOf set, footprint => growSet backward set footprint
  | .look _, footprint => grow 1 0 footprint
  | .group _ body, footprint =>
      if backward then
        growth backward body footprint
      else do
        grow 1 0 (← growth backward body (← grow 1 0 footprint))
  | .cat first second, footprint =>
      if backward then do
        growth backward first (← growth backward second footprint)
      else do
        growth backward second (← growth backward first footprint)
  | .alt preferred other, footprint =>
      match literalBranches? (.alt preferred other) with
      | some texts => growTexts (if backward then texts.map List.reverse else texts) footprint
      | none => do
          growSecond backward other (← growth backward preferred footprint)
  | .times body min max _, footprint =>
      growRounds (growth backward body) body.isConsuming min max footprint

/-- Growth by the branches of a choice from the second on; the states that begin and end the choice come
before the third. -/
def growSecond (backward : Bool) : Regex → Growth
  | .alt second others, footprint => do
      growOthers backward others (← grow 2 8 (← growth backward second footprint))
  | second, footprint => do
      grow 2 8 (← growth backward second footprint)

/-- Growth by the branches of a choice from the third on. -/
def growOthers (backward : Bool) : Regex → Growth
  | .alt branch others, footprint => do
      growOthers backward others (← grow 0 4 (← growth backward branch footprint))
  | branch, footprint => do
      grow 0 4 (← growth backward branch footprint)

end

/-! ## Ties to the ends of a text -/

/-- Whether every match begins with the condition. -/
def beginsWith (condition : Look) : Regex → Bool
  | .look other => other == condition
  | .group _ body => body.beginsWith condition
  | .cat first second =>
      first.beginsWith condition || (first.isZeroWidth && second.beginsWith condition)
  | .alt preferred other => preferred.beginsWith condition && other.beginsWith condition
  | .times body min _ _ => decide (0 < min) && body.beginsWith condition
  | _ => false

/-- Whether every match ends with the condition. -/
def endsWith (condition : Look) : Regex → Bool
  | .look other => other == condition
  | .group _ body => body.endsWith condition
  | .cat first second =>
      second.endsWith condition || (second.isZeroWidth && first.endsWith condition)
  | .alt preferred other => preferred.endsWith condition && other.endsWith condition
  | .times body min _ _ => decide (0 < min) && body.endsWith condition
  | _ => false

/-! ## The limit -/

/-- Growth by what goes before an expression: a search from any position, unless it is tied to an end. -/
def growStart (tied : Bool) : Growth :=
  if tied then grow 1 0 else grow 3 16

/-- The automaton that finds the end of a match; the match as a whole is a group, and has an end. -/
def forwardFootprint (regex : Regex) : Option Footprint := do
  let footprint ← growStart (regex.beginsWith .textStart) ⟨0, 0⟩
  grow 2 0 (← growth false regex (← grow 1 0 footprint))

/-- The automaton that finds the beginning of a match from its end. -/
def backwardFootprint (regex : Regex) : Option Footprint := do
  grow 1 0 (← growth true regex (← growStart (regex.endsWith .textEnd) ⟨0, 0⟩))

/-- A number of bytes that neither automaton exceeds. A range of code points has at most 16 sequences
of four byte ranges, each with a state and its links. -/
def sizeBound : Regex → Nat
  | .empty => 32
  | .literal chars => 512 * chars.length
  | .oneOf set => 3000 * (set.ranges.length + 1)
  | .look _ => 32
  | .group _ body => body.sizeBound + 64
  | .cat first second => first.sizeBound + second.sizeBound
  | .alt preferred other => preferred.sizeBound + other.sizeBound + 128
  | .times body min max _ => (Nat.max min (max.getD 0) + 1) * (body.sizeBound + 64) + 192

def fits (regex : Regex) : Bool :=
  decide (regex.sizeBound + 512 ≤ sizeLimit) ||
    (regex.forwardFootprint.isSome && regex.backwardFootprint.isSome)

end RuleGrammar.Regex
