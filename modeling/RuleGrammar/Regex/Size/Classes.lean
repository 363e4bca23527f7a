import RuleGrammar.Regex.CharSet
import RuleGrammar.Regex.Size.Basic
import RuleGrammar.Text.ByteRanges

/-!
Owns the size of automata for sets of characters, which read the bytes of an encoding.

Read forward, sequences of byte ranges that begin alike are one way as far as they do, and ways that end
alike are shared. Read backward, each sequence is a way of its own, up to the states that are shared.
-/

namespace RuleGrammar.Regex

open Text (ByteRange)

/-- The encodings of the members, as sequences of byte ranges in ascending order. -/
def encodings (set : CharSet) : List (List ByteRange) :=
  set.ranges.flatMap Text.byteRanges

/-! ## Forward -/

/-- A byte range and the number of the state that it leads to. -/
abbrev Link := ByteRange × Nat

/-- Puts neighbouring sequences with the same first range together. -/
def groupByHead (sequences : List (List ByteRange)) : List (ByteRange × List (List ByteRange)) :=
  sequences.foldr
    (fun sequence groups =>
      match sequence, groups with
      | [], groups => groups
      | head :: tail, (other, tails) :: groups =>
          if head = other then (head, tail :: tails) :: groups
          else (head, [tail]) :: (other, tails) :: groups
      | head :: tail, [] => [(head, [tail])])
    []

def slotOfLinks (links : List Link) : Nat :=
  slotOf 10000 (links.flatMap fun ((first, last), next) => [first.toNat, last.toNat, next])

/-- The number of the state from which some sequences, of `depth` ranges at most, lead to the target. -/
def stateFor (target : Nat) : (depth : Nat) → List (List ByteRange) → Sharing (List Link) →
    Option (Nat × Sharing (List Link))
  | 0, _, sharing => some (target, sharing)
  | depth + 1, sequences, sharing => do
      let (links, sharing) ← (groupByHead sequences).foldlM
        (fun (links, sharing) (head, tails) =>
          if tails = [[]] then
            some ((head, target) :: links, sharing)
          else
            (stateFor target depth tails sharing).map fun (next, sharing) =>
              ((head, next) :: links, sharing))
        ([], sharing)
      let links := links.reverse
      sharing.state (slotOfLinks links) links (8 * links.length)

def growForwardSet (sequences : List (List ByteRange)) : Growth := fun footprint => do
  let target := footprint.states
  let footprint ← grow 1 0 footprint
  let (_, sharing) ← stateFor target 4 sequences ⟨footprint, {}⟩
  some sharing.footprint

/-! ## Backward -/

def slotOfLink (link : Link) : Nat :=
  slotOf 1000 [link.2, link.1.1.toNat, link.1.2.toNat]

/-- Growth by the states of one sequence, whose first range leads to `stop`. -/
def addBackward (stop : Nat) : List ByteRange → Sharing Link → Option (Sharing Link)
  | [], sharing => some sharing
  | range :: ranges, sharing => do
      let (number, sharing) ← sharing.state (slotOfLink (range, stop)) (range, stop) 0
      addBackward number ranges sharing

def growBackwardSet (sequences : List (List ByteRange)) : Growth := fun footprint => do
  let stop := footprint.states + 1
  let footprint ← grow 2 (4 * sequences.length) footprint
  let sharing ← sequences.foldlM (fun sharing sequence => addBackward stop sequence sharing)
    ⟨footprint, {}⟩
  some sharing.footprint

/-- Growth by a set: ASCII characters need no more than a state with a link for each range. -/
def growSet (backward : Bool) (set : CharSet) : Growth :=
  if set.isAscii then grow 2 (8 * set.ranges.length)
  else if backward then growBackwardSet (encodings set)
  else growForwardSet (encodings set)

end RuleGrammar.Regex
