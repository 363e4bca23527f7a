import RuleGrammar.Regex.Size.Basic

/-!
Owns the size of automata for choices among texts, in which texts that begin alike are one way as far as
they do. Order counts, so a text that ends where another goes on separates the ways that were added before
from those added after.
-/

namespace RuleGrammar.Regex

/-- The ways on from a point, the latest first: bytes with what follows them, and marks where a text
ends. -/
inductive LiteralTree where
  | stop
  | mark (earlier : LiteralTree)
  | branch (byte : UInt8) (inner earlier : LiteralTree)
deriving DecidableEq, Repr

namespace LiteralTree

/-- Whether no text goes on from here. -/
def isLeaf : LiteralTree → Bool
  | .stop => true
  | .mark earlier => earlier.isLeaf
  | .branch _ _ _ => false

/-- Marks the end of a text. A second mark with no way on would add nothing. -/
def addMark (tree : LiteralTree) : LiteralTree :=
  match tree with
  | .stop => .mark .stop
  | tree => if tree.isLeaf then tree else .mark tree

/-- The tree of a single text. -/
def path : List UInt8 → LiteralTree
  | [] => .mark .stop
  | byte :: bytes => .branch byte (path bytes) .stop

/-- Adds a text; it shares a way that was added since the last mark. -/
def insert : LiteralTree → List UInt8 → LiteralTree
  | tree, [] => tree.addMark
  | .stop, byte :: bytes => .branch byte (path bytes) .stop
  | .mark earlier, byte :: bytes => .branch byte (path bytes) (.mark earlier)
  | .branch other inner earlier, byte :: bytes =>
      if byte = other then .branch other (insert inner bytes) earlier
      else .branch other inner (insert earlier (byte :: bytes))

def ofTexts (texts : List (List UInt8)) : LiteralTree :=
  texts.foldl insert .stop

/-- Growth by a state that reads one of `branches` bytes. -/
def growChunk (branches : Nat) : Growth :=
  if branches = 0 then some
  else if branches = 1 then grow 1 0
  else grow 1 (8 * branches)

/-- Growth by a tree, where `branches` ways have been passed since the last mark, and `entries` states
and ends of texts before that. A state in front of them is needed unless there is one of them only. -/
def growth : (tree : LiteralTree) → (branches entries : Nat) → Growth
  | .stop, branches, entries, footprint => do
      let footprint ← growChunk branches footprint
      let entries := if branches = 0 then entries else entries + 1
      if entries = 1 then some footprint else grow 1 (4 * entries) footprint
  | .mark earlier, branches, entries, footprint => do
      let footprint ← growChunk branches footprint
      growth earlier 0 (if branches = 0 then entries + 1 else entries + 2) footprint
  | .branch _ inner earlier, branches, entries, footprint => do
      let footprint ← if inner.isLeaf then some footprint else growth inner 0 0 footprint
      growth earlier (branches + 1) entries footprint

end LiteralTree

/-- Growth by a choice among texts. -/
def growTexts (texts : List (List UInt8)) : Growth := fun footprint => do
  (LiteralTree.ofTexts texts).growth 0 0 (← grow 1 0 footprint)

end RuleGrammar.Regex
