import RuleGrammar.Text.Blank
import RuleGrammar.Text.CaseOrbit
import RuleGrammar.Text.WordChar

/-!
Owns sets of characters, the classes of regular expressions.

Contract: a set is kept as the code points at which membership changes. Union, intersection, difference
and complement are combinations of two such lists, and `CharSet.memberFrom_combine` says that each
decides membership as its Boolean operator does. Surrogates are members of no set, so a set has one
form, and sets are equal as values when they have the same members.
-/

namespace RuleGrammar

/-- The members begin at the first bound, end before the second, begin again at the third, and so on, in
ascending order. -/
structure CharSet where
  bounds : List Nat
deriving DecidableEq, Repr

namespace CharSet

/-! ## Membership -/

/-- Membership of a number, where `inside` tells it of the numbers below the first bound. -/
def memberFrom (inside : Bool) : List Nat → Nat → Bool
  | [], _ => inside
  | bound :: bounds, n => if n < bound then inside else memberFrom (!inside) bounds n

def contains (set : CharSet) (c : Char) : Bool :=
  memberFrom false set.bounds c.toNat

/-! ## Combination -/

/-- A bound is kept where membership changes. -/
def keepChange (bound : Nat) (before after : Bool) (bounds : List Nat) : List Nat :=
  if before = after then bounds else bound :: bounds

/-- The bounds of a combination behind the last bound of the left set. -/
def combineLast (op : Bool → Bool → Bool) (left : Bool) : (right : Bool) → List Nat → List Nat
  | _, [] => []
  | right, y :: ys =>
      keepChange y (op left right) (op left (!right)) (combineLast op left (!right) ys)

/-- The bounds of a combination up to the bound `x` of the left set, and the others from `beyond`, which
is told where it begins. -/
def combineUpTo (op : Bool → Bool → Bool) (left : Bool) (x : Nat)
    (beyond : Bool → List Nat → List Nat) : (right : Bool) → List Nat → List Nat
  | right, [] => keepChange x (op left right) (op (!left) right) (beyond right [])
  | right, y :: ys =>
      if y < x then
        keepChange y (op left right) (op left (!right)) (combineUpTo op left x beyond (!right) ys)
      else if x < y then
        keepChange x (op left right) (op (!left) right) (beyond right (y :: ys))
      else
        keepChange x (op left right) (op (!left) (!right)) (beyond (!right) ys)

/-- The bounds of a combination; `left` and `right` tell membership below the first bounds. -/
def combine (op : Bool → Bool → Bool) : (left : Bool) → List Nat → (right : Bool) → List Nat → List Nat
  | left, [] => combineLast op left
  | left, x :: xs => combineUpTo op left x (combine op (!left) xs)

def union (a b : CharSet) : CharSet :=
  ⟨combine (· || ·) false a.bounds false b.bounds⟩

def inter (a b : CharSet) : CharSet :=
  ⟨combine (· && ·) false a.bounds false b.bounds⟩

def diff (a b : CharSet) : CharSet :=
  ⟨combine (fun inA inB => inA && !inB) false a.bounds false b.bounds⟩

def symmDiff (a b : CharSet) : CharSet :=
  ⟨combine Bool.xor false a.bounds false b.bounds⟩

/-! ## Sets -/

def empty : CharSet :=
  ⟨[]⟩

/-- The characters are the code points without the surrogates. -/
def all : CharSet :=
  ⟨[0, 0xd800, 0xe000, 0x110000]⟩

def compl (a : CharSet) : CharSet :=
  all.diff a

/-- Ranges in ascending order, with gaps between them and without surrogates. -/
def ofCodePoints (ranges : Text.CodePoints) : CharSet :=
  ⟨ranges.flatMap fun (first, last) => [first, last + 1]⟩

/-- The characters that are one byte each. -/
def ascii : CharSet :=
  ⟨[0, 0x80]⟩

def single (c : Char) : CharSet :=
  ⟨[c.toNat, c.toNat + 1]⟩

def range (first last : Char) : CharSet :=
  all.inter ⟨[first.toNat, last.toNat + 1]⟩

def ofRanges (ranges : List (Char × Char)) : CharSet :=
  ranges.foldr (fun (first, last) rest => (range first last).union rest) empty

def digit : CharSet :=
  ofCodePoints Text.decimalDigitRanges

def blank : CharSet :=
  ofCodePoints Text.blankRanges

def word : CharSet :=
  (ofCodePoints Text.alphabeticRanges).union (ofCodePoints Text.wordExtraRanges)

/-! ## Parts of a set -/

/-- The first and last code point of each run of members. -/
def pairs : List Nat → Text.CodePoints
  | first :: stop :: bounds => (first, stop - 1) :: pairs bounds
  | _ => []

def ranges (set : CharSet) : Text.CodePoints :=
  pairs set.bounds

def isEmpty (set : CharSet) : Bool :=
  set.bounds.isEmpty

/-- Whether all members are ASCII characters. -/
def isAscii (set : CharSet) : Bool :=
  set.bounds.all (· ≤ 0x80)

/-- The member of a set that has one only. -/
def theOnly? (set : CharSet) : Option Char :=
  match set.bounds with
  | [first, stop] => if stop = first + 1 then some (Char.ofNat first) else none
  | _ => none

/-- The set together with every case variant of its members. -/
def anyCase (set : CharSet) : CharSet :=
  Text.caseRuns.foldl
    (fun folded run =>
      match set.ranges.flatMap fun (first, last) => run.image first last with
      | [] => folded
      | variants => folded.union (ofCodePoints variants))
    set

/-- The set together with the other case of its ASCII letters. -/
def anyAsciiCase (set : CharSet) : CharSet :=
  set.union ((set.inter ascii).anyCase.inter ascii)

/-! ## Laws -/

theorem memberFrom_keepChange {bound n : Nat} {before after : Bool} {bounds : List Nat}
    (below : n < bound → memberFrom after bounds n = after) :
    memberFrom before (keepChange bound before after bounds) n =
      if n < bound then before else memberFrom after bounds n := by
  cases before <;> cases after <;> grind [keepChange, memberFrom]

/-- Below all bounds membership is what it begins with. -/
theorem memberFrom_of_below {inside : Bool} {bounds : List Nat} {n : Nat}
    (below : ∀ bound ∈ bounds, n < bound) : memberFrom inside bounds n = inside := by
  cases bounds with
  | nil => rfl
  | cons bound bounds => simp [memberFrom, below bound]

theorem memberFrom_combineLast (op : Bool → Bool → Bool) (left : Bool) :
    ∀ (right : Bool) (ys : List Nat) (n : Nat), ys.Pairwise (· < ·) →
      memberFrom (op left right) (combineLast op left right ys) n = op left (memberFrom right ys n)
  | right, [], n, _ => rfl
  | right, y :: ys, n, ascending => by
      have later := List.pairwise_cons.1 ascending
      have rest := memberFrom_combineLast op left (!right) ys n later.2
      rw [combineLast, memberFrom_keepChange]
      · grind [memberFrom]
      · intro below
        rw [rest, memberFrom_of_below fun bound held => by have := later.1 bound held; omega]

theorem memberFrom_combineUpTo (op : Bool → Bool → Bool) (left : Bool) (x : Nat) (xs : List Nat)
    (beyond : Bool → List Nat → List Nat) (n : Nat) (later : ∀ bound ∈ xs, x < bound)
    (beyond_spec : ∀ (right : Bool) (ys : List Nat), ys.Pairwise (· < ·) →
      memberFrom (op (!left) right) (beyond right ys) n =
        op (memberFrom (!left) xs n) (memberFrom right ys n)) :
    ∀ (right : Bool) (ys : List Nat), ys.Pairwise (· < ·) →
      memberFrom (op left right) (combineUpTo op left x beyond right ys) n =
        op (memberFrom left (x :: xs) n) (memberFrom right ys n) := by
  have leftBelow : n < x → memberFrom (!left) xs n = !left := fun below =>
    memberFrom_of_below fun bound held => by have := later bound held; omega
  intro right ys
  induction ys generalizing right with
  | nil =>
      intro ascending
      rw [combineUpTo, memberFrom_keepChange]
      · grind [memberFrom]
      · grind [memberFrom]
  | cons y ys inductionHypothesis =>
      intro ascending
      have split := List.pairwise_cons.1 ascending
      have rightBelow : n < y → memberFrom (!right) ys n = !right := fun below =>
        memberFrom_of_below fun bound held => by have := split.1 bound held; omega
      unfold combineUpTo
      split
      · rw [memberFrom_keepChange]
        · grind [memberFrom]
        · grind [memberFrom]
      · split
        · rw [memberFrom_keepChange]
          · grind [memberFrom]
          · grind [memberFrom]
        · rw [memberFrom_keepChange]
          · grind [memberFrom]
          · grind [memberFrom]

/-- A combination decides membership by its operator. -/
theorem memberFrom_combine (op : Bool → Bool → Bool) (n : Nat) :
    ∀ (left : Bool) (xs : List Nat) (right : Bool) (ys : List Nat),
      xs.Pairwise (· < ·) → ys.Pairwise (· < ·) →
        memberFrom (op left right) (combine op left xs right ys) n =
          op (memberFrom left xs n) (memberFrom right ys n)
  | left, [], right, ys, _, ascending => memberFrom_combineLast op left right ys n ascending
  | left, x :: xs, right, ys, ascendingLeft, ascending =>
      have split := List.pairwise_cons.1 ascendingLeft
      memberFrom_combineUpTo op left x xs (combine op (!left) xs) n split.1
        (fun right ys ascending => memberFrom_combine op n (!left) xs right ys split.2 ascending)
        right ys ascending

end CharSet

end RuleGrammar
