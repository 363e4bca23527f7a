import Std.Data.HashMap

/-!
Owns the measure of automata: how many states one has and how many bytes they take.

An automaton grows state by state, and stops growing at a limit. Growth in several steps is growth in each
of them, one after the other.
-/

namespace RuleGrammar.Regex

/-- What an automaton takes: its states, and the bytes of the links that lead on from them. -/
structure Footprint where
  states : Nat
  linkBytes : Nat
deriving DecidableEq, Repr

namespace Footprint

def bytes (footprint : Footprint) : Nat :=
  32 * footprint.states + footprint.linkBytes

end Footprint

def sizeLimit : Nat :=
  10 * Nat.pow 2 20

/-- How an automaton grows by a part; `none` when the limit is passed. -/
abbrev Growth := Footprint → Option Footprint

/-- Growth by some states and the bytes of their links. -/
def grow (states linkBytes : Nat) : Growth := fun footprint =>
  let grown : Footprint := ⟨footprint.states + states, footprint.linkBytes + linkBytes⟩
  if grown.bytes ≤ sizeLimit then some grown else none

/-- Growth by several copies of a part. -/
def growTimes (growth : Growth) : (count : Nat) → Growth
  | 0, footprint => some footprint
  | count + 1, footprint =>
      match growth footprint with
      | none => none
      | some footprint => growTimes growth count footprint

/-! ## Shared states

States that are alike are built once, as far as a table of limited size remembers them: each has its slot,
and the last state that was built for a slot holds it. -/

/-- A growing automaton with the states that can be shared, by slot, under their keys. -/
structure Sharing (κ : Type) where
  footprint : Footprint
  slots : Std.HashMap Nat (κ × Nat)

/-- The slot of a key, which is given as a list of numbers. -/
def slotOf (slotCount : Nat) (words : List Nat) : Nat :=
  let mixed :=
    words.foldl (fun (hash : UInt64) word => (hash ^^^ word.toUInt64) * 1099511628211)
      14695981039346656037
  mixed.toNat % slotCount

/-- The number of the state with a key, which is added if its slot does not hold it. -/
def Sharing.state {κ : Type} [DecidableEq κ] (sharing : Sharing κ) (slot : Nat) (key : κ)
    (linkBytes : Nat) : Option (Nat × Sharing κ) :=
  let known :=
    match sharing.slots[slot]? with
    | some (held, number) => if held = key then some number else none
    | none => none
  match known with
  | some number => some (number, sharing)
  | none =>
      let number := sharing.footprint.states
      (grow 1 linkBytes sharing.footprint).map fun footprint =>
        (number, ⟨footprint, sharing.slots.insert slot (key, number)⟩)

end RuleGrammar.Regex
