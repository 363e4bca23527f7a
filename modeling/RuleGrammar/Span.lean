/-!
Owns spans: half-open ranges of byte offsets into a text.

A span may be written backwards; such a span is empty and has length zero.
-/

namespace RuleGrammar

structure Span where
  start : Nat
  stop : Nat
deriving DecidableEq, Repr

namespace Span

/-- The zero-width span at an offset. -/
def emptyAt (offset : Nat) : Span :=
  ⟨offset, offset⟩

def length (span : Span) : Nat :=
  span.stop - span.start

def isEmpty (span : Span) : Bool :=
  decide (span.stop ≤ span.start)

def contains (outer inner : Span) : Bool :=
  decide (outer.start ≤ inner.start ∧ inner.stop ≤ outer.stop)

def shift (span : Span) (distance : Nat) : Span :=
  ⟨distance + span.start, distance + span.stop⟩

/-- The written form `start..stop`. -/
def text (span : Span) : String :=
  s!"{span.start}..{span.stop}"

end Span

end RuleGrammar
