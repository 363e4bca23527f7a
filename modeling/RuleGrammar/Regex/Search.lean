import RuleGrammar.Regex.Basic
import Std.Data.TreeSet

/-!
Owns what regular expressions match.

Contract: `Regex.ends` lists where a match that begins at a cursor may end, the preferred end
first and each end once. Preference is the usual one: the first alternative before the second,
one more round of a greedy repetition before none, and the reverse for a lazy one. An attempt that
comes back to a choice it has made already, with no character read since, is given up; so repetitions
end. `Regex.search` takes the first position of the text that has an end at all, and there the
preferred one.
-/

namespace RuleGrammar

/-- A place in an expression: the way down to it, innermost step first, and whether a repetition around
it may come back to it with no character read. -/
structure Place where
  path : List Nat
  looped : Bool
deriving DecidableEq, Repr

namespace Place

def root : Place :=
  ⟨[], false⟩

def inner (place : Place) (step : Nat) : Place :=
  { place with path := step :: place.path }

/-- The same place inside a repetition whose rounds may read nothing. -/
def loop (place : Place) : Place :=
  { place with looped := true }

end Place

/-- A position in a text: the character before it and everything after it, and the choices made there
so far. -/
structure Cursor where
  index : Nat
  before : Option Char
  rest : List Char
  choices : List (List Nat)
deriving DecidableEq, Repr

/-- Whether an edge lies between two characters, when it is known of each whether it belongs to words. -/
def WordEdge.holds (before after : Bool) : WordEdge → Bool
  | .boundary => before != after
  | .noBoundary => before == after
  | .start => !before && after
  | .stop => before && !after
  | .startHalf => !before
  | .stopHalf => !after

namespace Cursor

def start (before : Option Char) (text : List Char) : Cursor :=
  ⟨0, before, text, []⟩

/-- Past the next character, if it passes the test. -/
def step? (cursor : Cursor) (test : Char → Bool) : Option Cursor :=
  match cursor.rest with
  | [] => none
  | c :: rest => if test c then some ⟨cursor.index + 1, some c, rest, []⟩ else none

/-- Past the next characters, if they are these. -/
def stepText? (cursor : Cursor) (chars : List Char) : Option Cursor :=
  chars.foldlM (fun cursor c => cursor.step? (· == c)) cursor

/-- Makes a choice. At a place that an attempt may come back to, it can be made once only. -/
def choose? (cursor : Cursor) (place : Place) : Option Cursor :=
  if !place.looped then some cursor
  else if cursor.choices.contains place.path then none
  else some { cursor with choices := place.path :: cursor.choices }

/-- Whether a character belongs to words. -/
def isWordChar (unicode : Bool) (c : Char) : Bool :=
  Text.isWordChar c && (unicode || decide (c.toNat < 0x80))

/-- A line begins at the start of the text and behind the end of another line; the two characters that
may end a line together are not taken apart. -/
def beginsLine (cursor : Cursor) (crlf : Bool) : Bool :=
  cursor.before.all fun c =>
    c == '\n' || crlf && c == '\r' && cursor.rest.head? != some '\n'

def endsLine (cursor : Cursor) (crlf : Bool) : Bool :=
  cursor.rest.head?.all fun c =>
    c == '\n' && !(crlf && cursor.before == some '\r') || crlf && c == '\r'

def holds (cursor : Cursor) : Look → Bool
  | .textStart => cursor.before.isNone
  | .textEnd => cursor.rest.isEmpty
  | .lineStart crlf => cursor.beginsLine crlf
  | .lineEnd crlf => cursor.endsLine crlf
  | .word edge unicode =>
      edge.holds (cursor.before.any (isWordChar unicode)) (cursor.rest.head?.any (isWordChar unicode))

def occursIn (cursor : Cursor) (cursors : List Cursor) : Bool :=
  cursors.any (·.index == cursor.index)

/-- Keeps the first of the cursors at each position. -/
def distinct (cursors : List Cursor) : List Cursor :=
  (cursors.foldl (fun kept c => if c.occursIn kept then kept else c :: kept) []).reverse

end Cursor

namespace Regex

/-! ## Repetition

The rounds of a repetition are separate places, numbered from zero, except that rounds without an upper
bound all take place in the last one. `round i` gives the ends of a round in place `i`. -/

/-- The rounds from `first` on, `count` of them, one after the other. -/
def rounds (round : Nat → Cursor → List Cursor) : (count first : Nat) → List Cursor → List Cursor
  | 0, _, cursors => cursors
  | count + 1, first, cursors =>
      match cursors with
      | [] => []
      | _ => rounds round count (first + 1) (Cursor.distinct (cursors.flatMap (round first)))

/-- A point between two rounds: the place of the next one, how many are allowed, and the position. -/
structure Between where
  round : Nat
  allowed : Option Nat
  cursor : Cursor
deriving DecidableEq, Repr

/-- The points after one more round. -/
def Between.next (round : Nat → Cursor → List Cursor) (point : Between) : List Between :=
  match point.allowed with
  | none => (round point.round point.cursor).map (⟨point.round, none, ·⟩)
  | some allowed =>
      (round point.round point.cursor).map (⟨point.round + 1, some (allowed - 1), ·⟩)

/-- Points by the place of the next round and the position. -/
abbrev Visited := Std.TreeSet (Nat × Nat) (compareLex (compareOn Prod.fst) (compareOn Prod.snd))

/-- What an exploration has visited, and the ends found so far, the latest first. -/
structure Trail where
  visited : Visited
  found : List Cursor

def Trail.find (trail : Trail) (cursor : Cursor) : Trail :=
  if cursor.occursIn trail.found then trail else { trail with found := cursor :: trail.found }

/-- Explores the points reachable by further rounds, each once: a greedy repetition ends at a point
after all that lie beyond it, a lazy one before them. To go on or to end is a choice, unless no round
is allowed. -/
def explore (round : Nat → Cursor → List Cursor) (place : Place) (greedy : Bool) :
    (fuel : Nat) → Trail → Between → Trail
  | 0, trail, _ => trail
  | fuel + 1, trail, point =>
      if point.allowed = some 0 then
        trail.find point.cursor
      else
        let key := (point.round, point.cursor.index)
        match point.cursor.choose? (place.inner point.round) with
        | none => trail
        | some cursor =>
            if trail.visited.contains key then
              trail
            else
              let further := { point with cursor := cursor }.next round
              let trail := { trail with visited := trail.visited.insert key }
              if greedy then
                (further.foldl (explore round place greedy fuel) trail).find cursor
              else
                further.foldl (explore round place greedy fuel) (trail.find cursor)

/-- The ends of all that can be explored from some points. -/
def exploreAll (round : Nat → Cursor → List Cursor) (place : Place) (greedy : Bool) (fuel : Nat)
    (points : List Between) : List Cursor :=
  (points.foldl (explore round place greedy fuel) ⟨{}, []⟩).found.reverse

/-- Any number of rounds of a body that may consume nothing: to begin at all is a choice of its own,
made before the one between rounds. -/
def anyRounds (round : Nat → Cursor → List Cursor) (place : Place) (greedy : Bool) (fuel : Nat)
    (cursor : Cursor) : List Cursor :=
  match cursor.choose? (place.inner 1) with
  | none => []
  | some cursor =>
      let begun := exploreAll round place greedy fuel ((round 0 cursor).map (⟨0, none, ·⟩))
      Cursor.distinct (if greedy then begun ++ [cursor] else cursor :: begun)

/-- The ends of a repetition: the required rounds, and then the others. Without an upper bound the
last required round may be followed by more in the same place. Of optional rounds, one more than there
are characters left is enough: further ones read nothing that these do not. -/
def repeated (round : Nat → Cursor → List Cursor) (place : Place) (greedy consuming : Bool) (min : Nat)
    (max : Option Nat) (cursor : Cursor) : List Cursor :=
  let fuel := cursor.rest.length + 2
  match min, max with
  | min, some max =>
      let allowed := Nat.min (max - min) (cursor.rest.length + 1)
      exploreAll round place greedy fuel
        ((rounds round min 0 [cursor]).map (⟨min, some allowed, ·⟩))
  | 0, none =>
      if consuming then exploreAll round place greedy fuel [⟨0, none, cursor⟩]
      else anyRounds round place greedy fuel cursor
  | min + 1, none =>
      exploreAll round place greedy fuel ((rounds round (min + 1) 0 [cursor]).map (⟨min, none, ·⟩))

/-- The place of a repetition; its rounds may come back to it if they are unbounded and read nothing. -/
def roundsPlace (place : Place) (body : Regex) (max : Option Nat) : Place :=
  if max.isNone && !body.isConsuming then place.loop else place

/-! ## Ends -/

/-- The ends of the expression at a place. -/
def endsAt : Regex → Place → Cursor → List Cursor
  | .empty, _, cursor => [cursor]
  | .literal chars, _, cursor => (cursor.stepText? chars).toList
  | .oneOf set, _, cursor => (cursor.step? set.contains).toList
  | .look condition, _, cursor => if cursor.holds condition then [cursor] else []
  | .group _ body, place, cursor => endsAt body place cursor
  | .cat first second, place, cursor =>
      Cursor.distinct ((endsAt first (place.inner 0) cursor).flatMap (endsAt second (place.inner 1)))
  | .alt preferred other, place, cursor =>
      match cursor.choose? place with
      | none => []
      | some cursor =>
          Cursor.distinct
            (endsAt preferred (place.inner 0) cursor ++ endsAt other (place.inner 1) cursor)
  | .times body min max greedy, place, cursor =>
      let place := roundsPlace place body max
      repeated (fun i => endsAt body ((place.inner 0).inner i)) place greedy body.isConsuming min max
        cursor

def ends (regex : Regex) (cursor : Cursor) : List Cursor :=
  endsAt regex .root cursor

/-- A match somewhere in a text: the characters before it, and its own. -/
structure Found where
  skipped : List Char
  matched : List Char
deriving DecidableEq, Repr

def searchFrom (regex : Regex) : Option Char → List Char → Option Found
  | before, [] => (ends regex (Cursor.start before [])).head?.map fun _ => ⟨[], []⟩
  | before, c :: rest =>
      match (ends regex (Cursor.start before (c :: rest))).head? with
      | some stop => some ⟨[], (c :: rest).take stop.index⟩
      | none =>
          (searchFrom regex (some c) rest).map fun found => { found with skipped := c :: found.skipped }

/-- The leftmost match, and the preferred one there. -/
def search (regex : Regex) (text : List Char) : Option Found :=
  searchFrom regex none text

end Regex

end RuleGrammar
