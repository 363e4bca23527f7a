import RuleGrammar.Proofs.Regex.Anchoring
import RuleGrammar.Text.Reader

/-!
Owns which text a compiled pattern reads: the one that backtracking prefers for its expression.

Contract: where one pass over a text leaves what backtracking leaves first (`Regex.ScannedBy`), the pattern
reads what that pass takes, and converts it (`Pattern.read?_of_scannedBy`).
-/

namespace RuleGrammar

namespace Regex

/-- Behind a condition on the start of the text, a search finds what backtracking prefers there. -/
theorem search_behind_start_of_isPlain {regex : Regex} (plain : regex.isPlain = true) (text : List Char) :
    search (ofParts [.look .textStart, regex]) text =
      (regex.remainders text).head?.map fun rest => ⟨[], text.take (text.length - rest.length)⟩ := by
  have leaves : Leaves (Cursor.start none text) (ends regex (Cursor.start none text))
      (regex.remainders text) := endsAt_follows plain rfl _
  rw [search_behind_start, ← leaves.same.head?_eq, List.head?_map, Option.map_map, Option.map_map]
  refine Option.map_congr fun stop member => ?_
  have total := (leaves.reaches stop (List.mem_of_head? member)).index_add_length
  have index : stop.index = text.length - stop.rest.length := by
    simp only [Cursor.start] at total
    omega
  simp only [Function.comp_apply, index]

/-! ## One pass over the text -/

/-- The scan leaves of every text what backtracking prefers to leave. -/
structure ScannedBy (regex : Regex) (scan : Reader (List Char)) : Prop where
  left : ∀ text, regex.findBehind some text = (scan text).map Prod.snd
  split : ∀ {text matched rest}, scan text = some (matched, rest) → text = matched ++ rest

end Regex

/-- A pattern reads what the scan takes, if that stands for a value. -/
theorem Pattern.read?_of_scannedBy {properties : Regex.PropertyTable} {source : String}
    {kind : ValueKind} {pattern : Pattern} {regex : Regex} {scan : Reader (List Char)}
    (compiled : compile? properties source kind = some pattern)
    (parsed : Regex.parse? properties source.toList = some regex) (plain : regex.isPlain = true)
    (scanned : regex.ScannedBy scan) (text : List Char) :
    pattern.read? text = (scan text).bind fun found =>
      (kind.convert found.1).map fun value => (value, Text.byteLength found.1) := by
  obtain ⟨alone, accepted, rfl⟩ := eq_of_compile? compiled
  obtain rfl : regex = alone :=
    Option.some.inj (parsed.symm.trans (Option.filter_eq_some_iff.mp accepted).1)
  have left : (regex.remainders text).head? = (scan text).map Prod.snd := by
    rw [← findSome?_some]
    exact scanned.left text
  rw [read?, Regex.search_behind_start_of_isPlain plain, left]
  cases found : scan text with
  | none => rfl
  | some found' =>
      obtain ⟨matched, rest⟩ := found'
      have taken : text.take (text.length - rest.length) = matched := by
        rw [scanned.split found, List.length_append, Nat.add_sub_cancel, List.take_left]
      simp only [Option.map_some, Option.bind_eq_bind, Option.bind_some, taken]
      cases kind.convert matched <;> simp [Text.byteLength]

end RuleGrammar
