import RuleGrammar.Pattern

/-!
Owns the boundaries of a text, the offsets between its characters, and what keeps to them: the text
under a span, and the matches of regular expressions and patterns.
-/

namespace RuleGrammar

namespace Text

/-! ## Boundaries -/

/-- An offset lies between two characters, or at an end of the text. -/
def IsBoundary (text : List Char) (offset : Nat) : Prop :=
  (suffixAt text offset).isSome

instance (text : List Char) (offset : Nat) : Decidable (IsBoundary text offset) := by
  unfold IsBoundary
  infer_instance

theorem isBoundary_iff {text : List Char} {offset : Nat} :
    IsBoundary text offset ↔ ∃ head tail, text = head ++ tail ∧ byteLength head = offset := by
  unfold IsBoundary
  rw [Option.isSome_iff_exists]
  simp only [suffixAt_eq_some_iff]
  exact exists_comm

theorem not_isBoundary_iff {text : List Char} {offset : Nat} :
    ¬ IsBoundary text offset ↔ suffixAt text offset = none := by
  simp [IsBoundary]

theorem IsBoundary.le {text : List Char} {offset : Nat} (boundary : IsBoundary text offset) :
    offset ≤ byteLength text := by
  obtain ⟨head, tail, rfl, rfl⟩ := isBoundary_iff.mp boundary
  simp

/-- The end of a text that follows a boundary is a boundary. -/
theorem IsBoundary.of_suffixAt {text matched rest : List Char} {offset : Nat}
    (found : suffixAt text offset = some (matched ++ rest)) :
    IsBoundary text (offset + byteLength matched) := by
  obtain ⟨head, rfl, rfl⟩ := suffixAt_eq_some_iff.mp found
  exact isBoundary_iff.mpr ⟨head ++ matched, rest, by simp, by simp⟩

theorem byteLength_eq_zero {text : List Char} : byteLength text = 0 ↔ text = [] := by
  cases text with
  | nil => simp [byteLength]
  | cons c rest =>
      have positive := c.utf8Size_pos
      simp [byteLength]
      omega

/-- A span with its ends in order and at boundaries has a text under it. -/
theorem slice_isSome {text : List Char} {span : Span} (ordered : span.start ≤ span.stop)
    (startBoundary : IsBoundary text span.start) (stopBoundary : IsBoundary text span.stop) :
    (slice text span).isSome := by
  obtain ⟨head, tail, whole, headLength⟩ := isBoundary_iff.mp startBoundary
  obtain ⟨head', tail', rfl, headLength'⟩ := isBoundary_iff.mp stopBoundary
  have found : suffixAt (head' ++ tail') span.start = some tail :=
    suffixAt_eq_some_iff.mpr ⟨head, whole, headLength⟩
  have covered : ∃ middle, tail = middle ++ tail' ∧ byteLength middle = span.length := by
    unfold Span.length
    rcases List.append_eq_append_iff.mp whole with ⟨extra, rfl, rfl⟩ | ⟨middle, rfl, rfl⟩
    · rw [byteLength_append] at headLength
      have nothing : extra = [] := byteLength_eq_zero.mp (by omega)
      exact ⟨[], by simp [nothing], by simp [byteLength]; omega⟩
    · rw [byteLength_append] at headLength'
      exact ⟨middle, rfl, by omega⟩
  obtain ⟨middle, rfl, length⟩ := covered
  simp [slice, ordered, found, ← length, prefixAt_append]

end Text

/-! ## Matches of expressions -/

/-- What a search finds lies in the text, behind what it skips. -/
theorem Regex.eq_append_of_searchFrom {regex : Regex} {before : Option Char} {text : List Char}
    {found : Found} (search : regex.searchFrom before text = some found) :
    ∃ rest, text = found.skipped ++ found.matched ++ rest := by
  fun_induction Regex.searchFrom regex before text generalizing found with
  | case1 before =>
      obtain ⟨_, _, rfl⟩ := Option.map_eq_some_iff.mp search
      exact ⟨[], rfl⟩
  | case2 before c rest stop first =>
      cases search
      exact ⟨(c :: rest).drop stop.index, by simp [List.take_append_drop]⟩
  | case3 before c rest first inductionHypothesis =>
      obtain ⟨later, laterSearch, rfl⟩ := Option.map_eq_some_iff.mp search
      obtain ⟨behind, rfl⟩ := inductionHypothesis laterSearch
      exact ⟨behind, by simp⟩

/-- What a pattern reads is a beginning of the text. -/
theorem Pattern.eq_append_of_read? {pattern : Pattern} {text : List Char} {value : Value}
    {length : Nat} (read : pattern.read? text = some (value, length)) :
    ∃ matched rest, text = matched ++ rest ∧ Text.byteLength matched = length := by
  simp only [Pattern.read?, Option.bind_eq_bind, Option.bind_eq_some_iff] at read
  obtain ⟨found, search, value', converted, same⟩ := read
  obtain ⟨rest, rfl⟩ := Regex.eq_append_of_searchFrom search
  simp only [Option.some.injEq, Prod.mk.injEq] at same
  exact ⟨found.skipped ++ found.matched, rest, rfl, by simpa using same.2⟩

end RuleGrammar
