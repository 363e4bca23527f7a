import RuleGrammar.Span

/-!
Owns byte offsets into a text, where a text is its list of characters.

Contract: an offset is valid when it lies on a boundary between characters, both ends of the
text included. What follows an invalid offset is undefined, never rounded to a boundary:
`suffixAt_eq_some_iff` says that a text is cut at an offset into a head of that length and its tail.
-/

namespace RuleGrammar.Text

/-- Length of the UTF-8 encoding. -/
def byteLength : List Char → Nat
  | [] => 0
  | c :: rest => c.utf8Size + byteLength rest

/-- What follows a byte offset. -/
def suffixAt : List Char → Nat → Option (List Char)
  | text, 0 => some text
  | [], _ + 1 => none
  | c :: rest, offset + 1 =>
      if c.utf8Size ≤ offset + 1 then suffixAt rest (offset + 1 - c.utf8Size) else none

/-- What precedes a byte offset. -/
def prefixAt : List Char → Nat → Option (List Char)
  | _, 0 => some []
  | [], _ + 1 => none
  | c :: rest, offset + 1 =>
      if c.utf8Size ≤ offset + 1 then
        (prefixAt rest (offset + 1 - c.utf8Size)).map (c :: ·)
      else
        none

/-- The text under a span, if both ends are valid and in order. -/
def slice (text : List Char) (span : Span) : Option (List Char) :=
  if span.start ≤ span.stop then do
    prefixAt (← suffixAt text span.start) span.length
  else
    none

/-- What is left after `head`, if the text starts with it. -/
def dropPrefix? : List Char → List Char → Option (List Char)
  | [], text => some text
  | _ :: _, [] => none
  | c :: head, d :: text => if c = d then dropPrefix? head text else none

/-! ## Laws -/

@[simp] theorem byteLength_append (head tail : List Char) :
    byteLength (head ++ tail) = byteLength head + byteLength tail := by
  induction head with
  | nil => simp [byteLength]
  | cons c head inductionHypothesis => simp [byteLength, inductionHypothesis, Nat.add_assoc]

theorem suffixAt_cons (c : Char) (rest : List Char) (offset : Nat) :
    suffixAt (c :: rest) (c.utf8Size + offset) = suffixAt rest offset := by
  obtain ⟨before, size⟩ := Nat.exists_eq_succ_of_ne_zero (Nat.ne_of_gt c.utf8Size_pos)
  have sum : c.utf8Size + offset = (before + offset) + 1 := by omega
  have left : before + offset + 1 - c.utf8Size = offset := by omega
  rw [sum, suffixAt, if_pos (by omega), left]

theorem prefixAt_cons (c : Char) (rest : List Char) (offset : Nat) :
    prefixAt (c :: rest) (c.utf8Size + offset) = (prefixAt rest offset).map (c :: ·) := by
  obtain ⟨before, size⟩ := Nat.exists_eq_succ_of_ne_zero (Nat.ne_of_gt c.utf8Size_pos)
  have sum : c.utf8Size + offset = (before + offset) + 1 := by omega
  have left : before + offset + 1 - c.utf8Size = offset := by omega
  rw [sum, prefixAt, if_pos (by omega), left]

theorem suffixAt_append (head tail : List Char) :
    suffixAt (head ++ tail) (byteLength head) = some tail := by
  induction head with
  | nil => simp [byteLength, suffixAt]
  | cons c head inductionHypothesis =>
      rw [List.cons_append, byteLength, suffixAt_cons, inductionHypothesis]

theorem prefixAt_append (head tail : List Char) :
    prefixAt (head ++ tail) (byteLength head) = some head := by
  induction head with
  | nil => simp [byteLength, prefixAt]
  | cons c head inductionHypothesis =>
      rw [List.cons_append, byteLength, prefixAt_cons, inductionHypothesis, Option.map_some]

theorem eq_append_of_suffixAt {text tail : List Char} {offset : Nat}
    (found : suffixAt text offset = some tail) :
    ∃ head, text = head ++ tail ∧ byteLength head = offset := by
  fun_induction suffixAt text offset with
  | case1 text => exact ⟨[], by simpa using found, rfl⟩
  | case2 => simp at found
  | case3 c rest offset fits inductionHypothesis =>
      obtain ⟨head, rfl, length⟩ := inductionHypothesis found
      refine ⟨c :: head, rfl, ?_⟩
      simp only [byteLength]
      omega
  | case4 => simp at found

/-- An offset is valid when the text falls into a head of that length and the tail behind it. -/
theorem suffixAt_eq_some_iff {text tail : List Char} {offset : Nat} :
    suffixAt text offset = some tail ↔ ∃ head, text = head ++ tail ∧ byteLength head = offset := by
  constructor
  · exact eq_append_of_suffixAt
  · rintro ⟨head, rfl, rfl⟩
    exact suffixAt_append head tail

theorem dropPrefix?_eq_some_iff {head text tail : List Char} :
    dropPrefix? head text = some tail ↔ text = head ++ tail := by
  fun_induction dropPrefix? head text with
  | case1 text => simp
  | case2 => simp
  | case3 c head text inductionHypothesis => simpa using inductionHypothesis
  | case4 c head d text different => simp [Ne.symm different]

end RuleGrammar.Text
