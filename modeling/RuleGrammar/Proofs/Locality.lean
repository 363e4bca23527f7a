import RuleGrammar.Proofs.Reading.Relocation

/-!
Owns the independence of a read from the text before it: a rule sees a text from its start on, and
what comes earlier only moves the match. So the conditions of a pattern on what precedes it, at the
start of a text or a line or at the edge of a word, are judged as if the text began there.
-/

namespace RuleGrammar

theorem Text.suffixAt_append_add (head tail : List Char) (offset : Nat) :
    suffixAt (head ++ tail) (byteLength head + offset) = suffixAt tail offset := by
  induction head with
  | nil => rw [List.nil_append, byteLength, Nat.zero_add]
  | cons c head inductionHypothesis =>
      rw [List.cons_append, byteLength, Nat.add_assoc, suffixAt_cons, inductionHypothesis]

/-! ## The same rules -/

theorem Rule.map_same {R : Type} (rule : Rule R) : rule.map (fun reference => reference) = rule := by
  obtain ⟨name, appliesSkip, kind⟩ := rule
  cases kind <;> simp [Rule.map, RuleKind.map, Repetition.map]

/-- A registry is found in itself. -/
theorem Registry.relocates_self (registry : Registry) :
    registry.Relocates (fun id => id) registry where
  rule id := by
    cases registry.rule? id with
    | none => rfl
    | some rule => rw [Option.map_some, Rule.map_same]
  skip _ := Iff.rfl

/-! ## Text before a read -/

/-- The same tree further on in a text: the distance is added to both ends of every span. -/
def Match.shift (distance : Nat) (m : Match RuleId) : Match RuleId :=
  m.relocate (fun id => id) distance

namespace Registry

/-- Reading behind a text gives the match that reading without it gives, moved by its length, and
gives none where that gives none; whatever the registry, the rule and the offset. -/
theorem readRule_append (registry : Registry) (before input : String) (start : Nat) (id : RuleId) :
    registry.readRule (before ++ input) (Text.byteLength before.toList + start) id =
      (registry.readRule input start id).map (Match.shift (Text.byteLength before.toList)) := by
  refine registry.relocates_self.readRule (fun offset => ?_) start id
  rw [String.toList_append]
  exact Text.suffixAt_append_add before.toList input.toList offset

end Registry

end RuleGrammar
