import RuleGrammar.Proofs.BaseType.Reading
import RuleGrammar.Proofs.Spans

/-!
Owns what the type of quoted texts reads: from one double quote to the next one that no backslash escapes,
with both quotes and every escape as written.
-/

namespace RuleGrammar

namespace Registry

variable {rules : List RuleDef} {registry : Registry} {input : String} {start : Nat}
  {skipped : Match RuleId}

/-- Behind skippable text, a quotation is read whole where there is one, and nothing where there is none. A
backslash takes the next character with it, so that a body has no quote of its own; the end of the text
and the end of a line cannot be escaped. -/
theorem readNamed_string (built : ofRules rules = .ok registry)
    (boundary : Text.IsBoundary input.toList start)
    (skips : registry.readRule input start registry.skip = some skipped) :
    ∃ id text m, registry.lookup "STRING" = .ok id ∧
      Text.suffixAt input.toList skipped.stop = some text ∧
      registry.readNamed input start "STRING" = .ok (some m) ∧
      (m.success = true ↔
        ∃ body rest, Quotation.IsBody body ∧ text = '"' :: (body ++ '"' :: rest)) ∧
      ∀ body rest, Quotation.IsBody body → text = '"' :: (body ++ '"' :: rest) →
        m = .succeed id
          ⟨skipped.stop, skipped.stop + Text.byteLength ('"' :: (body ++ ['"']))⟩
          (.scalar (.text (String.ofList ('"' :: (body ++ ['"']))))) := by
  obtain ⟨id, scans⟩ := exists_scans built .string rfl
  have ends : Text.IsBoundary input.toList skipped.stop :=
    (readRule_placed skips boundary).root.stopBoundary
  obtain ⟨text, found⟩ := Option.isSome_iff_exists.mp ends
  have begins : ∀ body rest, text = '"' :: (body ++ '"' :: rest) ↔
      text = ('"' :: (body ++ ['"'])) ++ rest := by simp
  refine ⟨id, text, readScanned Quotation.scan .text id input.toList skipped.stop, ?_, found, ?_, ?_, ?_⟩
  · exact lookup_eq_ok_iff.mpr scans.named
  · refine (scans.readNamed_eq input start).trans ?_
    rw [skips]
    rfl
  · rw [success_readScanned_iff found, Option.isSome_iff_exists]
    constructor
    · rintro ⟨⟨value, matched⟩, taken⟩
      obtain ⟨rest, scanned, -⟩ := takeValue_eq_some_iff.mp taken
      obtain ⟨body, isBody, rfl, split⟩ := Quotation.scan_eq_some_iff.mp scanned
      exact ⟨body, rest, isBody, (begins body rest).mpr split⟩
    · rintro ⟨body, rest, isBody, split⟩
      exact ⟨_, takeValue_eq_some_iff.mpr ⟨rest, Quotation.scan_eq_some_iff.mpr
        ⟨body, isBody, rfl, (begins body rest).mp split⟩, rfl⟩⟩
  · intro body rest isBody split
    refine readScanned_of_takeValue found (takeValue_eq_some_iff.mpr ⟨rest, ?_, rfl⟩)
    exact Quotation.scan_eq_some_iff.mpr ⟨body, isBody, rfl, (begins body rest).mp split⟩

/-- An escaped quote, a line break and an escaped backslash are inside; the second quote that no backslash
escapes ends the match, and text follows it. -/
theorem readNamed_string_escapes :
    ∃ registry id m, ofRules markedWords = .ok registry ∧ registry.lookup "STRING" = .ok id ∧
      registry.readNamed "é \"a\\\"\n\\\\\" b\"" 2 "STRING" = .ok (some m) ∧ m.success = true ∧
      m = .succeed id ⟨3, 11⟩ (.scalar (.text "\"a\\\"\n\\\\\"")) := by
  obtain ⟨baseTypes, index, size, built⟩ := ofRules_markedWords
  obtain ⟨skipped, skips, stop⟩ : ∃ skipped,
      (Registry.mk (baseTypes ++ linkedMarkedWords) index ⟨13⟩ ⟨8⟩).readRule
        "é \"a\\\"\n\\\\\" b\"" 2 ⟨13⟩ = some skipped ∧ skipped.stop = 3 := by
    match baseTypes, size with
    | [_, _, _, _, _, _, _, _], _ => exact ⟨_, rfl, rfl⟩
  obtain ⟨id, text, m, named, found, reads, succeeds, whole⟩ :=
    readNamed_string built (by decide) skips
  have body : Quotation.IsBody "a\\\"\n\\\\".toList :=
    .plain (by decide) (by decide) (.escaped (by decide) (.plain (by decide) (by decide)
      (.escaped (by decide) .nil)))
  have split : text = '"' :: ("a\\\"\n\\\\".toList ++ '"' :: " b\"".toList) := by
    rw [stop] at found
    exact Option.some.inj (found.symm.trans (by decide))
  refine ⟨_, id, m, built, named, reads, succeeds.mpr ⟨_, _, body, split⟩, ?_⟩
  rw [whole _ _ body split, stop]
  rfl

end Registry

end RuleGrammar
