import RuleGrammar.Pattern
import RuleGrammar.Proofs.Regex.Closing

/-!
Owns how the reading of patterns depends on the table of properties.

Contract: a table that lists more names accepts more texts, and reads what was accepted before as it was
(`Pattern.compile?_of_extends`). So an expression for the table without names is the same expression for every
table (`Regex.parse?_of_none`).
-/

namespace RuleGrammar

namespace Regex

/-- The first table lists what the second one lists, and gives the same characters for it. -/
def PropertyTable.Extends (larger properties : PropertyTable) : Prop :=
  ∀ {name : List Char} {set : CharSet}, properties.set? name = some set → larger.set? name = some set

/-- The table without names. -/
def PropertyTable.none : PropertyTable where
  set? _ := Option.none

theorem PropertyTable.extends_none (properties : PropertyTable) : properties.Extends .none :=
  nofun

/-! ## Readers -/

theorem Survives.same {α : Type} (result : Option α) : Survives Eq result result := by
  cases result with
  | none => exact .failed
  | some a => exact .found rfl

section

variable {larger properties : PropertyTable} (more : larger.Extends properties)

include more

theorem readUnicodeClass_extends (flags : Flags) (negated : Bool) (text : List Char) :
    Survives Eq (readUnicodeClass properties flags negated text)
      (readUnicodeClass larger flags negated text) := by
  refine .bindSame ?_
  rintro ⟨name, rest⟩
  simp only
  cases listed : properties.set? name with
  | none => exact .failed
  | some set =>
      rw [more listed]
      exact .same _

theorem readEscape_extends (flags : Flags) (text : List Char) :
    Survives Eq (readEscape properties flags text) (readEscape larger flags text) := by
  cases text with
  | nil => exact .failed
  | cons c rest =>
      simp only [readEscape]
      split
      case h_4 | h_5 =>
        refine (readUnicodeClass_extends more flags _ rest).map ?_
        rintro read _ rfl
        rfl
      all_goals exact .same _

theorem readSetPrimitive_extends (flags : Flags) (text : List Char) :
    Survives Eq (readSetPrimitive properties flags text) (readSetPrimitive larger flags text) := by
  unfold readSetPrimitive
  split
  case h_1 => exact .failed
  case h_2 => exact readEscape_extends more flags _
  case h_3 => exact .same _

theorem readSetItem_extends (flags : Flags) (text : List Char) :
    Survives Eq (readSetItem properties flags text) (readSetItem larger flags text) := by
  refine (readSetPrimitive_extends more flags text).bind ?_
  rintro ⟨first, rest⟩ _ rfl
  simp only
  split
  case h_1 => exact .failed
  case h_2 =>
    split_ifs
    · exact .same _
    · split
      · exact .failed
      · refine (readSetPrimitive_extends more flags _).bind ?_
        rintro second _ rfl
        exact .same _
  case h_3 => exact .same _

theorem readSetBody_extends (flags : Flags) (fuel : Nat) (bracket : OpenSet) (outer : List OpenSet)
    (text : List Char) :
    Survives Eq (readSetBody properties flags fuel bracket outer text)
      (readSetBody larger flags fuel bracket outer text) := by
  induction fuel generalizing bracket outer text with
  | zero => exact .failed
  | succ fuel inductionHypothesis =>
      rw [readSetBody, readSetBody]
      split
      case h_1 => exact .failed
      case h_2 =>
        split
        · split_ifs
          · exact inductionHypothesis ..
          · exact .failed
        · split
          · exact inductionHypothesis ..
          · exact .failed
      case h_3 =>
        simp only
        split_ifs
        · cases outer with
          | nil => exact .same _
          | cons around outer => exact inductionHypothesis ..
        · exact .failed
      case h_4 | h_5 | h_6 => exact inductionHypothesis ..
      case h_7 =>
        have item := readSetItem_extends more flags (skipSpace flags.verbose text)
        rcases found : readSetItem properties flags (skipSpace flags.verbose text) with _ | read
        · exact .failed
        · rw [found] at item
          obtain ⟨_, found', rfl⟩ := item.exists_found
          rw [found']
          simp only
          split_ifs
          · exact inductionHypothesis ..
          · exact .failed

theorem readBracket_extends (flags : Flags) (text : List Char) :
    Survives Eq (readBracket properties flags text) (readBracket larger flags text) :=
  .bindSame fun _ => readSetBody_extends more flags _ _ _ _

namespace PatternState

theorem step_extends (state : PatternState) (c : Char) (rest : List Char) :
    Survives Eq (state.step properties c rest) (state.step larger c rest) := by
  simp only [step]
  split
  case h_4 =>
    refine (readBracket_extends more state.flags rest).bind ?_
    rintro read _ rfl
    exact .same _
  case h_9 =>
    refine (readEscape_extends more state.flags rest).bind ?_
    rintro read _ rfl
    exact .same _
  all_goals exact .same _

theorem run_extends (fuel : Nat) (state : PatternState) :
    Survives Eq (run properties fuel state) (run larger fuel state) := by
  induction fuel generalizing state with
  | zero => exact .same _
  | succ fuel inductionHypothesis =>
      rw [run, run]
      split
      case h_1 => exact .same _
      case h_2 c rest _ =>
        have steps := step_extends more state c rest
        rcases here : state.step properties c rest with _ | next
        · exact .failed
        · rw [here] at steps
          obtain ⟨_, here', rfl⟩ := steps.exists_found
          rw [here']
          exact inductionHypothesis next

end PatternState

/-- A table that lists more leaves every expression as it is. -/
theorem parse?_extends (text : List Char) : Survives Eq (parse? properties text) (parse? larger text) := by
  refine (PatternState.run_extends more _ _).bind ?_
  rintro final _ rfl
  exact .same _

end

/-- A text that is an expression without any properties is the same expression whatever properties there
are. -/
theorem parse?_of_none {text : List Char} {regex : Regex} (parsed : parse? .none text = some regex)
    (properties : PropertyTable) : parse? properties text = some regex := by
  have survives := parse?_extends properties.extends_none text
  rw [parsed] at survives
  obtain ⟨_, parsed', rfl⟩ := survives.exists_found
  exact parsed'

end Regex

namespace Pattern

variable {larger properties : Regex.PropertyTable}

theorem expression?_extends (more : larger.Extends properties) (text : List Char) :
    Regex.Survives Eq (expression? properties text) (expression? larger text) :=
  (Regex.parse?_extends more text).filter fun _ _ same => congrArg Regex.fits same

/-- What a table lets pass is compiled to the same pattern by a table that lists more. -/
theorem compile?_of_extends (more : larger.Extends properties) {source : String} {kind : ValueKind}
    {pattern : Pattern} (compiled : compile? properties source kind = some pattern) :
    compile? larger source kind = some pattern := by
  have survives : Regex.Survives Eq (compile? properties source kind) (compile? larger source kind) := by
    refine (expression?_extends more _).bind ?_
    rintro alone _ rfl
    refine (expression?_extends more _).bind ?_
    rintro regex _ rfl
    exact .same _
  rw [compiled] at survives
  obtain ⟨_, compiled', rfl⟩ := survives.exists_found
  exact compiled'

end Pattern

end RuleGrammar
