import RuleGrammar.Proofs.Regex.Membership
import RuleGrammar.Proofs.Regex.Preference
import RuleGrammar.Proofs.Regex.Properties
import RuleGrammar.Registry.Basic

/-!
Owns truth values, names and blanks as they are written.

Contract: their expressions leave of a text what one pass leaves (`Truth.scannedBy_scan`,
`Name.scannedBy_scan`, `Blanks.scannedBy_scan`). A truth value is a beginning of the text whatever follows
it, a name is as long as it can be.
-/

namespace RuleGrammar

/-! ## Truth values -/

namespace Truth

def expression : Regex :=
  .alt (.group 0 (.literal ['t', 'r', 'u', 'e'])) (.group 1 (.literal ['f', 'a', 'l', 's', 'e']))

theorem parse?_expression (properties : Regex.PropertyTable) :
    Regex.parse? properties "(true)|(false)".toList = some expression :=
  Regex.parse?_of_none (by decide +kernel) properties

def scanWord (word : List Char) : Reader (List Char) := fun text =>
  (Text.dropPrefix? word text).map fun rest => (word, rest)

def scan : Reader (List Char) := fun text =>
  (scanWord ['t', 'r', 'u', 'e'] text).or (scanWord ['f', 'a', 'l', 's', 'e'] text)

theorem append_of_scanWord {word text matched rest : List Char}
    (found : scanWord word text = some (matched, rest)) : text = matched ++ rest := by
  obtain ⟨_, dropped, same⟩ := Option.map_eq_some_iff.mp found
  cases same
  exact Text.dropPrefix?_eq_some_iff.mp dropped

theorem scannedBy_scan : expression.ScannedBy scan where
  left text := by
    rw [expression, Regex.findBehind_alt, Regex.findBehind_group, Regex.findBehind_group,
      Regex.findBehind_literal, Regex.findBehind_literal, scan, Option.map_or]
    simp [scanWord, Function.comp_def]
  split found := by
    rcases Option.or_eq_some_iff.mp found with first | ⟨-, second⟩
    · exact append_of_scanWord first
    · exact append_of_scanWord second

/-- A truth value is read in front of any text. -/
theorem scan_append (b : Bool) (rest : List Char) :
    scan ((Value.boolText b).toList ++ rest) = some ((Value.boolText b).toList, rest) := by
  cases b <;> rfl

theorem scan_eq_none {text : List Char} (other : ∀ c ∈ text.head?, c ≠ 't' ∧ c ≠ 'f') :
    scan text = none := by
  cases text with
  | nil => rfl
  | cons c rest =>
      obtain ⟨notTrue, notFalse⟩ := other c rfl
      simp [scan, scanWord, Text.dropPrefix?, Ne.symm notTrue, Ne.symm notFalse]

end Truth

/-! ## Names -/

namespace Name

/-- Letters, the dollar sign and the underscore. -/
def starts : CharSet :=
  .ofCodePoints [(0x24, 0x24), (0x41, 0x5a), (0x5f, 0x5f), (0x61, 0x7a)]

def parts : CharSet :=
  .ofCodePoints [(0x24, 0x24), (0x30, 0x39), (0x41, 0x5a), (0x5f, 0x5f), (0x61, 0x7a)]

def expression : Regex :=
  .cat (.oneOf starts) (.times (.oneOf parts) 0 none true)

theorem parse?_expression (properties : Regex.PropertyTable) :
    Regex.parse? properties "[a-zA-Z_$][a-zA-Z0-9_$]*".toList = some expression :=
  Regex.parse?_of_none (by decide +kernel) properties

def scan : Reader (List Char)
  | [] => none
  | c :: rest =>
      if starts.contains c then
        some (c :: rest.takeWhile parts.contains, rest.dropWhile parts.contains)
      else none

theorem scannedBy_scan : expression.ScannedBy scan where
  left text := by
    rw [expression, Regex.findBehind_cat]
    cases text with
    | nil => rfl
    | cons c rest =>
        rw [Regex.findBehind_oneOf_cons, Regex.findBehind_anyOf (.inl rfl), scan]
        split_ifs <;> rfl
  split {text matched rest} found := by
    cases text with
    | nil => cases found
    | cons c text =>
        rw [scan] at found
        split_ifs at found
        cases found
        rw [List.cons_append, List.takeWhile_append_dropWhile]

theorem scan_eq_none {text : List Char} (other : ∀ c ∈ text.head?, starts.contains c = false) :
    scan text = none := by
  cases text with
  | nil => rfl
  | cons c rest => exact if_neg (by simp [other c rfl])

end Name

/-! ## Blanks -/

namespace Blanks

def expression : Regex :=
  .times (.oneOf .blank) 0 none true

theorem parse?_expression (properties : Regex.PropertyTable) :
    Regex.parse? properties Registry.defaultSkipSource.toList = some expression :=
  Regex.parse?_of_none (by decide +kernel) properties

def scan : Reader (List Char) := fun text =>
  some (text.takeWhile Text.isBlank, text.dropWhile Text.isBlank)

theorem contains_blank : CharSet.blank.contains = Text.isBlank :=
  funext fun c => CharSet.contains_ofCodePoints c (by decide)

theorem scannedBy_scan : expression.ScannedBy scan where
  left text := by
    rw [expression, Regex.findBehind_anyOf (.inl rfl), contains_blank]
    rfl
  split found := by
    cases found
    exact List.takeWhile_append_dropWhile.symm

end Blanks

end RuleGrammar
