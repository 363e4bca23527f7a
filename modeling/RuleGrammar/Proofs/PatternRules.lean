import RuleGrammar.Proofs.Regex.Anchoring
import RuleGrammar.Registry.Reading
import RuleGrammar.Rule.Linking

/-!
Owns which texts make a pattern rule, and what such a rule reads.

Contract: a text makes a rule if it is a regular expression by itself and can stand in the group that ties it
to the start of a text (`Pattern.Anchorable`). A text that is one by itself is refused like any other if its
last comment takes the parenthesis of that group, or if the group makes it too deep or too large
(`Pattern.Unanchorable`). A rule that is made reads what its text matches by itself where the read begins
(`Pattern.ReadsAs`). All of this holds whatever characters the table of properties gives for the classes of
Unicode (`Regex.parse?_unicodeClass`).
-/

namespace RuleGrammar

namespace Regex

/-! ## Classes of Unicode -/

theorem readBraced_append {name rest : List Char} {fuel : Nat} (bare : '\x7d' ∉ name)
    (enough : name.length < fuel) :
    readBraced false fuel (name ++ '\x7d' :: rest) = some (name, rest) := by
  induction name generalizing fuel with
  | nil =>
      obtain ⟨fuel, rfl⟩ := Nat.exists_eq_succ_of_ne_zero (Nat.ne_of_gt enough)
      rfl
  | cons c name inductionHypothesis =>
      obtain ⟨fuel, rfl⟩ := Nat.exists_eq_succ_of_ne_zero (Nat.ne_zero_of_lt enough)
      rw [List.mem_cons, not_or] at bare
      have further := inductionHypothesis bare.2 (Nat.lt_of_succ_lt_succ enough)
      simp [readBraced, skipSpace, Ne.symm bare.1, further]

/-- A class of Unicode stands for the characters that the table lists under its name, or for all others. It
is no expression if the table does not have the name. -/
theorem parse?_unicodeClass (properties : PropertyTable) (negated : Bool) {name : List Char}
    (bare : '\x7d' ∉ name) :
    parse? properties ('\\' :: (if negated then 'P' else 'p') :: '\x7b' :: (name ++ ['\x7d'])) =
      (properties.set? name).map fun set => .ofSet (if negated then set.compl else set) := by
  have enough : name.length < (name ++ ['\x7d']).length + 1 := by
    rw [List.length_append]
    omega
  have named : readProperty false ('\x7b' :: (name ++ ['\x7d'])) = some (name, []) :=
    readBraced_append bare enough
  have escape : readEscape properties {}
      ((if negated then 'P' else 'p') :: '\x7b' :: (name ++ ['\x7d'])) =
        (properties.set? name).map fun set => (.set (if negated then set.compl else set), []) := by
    cases negated <;> cases listed : properties.set? name <;>
      simp [readEscape, readUnicodeClass, named, listed, Flags.foldCase]
  rw [parse?, PatternState.run_succ_of_cons rfl, PatternState.step]
  simp only [escape]
  cases properties.set? name with
  | none => rfl
  | some set =>
      simp only [Option.map_some, Option.bind_eq_bind, Option.bind_some]
      rw [PatternState.run_of_rest_eq_nil rfl]
      rfl

end Regex

/-! ## Pattern rules -/

/-- Wherever the pattern is read, the outcome is the leftmost match of the expression in the text from there
on, if that begins there and stands for a value. Otherwise the read fails. -/
structure Pattern.ReadsAs (pattern : Pattern) (alone : Regex) : Prop where
  found : ∀ {text rest matched : List Char} {start : Nat} {value : Value},
    Text.suffixAt text start = some rest → alone.search rest = some ⟨[], matched⟩ →
    pattern.value.convert matched = some value → ∀ id, readPattern id pattern text start =
      .succeed id ⟨start, start + Text.byteLength matched⟩ (.scalar value)
  missed : ∀ {text : List Char} {start : Nat},
    (∀ rest matched value, Text.suffixAt text start = some rest →
      alone.search rest = some ⟨[], matched⟩ → pattern.value.convert matched ≠ some value) →
    ∀ id, readPattern id pattern text start = .fail id start

theorem Pattern.readsAs_anchored (source : String) (kind : ValueKind) (alone : Regex) :
    ReadsAs ⟨source, .ofParts [.look .textStart, alone], kind⟩ alone where
  found := by
    intro text rest matched start value here searched converted id
    rw [readPattern, here, Option.bind_some, read?_eq_some_iff.mpr ⟨matched, searched, converted, rfl⟩]
  missed := by
    intro text start nowhere id
    have unread : (Text.suffixAt text start).bind
        (read? ⟨source, .ofParts [.look .textStart, alone], kind⟩) = none := by
      rw [Option.bind_eq_none_iff]
      intro rest here
      rw [Option.eq_none_iff_forall_ne_some]
      rintro ⟨value, length⟩ found
      obtain ⟨matched, searched, converted, _⟩ := read?_eq_some_iff.mp found
      exact nowhere rest matched value here searched converted
    rw [readPattern, unread]

/-- A text makes a pattern rule that reads as the text matches by itself, or else it is refused: it is no
expression by itself, or there is a reason why it cannot stand in a group. -/
theorem RuleDef.pattern_made_or_refused (properties : Regex.PropertyTable) (name source : String)
    (kind : ValueKind) (skip : Option Bool) :
    (∃ alone pattern, Pattern.expression? properties source.toList = some alone ∧
        Pattern.Anchorable properties source.toList alone ∧
        RuleDef.pattern name source kind skip properties = .ok (.ofKind name (.pattern pattern) skip) ∧
        pattern.source = source ∧ pattern.value = kind ∧ pattern.ReadsAs alone) ∨
      (∀ alone, Pattern.expression? properties source.toList = some alone →
        Pattern.Unanchorable properties source.toList alone) ∧
      RuleDef.pattern name source kind skip properties = .error (.invalidPattern name) := by
  cases compiled : Pattern.compile? properties source kind with
  | some pattern =>
      obtain ⟨alone, accepted, anchorable, rfl⟩ := Pattern.compile?_eq_some_iff.mp compiled
      have made : RuleDef.pattern name source kind skip properties =
          .ok (.ofKind name (.pattern ⟨source, .ofParts [.look .textStart, alone], kind⟩) skip) := by
        rw [RuleDef.pattern, compiled]
      exact .inl ⟨alone, _, accepted, anchorable, made, rfl, rfl,
        Pattern.readsAs_anchored source kind alone⟩
  | none =>
      refine .inr ⟨fun alone accepted => ?_, by rw [RuleDef.pattern, compiled]⟩
      rw [Pattern.unanchorable_iff accepted]
      intro anchorable
      have made : Pattern.compile? properties source kind =
          some ⟨source, .ofParts [.look .textStart, alone], kind⟩ :=
        Pattern.compile?_eq_some_iff.mpr ⟨alone, accepted, anchorable, rfl⟩
      cases compiled.symm.trans made

/-- Classes of Unicode make a rule, and so do flags that change what classes and lines are. -/
example : ∀ source ∈ ["\\p{Alphabetic}+", "[\\p{Nd}a]\\P{Nd}", "(?-u:\\w)(?u:\\w+)", "(?R)a$"],
    (RuleDef.pattern "p" source).toOption.isSome = true := by
  decide +kernel

/-- The comment at the end of a text that is an expression takes the parenthesis of the group. -/
theorem RuleDef.pattern_endingInComment :
    (Pattern.expression? .known "(?x)a #c".toList).isSome = true ∧
      RuleDef.pattern "p" "(?x)a #c" = .error (.invalidPattern "p") := by
  decide +kernel

/-- With a new line behind the comment the parenthesis closes the group, and the choice stays inside it. -/
theorem RuleDef.pattern_endingInLine :
    ∃ pattern, RuleDef.pattern "p" "(?x)a #c\n|bc" = .ok (.ofKind "p" (.pattern pattern)) ∧
      readPattern ⟨8⟩ pattern "xbcd".toList 1 = .succeed ⟨8⟩ ⟨1, 3⟩ (.scalar (.text "bc")) := by
  have accepted : Pattern.expression? .known "(?x)a #c\n|bc".toList =
      some (.alt (.literal ['a']) (.literal ['b', 'c'])) := by
    decide +kernel
  have anchorable : Pattern.Anchorable .known "(?x)a #c\n|bc".toList
      (.alt (.literal ['a']) (.literal ['b', 'c'])) :=
    ⟨by decide, ⟨⟨.alt (.literal ['a']) (.literal ['b', 'c']), 2, true⟩, by decide, by decide⟩,
      by decide +kernel⟩
  rcases pattern_made_or_refused .known "p" "(?x)a #c\n|bc" .text none with
    ⟨alone, pattern, accepted', -, made, -, kind, reads⟩ | ⟨refused, -⟩
  · obtain rfl := Option.some.inj (accepted.symm.trans accepted')
    have here : Text.suffixAt "xbcd".toList 1 = some "bcd".toList := rfl
    have searched : (Regex.alt (.literal ['a']) (.literal ['b', 'c'])).search "bcd".toList =
        some ⟨[], ['b', 'c']⟩ := by
      decide +kernel
    refine ⟨pattern, made, reads.found here searched ?_ ⟨8⟩⟩
    rw [kind]
    rfl
  · exact absurd anchorable ((Pattern.unanchorable_iff accepted).mp (refused _ accepted))

end RuleGrammar
