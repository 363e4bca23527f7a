import RuleGrammar.Dump
import RuleGrammar.Proofs.Reading.Relocation
import RuleGrammar.Proofs.Registration

/-!
Owns grammars within larger ones: the order in which rules are declared, and rules that are declared
besides, change the ids of rules and nothing that they read.

Contract: `Registry.rename` takes the rules of a registry to those of the same names in another. If the
one is built from definitions that the other is built from too, linking finds every reference under its
new id (`Registry.relocates_of_ofRules`), and so the dumps of what is read are equal.
-/

namespace RuleGrammar

/-! ## Dumps of renamed matches -/

namespace Match

variable {R S T : Type} (name : S → T) (rename : R → S)

mutual

/-- Where no span is moved, naming the renamed rules gives the tree that naming the rules gives. -/
theorem mapRule_relocate : ∀ m : Match R,
    (m.relocate rename 0).mapRule name = m.mapRule fun rule => name (rename rule)
  | ⟨success, ⟨start, stop⟩, rule, payload⟩ => by
      simp only [relocate, mapRule, Span.shift, Nat.zero_add, mapRulePayload_relocate payload]

theorem mapRulePayload_relocate : ∀ payload : Payload (Match R),
    mapRulePayload name (relocatePayload rename 0 payload) =
      mapRulePayload (fun rule => name (rename rule)) payload
  | .absent => rfl
  | .scalar _ => rfl
  | .list items => by
      rw [relocatePayload, mapRulePayload, mapRulePayload, mapRuleItems_relocate items]
  | .object fields => by
      rw [relocatePayload, mapRulePayload, mapRulePayload, mapRuleFields_relocate fields]

theorem mapRuleItems_relocate : ∀ items : List (Match R),
    mapRuleItems name (relocateItems rename 0 items) =
      mapRuleItems (fun rule => name (rename rule)) items
  | [] => rfl
  | item :: items => by
      rw [relocateItems, mapRuleItems, mapRuleItems, mapRule_relocate item,
        mapRuleItems_relocate items]

theorem mapRuleFields_relocate : ∀ fields : List (String × Match R),
    mapRuleFields name (relocateFields rename 0 fields) =
      mapRuleFields (fun rule => name (rename rule)) fields
  | [] => rfl
  | (field, item) :: fields => by
      rw [relocateFields, mapRuleFields, mapRuleFields, mapRule_relocate item,
        mapRuleFields_relocate fields]

end

end Match

namespace Registry

namespace Relocates

variable {rename : RuleId → RuleId} {registry other : Registry}

/-- Rules are called what they are called where they come from. -/
theorem ruleName? (relocates : registry.Relocates rename other) (id : RuleId) :
    other.ruleName? (rename id) = registry.ruleName? id := by
  unfold Registry.ruleName?
  rw [relocates.rule, Option.map_map]
  rfl

theorem dump (relocates : registry.Relocates rename other) (m : Match RuleId) :
    other.dump (m.relocate rename 0) = registry.dump m := by
  unfold Registry.dump
  rw [Match.mapRule_relocate]
  simp only [relocates.ruleName?]

/-- In the same text, the dumps of what relocated rules read are those of what the rules read. -/
theorem dump_readRule (relocates : registry.Relocates rename other) (input : String) (start : Nat)
    (id : RuleId) :
    (other.readRule input start (rename id)).map other.dump =
      (registry.readRule input start id).map registry.dump := by
  have behind : ∀ offset,
      Text.suffixAt input.toList (0 + offset) = Text.suffixAt input.toList offset := by
    intro offset
    rw [Nat.zero_add]
  have reads := relocates.readRule behind start id
  rw [Nat.zero_add] at reads
  rw [reads, Option.map_map]
  congr 1
  funext m
  exact relocates.dump m

end Relocates

/-! ## Rules by the same name -/

variable {rules rules' all all' : List RuleDef} {registry other : Registry}

/-- The id in another registry of the rule that has the name of a rule; where there is no rule, an id
that has none there either. -/
def rename (registry other : Registry) (id : RuleId) : RuleId :=
  ((registry.ruleName? id).bind other.find?).getD ⟨other.rules.length⟩

/-- With more rules declared there are more rules, as skippable text is read by the same one. -/
theorem Comprises.subset (comprises : Comprises rules all) (comprises' : Comprises rules' all')
    (included : ∀ rule ∈ rules, rule ∈ rules')
    (skips : skipName ∈ rules'.map Rule.name → skipName ∈ rules.map Rule.name) {rule : RuleDef}
    (member : rule ∈ all) : rule ∈ all' := by
  obtain ⟨baseTypes, skip, defined, defaults, rfl⟩ := comprises
  obtain ⟨baseTypes', skip', defined', defaults', rfl⟩ := comprises'
  rw [defined, Except.ok.injEq] at defined'
  rw [defaults, Except.ok.injEq] at defaults'
  subst defined' defaults'
  rcases List.mem_append.mp member with member | added
  · rcases List.mem_append.mp member with base | declared
    · exact List.mem_append_left _ (List.mem_append_left _ base)
    · exact List.mem_append_left _ (List.mem_append_right _ (included rule declared))
  · by_cases declared : skipName ∈ rules.map Rule.name
    · rw [if_pos declared] at added
      cases added
    · rw [if_neg declared] at added
      rw [if_neg (mt skips declared)]
      exact List.mem_append_right _ added

namespace LinkedFrom

theorem rename_eq (linked : LinkedFrom all registry) {name : String} {id id' : RuleId}
    (found : registry.find? name = some id) (found' : other.find? name = some id') :
    registry.rename other id = id' := by
  rw [rename, linked.find?_eq_some_iff.mp found, Option.bind_some, found', Option.getD_some]

/-- A name that one of them has leads to the renamed id in the other. -/
theorem find?_rename (linked : LinkedFrom all registry) (linked' : LinkedFrom all' other)
    (subset : ∀ rule ∈ all, rule ∈ all') {name : String} {id : RuleId}
    (found : registry.find? name = some id) :
    other.find? name = some (registry.rename other id) := by
  obtain ⟨form, known, named⟩ := Option.map_eq_some_iff.mp (linked.find?_eq_some_iff.mp found)
  obtain ⟨rule, member, link, _⟩ := linked.exists_definition known
  obtain ⟨id', _, found', _⟩ := linked'.exists_rule (subset rule member)
  rw [← (RuleDef.link_eq_ok link).2.1, named] at found'
  rw [found', linked.rename_eq found found']

/-- Renaming takes linked rules to linked rules, if they are linked from the same definitions. -/
theorem relocates (linked : LinkedFrom all registry) (linked' : LinkedFrom all' other)
    (subset : ∀ rule ∈ all, rule ∈ all') :
    registry.Relocates (registry.rename other) other where
  rule id := by
    cases known : registry.rule? id with
    | none =>
        have unnamed : registry.rename other id = ⟨other.rules.length⟩ := by
          rw [rename, ruleName?, known]
          rfl
        rw [unnamed, Option.map_none]
        exact List.getElem?_eq_none (Nat.le_refl other.rules.length)
    | some form =>
        obtain ⟨rule, member, link, found⟩ := linked.exists_definition known
        obtain ⟨id', form', found', known', link'⟩ := linked'.exists_rule (subset rule member)
        obtain ⟨_, name, appliesSkip, relates⟩ := RuleDef.link_eq_ok link
        obtain ⟨_, name', appliesSkip', relates'⟩ := RuleDef.link_eq_ok link'
        have kind : form.kind.map (registry.rename other) = form'.kind := by
          refine RuleKind.Relates.map_eq ?_ relates relates'
          intro reference left right here there
          exact linked.rename_eq here there
        rw [linked.rename_eq found found', known', Option.map_some, Rule.map, kind, name,
          appliesSkip, ← name', ← appliesSkip']
  skip id := by
    constructor
    · intro same
      cases named : registry.ruleName? id with
      | none =>
          -- An id without a rule is taken to one, but skippable text has a rule.
          have unnamed : registry.rename other id = ⟨other.rules.length⟩ := by
            rw [rename, named]
            rfl
          have within := linked'.lt_of_find? linked'.skip
          rw [← same, unnamed] at within
          exact absurd within (Nat.lt_irrefl _)
      | some name =>
          have found := linked.find?_eq_some_iff.mpr named
          have there := linked'.find?_eq_some_iff.mp (linked.find?_rename linked' subset found)
          rw [same, linked'.find?_eq_some_iff.mp linked'.skip, Option.some.injEq] at there
          rw [← there, linked.skip, Option.some.injEq] at found
          exact found.symm
    · rintro rfl
      exact linked.rename_eq linked.skip linked'.skip

end LinkedFrom

/-- A registry is found in one that is built from its definitions in any order, and from others. -/
theorem relocates_of_ofRules (built : ofRules rules = .ok registry)
    (built' : ofRules rules' = .ok other) (included : ∀ rule ∈ rules, rule ∈ rules')
    (skips : skipName ∈ rules'.map Rule.name → skipName ∈ rules.map Rule.name) :
    registry.Relocates (registry.rename other) other ∧
      ∀ name id, registry.find? name = some id →
        other.find? name = some (registry.rename other id) := by
  obtain ⟨all, comprises⟩ := exists_comprises rules
  obtain ⟨all', comprises'⟩ := exists_comprises rules'
  have linked := linkedFrom_of_ofRules built comprises
  have linked' := linkedFrom_of_ofRules built' comprises'
  have subset : ∀ rule ∈ all, rule ∈ all' := fun _ member =>
    comprises.subset comprises' included skips member
  exact ⟨linked.relocates linked' subset, fun _ _ found => linked.find?_rename linked' subset found⟩

/-! ## Reading by name -/

/-- By the name of any rule, registries of the same definitions read the same, whatever the order of
the definitions and whichever others there are: either neither gives a match, or the dumps of the two
matches are equal. -/
theorem readNamed_dump_eq (built : ofRules rules = .ok registry)
    (built' : ofRules rules' = .ok other) (included : ∀ rule ∈ rules, rule ∈ rules')
    (skips : skipName ∈ rules'.map Rule.name → skipName ∈ rules.map Rule.name) {name : String}
    (known : name ∈ registry.names) (input : String) (start : Nat) :
    ∃ found found', registry.readNamed input start name = .ok found ∧
      other.readNamed input start name = .ok found' ∧
      found'.map other.dump = found.map registry.dump := by
  obtain ⟨relocates, names⟩ := relocates_of_ofRules built built' included skips
  obtain ⟨all, comprises⟩ := exists_comprises rules
  obtain ⟨id, found⟩ := (linkedFrom_of_ofRules built comprises).exists_find?_iff.mpr known
  have here : registry.readNamed input start name = .ok (registry.readRule input start id) := by
    rw [readNamed, lookup, found]
    rfl
  have there : other.readNamed input start name =
      .ok (other.readRule input start (registry.rename other id)) := by
    rw [readNamed, lookup, names name id found]
    rfl
  exact ⟨_, _, here, there, relocates.dump_readRule input start id⟩

/-- A grammar within one that declares its rules in reverse, behind another rule: the ids of its own
rules differ. -/
theorem readNamed_dump_markedWords :
    ∃ registry other found found',
      ofRules markedWords = .ok registry ∧
      ofRules (RuleDef.ofKind "letter" (.literal "a") :: markedWords.reverse) = .ok other ∧
      registry.find? "main" = some ⟨8⟩ ∧ other.find? "main" = some ⟨14⟩ ∧
      registry.readNamed " é !, é!" 0 "main" = .ok found ∧ found.map Match.stop = some 10 ∧
      other.readNamed " é !, é!" 0 "main" = .ok found' ∧
      found'.map other.dump = found.map registry.dump := by
  obtain ⟨registry, built, here, known, stop⟩ : ∃ registry, ofRules markedWords = .ok registry ∧
      registry.find? "main" = some ⟨8⟩ ∧ "main" ∈ registry.names ∧
      (registry.readRule " é !, é!" 0 ⟨8⟩).map Match.stop = some 10 :=
    exists_ok_of_any (by decide +kernel)
  obtain ⟨other, built', there⟩ : ∃ other,
      ofRules (RuleDef.ofKind "letter" (.literal "a") :: markedWords.reverse) = .ok other ∧
        other.find? "main" = some ⟨14⟩ :=
    exists_ok_of_any (by decide +kernel)
  obtain ⟨found, found', reads, reads', same⟩ :=
    readNamed_dump_eq built built' (by decide) (by decide) known " é !, é!" 0
  have whole : registry.readNamed " é !, é!" 0 "main" =
      .ok (registry.readRule " é !, é!" 0 ⟨8⟩) := by
    rw [readNamed, lookup, here]
    rfl
  rw [reads, Except.ok.injEq] at whole
  exact ⟨registry, other, found, found', built, built', here, there, reads, whole ▸ stop, reads',
    same⟩

end Registry

end RuleGrammar
