import RuleGrammar.Grammar.Basic
import RuleGrammar.Proofs.Acceptance
import RuleGrammar.Proofs.Regex.Properties

/-!
Owns which grammars as they are written are accepted, and which fault is reported where they are not.

Contract: `RuleEntry.Means` says which rule an entry stands for, and `RuleEntry.Fault` what is wrong with an
entry that stands for none. `Grammar.Refuses` says which fault of a grammar comes first: in its entries, then
in the rules that these mean, and then in the name of its entry rule. All of it holds for any table of Unicode
properties, and a table that lists more gives the same registries (`Grammar.toRegistry_of_extends`).
-/

namespace RuleGrammar

/-! ## Entries -/

/-- The shape that the settings of a sequence ask for. -/
inductive RuleSpec.Asks :
    Option Nat → Option (List Nat) → Option (List (String × Nat)) → Shape → Prop where
  | all : Asks none none none .all
  | one (index : Nat) : Asks (some index) none none (.one index)
  | selection (indices : List Nat) : Asks none (some indices) none (.selection indices)
  | object (fields : List (String × Nat)) :
      Asks none none (some fields) (.object (fields.map fun (name, index) => (index, name)))

/-- The kind of rule that settings describe. -/
inductive RuleSpec.Describes (properties : Regex.PropertyTable) : RuleSpec → RuleKind String → Prop where
  | literal (text : String) : Describes properties (.literal text) (.literal text)
  | pattern {regex : String} {value : ValueKind} {pattern : Pattern} :
      Pattern.compile? properties regex value = some pattern →
      Describes properties (.pattern regex value) (.pattern pattern)
  | sequence (items : List String) {extract : Option Nat} {extractSome : Option (List Nat)}
      {fields : Option (List (String × Nat))} {shape : Shape} :
      RuleSpec.Asks extract extractSome fields shape →
      Describes properties (.sequence items extract extractSome fields) (.sequence items shape)
  | choice (options : List String) : Describes properties (.choice options) (.choice options)
  | optional (inner : String) : Describes properties (.optional inner) (.optional inner)
  | repetition (repetition : Repetition String) :
      Describes properties (.repetition repetition) (.repetition repetition)

/-- The rule that an entry stands for. Where the entry does not say whether skippable text is read first, a
rule that reads text itself does so. -/
structure RuleEntry.Means (properties : Regex.PropertyTable) (entry : RuleEntry) (rule : RuleDef) :
    Prop where
  name : rule.name = entry.name
  skips : rule.appliesSkip = entry.skip.getD rule.kind.isLeaf
  kind : entry.spec.Describes properties rule.kind

/-- What is wrong with an entry of a grammar before it is a rule: a sequence that is shaped in more than
one way, or a pattern that is no regular expression. -/
inductive RuleEntry.Fault (properties : Regex.PropertyTable) (entry : RuleEntry) : ConfigError → Prop where
  | shapes {items : List String} {extract : Option Nat} {extractSome : Option (List Nat)}
      {fields : Option (List (String × Nat))} :
      entry.spec = .sequence items extract extractSome fields →
      (extract.isSome ∧ extractSome.isSome ∨ extract.isSome ∧ fields.isSome ∨
        extractSome.isSome ∧ fields.isSome) →
      Fault properties entry (.conflictingShape entry.name)
  | pattern {regex : String} {value : ValueKind} :
      entry.spec = .pattern regex value → Pattern.compile? properties regex value = none →
      Fault properties entry (.grammar (.invalidPattern entry.name))

namespace RuleEntry

variable {properties : Regex.PropertyTable} {entry : RuleEntry} {rule : RuleDef} {fault : ConfigError}

theorem shape?_eq_some_iff {extract : Option Nat} {extractSome : Option (List Nat)}
    {fields : Option (List (String × Nat))} {shape : Shape} :
    shape? extract extractSome fields = some shape ↔ RuleSpec.Asks extract extractSome fields shape := by
  constructor
  · intro asked
    unfold shape? at asked
    split at asked <;> cases asked
    · exact .all
    · exact .one _
    · exact .selection _
    · exact .object _
  · intro asks
    cases asks <;> rfl

theorem shape?_eq_none_iff {extract : Option Nat} {extractSome : Option (List Nat)}
    {fields : Option (List (String × Nat))} :
    shape? extract extractSome fields = none ↔
      extract.isSome ∧ extractSome.isSome ∨ extract.isSome ∧ fields.isSome ∨
        extractSome.isSome ∧ fields.isSome := by
  cases extract <;> cases extractSome <;> cases fields <;> simp [shape?]

/-- An entry becomes the rule that it means. -/
theorem toDef_eq_ok_iff : entry.toDef properties = .ok rule ↔ entry.Means properties rule := by
  constructor
  · intro becomes
    unfold toDef at becomes
    cases spec : entry.spec with
    | pattern regex value =>
        rw [spec] at becomes
        simp only [RuleDef.pattern] at becomes
        split at becomes
        next pattern compiled =>
          cases becomes
          exact ⟨rfl, rfl, spec ▸ .pattern compiled⟩
        next => cases becomes
    | sequence items extract extractSome fields =>
        rw [spec] at becomes
        simp only at becomes
        split at becomes
        next shape asked =>
          cases becomes
          exact ⟨rfl, rfl, spec ▸ .sequence items (shape?_eq_some_iff.mp asked)⟩
        next => cases becomes
    | literal _ | choice _ | optional _ | repetition _ =>
        rw [spec] at becomes
        cases becomes
        refine ⟨rfl, rfl, ?_⟩
        rw [spec]
        constructor
  · rintro ⟨name, skips, describes⟩
    obtain ⟨_, _, kind⟩ := rule
    simp only at name skips describes
    subst name skips
    unfold toDef
    cases spec : entry.spec <;> rw [spec] at describes <;> cases describes
    case pattern compiled =>
      simp only [RuleDef.pattern, compiled]
      rfl
    case sequence asks =>
      simp only [shape?_eq_some_iff.mpr asks]
      rfl
    all_goals rfl

/-- An entry becomes a rule unless it has a fault, which is then reported. -/
theorem toDef_eq_error_iff : entry.toDef properties = .error fault ↔ entry.Fault properties fault := by
  constructor
  · intro fails
    unfold toDef at fails
    cases spec : entry.spec with
    | pattern regex value =>
        rw [spec] at fails
        simp only [RuleDef.pattern] at fails
        split at fails
        next => cases fails
        next invalid =>
          cases fails
          exact .pattern spec invalid
    | sequence items extract extractSome fields =>
        rw [spec] at fails
        simp only at fails
        split at fails
        next => cases fails
        next conflicting =>
          cases fails
          exact .shapes spec (shape?_eq_none_iff.mp conflicting)
    | literal _ | choice _ | optional _ | repetition _ =>
        rw [spec] at fails
        cases fails
  · intro faulty
    unfold toDef
    cases faulty with
    | shapes sequence conflicting =>
        simp only [sequence, shape?_eq_none_iff.mpr conflicting]
    | pattern pattern invalid =>
        simp only [pattern, RuleDef.pattern, invalid]
        rfl

theorem exists_toDef_iff :
    (∃ rule, entry.toDef properties = .ok rule) ↔ ∀ found, ¬ entry.Fault properties found := by
  simp only [← toDef_eq_error_iff]
  cases entry.toDef properties <;> simp

end RuleEntry

/-! ## Grammars -/

namespace Grammar

variable {properties : Regex.PropertyTable} {grammar : Grammar} {rules : List RuleDef}
  {registry : Registry} {fault : ConfigError}

/-- What is wrong with a grammar that gives no registry: the first entry that something is wrong with,
or else what is wrong with its rules, or else the name of its entry rule. -/
inductive Refuses (properties : Regex.PropertyTable) (grammar : Grammar) : ConfigError → Prop where
  | entry {before after : List RuleEntry} {entry : RuleEntry} {fault : ConfigError} :
      grammar.rules = before ++ entry :: after →
      (∀ earlier ∈ before, ∀ found, ¬ earlier.Fault properties found) → entry.Fault properties fault →
      Refuses properties grammar fault
  | rules {rules : List RuleDef} {fault : GrammarError} :
      List.Forall₂ (RuleEntry.Means properties) grammar.rules rules → Registry.Refuses rules fault →
      Refuses properties grammar (.grammar fault)
  | unknownEntry {rules : List RuleDef} {name : String} :
      List.Forall₂ (RuleEntry.Means properties) grammar.rules rules → Registry.Acceptable rules →
      grammar.entry = some name → ¬ Registry.Known rules name →
      Refuses properties grammar (.grammar (.unknownRule name none))

/-- The entries become rules one by one. -/
theorem toDefs_eq_ok_iff :
    grammar.toDefs properties = .ok rules ↔
      List.Forall₂ (RuleEntry.Means properties) grammar.rules rules := by
  rw [toDefs, mapM_eq_ok_iff]
  simp only [RuleEntry.toDef_eq_ok_iff]

theorem toDefs_eq_error_iff :
    grammar.toDefs properties = .error fault ↔
      ∃ before entry after, grammar.rules = before ++ entry :: after ∧
        (∀ earlier ∈ before, ∀ found, ¬ earlier.Fault properties found) ∧
          entry.Fault properties fault := by
  rw [toDefs, mapM_eq_error_iff]
  simp only [RuleEntry.exists_toDef_iff, RuleEntry.toDef_eq_error_iff]

theorem exists_toDefs_iff :
    (∃ rules, grammar.toDefs properties = .ok rules) ↔
      ∀ entry ∈ grammar.rules, ∀ found, ¬ entry.Fault properties found := by
  simp only [toDefs, exists_mapM_iff, RuleEntry.exists_toDef_iff]

/-- Setting the entry fails when the grammar names one that its rules do not have. -/
theorem withEntry_eq_error_iff {entry : Option String} {found : GrammarError}
    (built : Registry.ofRules rules = .ok registry) :
    withEntry entry registry = .error found ↔
      ∃ name, entry = some name ∧ ¬ Registry.Known rules name ∧ found = .unknownRule name none := by
  have unknown : ∀ name, registry.find? name = none ↔ ¬ Registry.Known rules name := by
    intro name
    obtain ⟨all, comprises⟩ := Registry.exists_comprises rules
    have linked := Registry.linkedFrom_of_ofRules built comprises
    rw [linked.find?_eq_none_iff, linked.names, comprises.mem_names]
  cases entry with
  | none => simp [withEntry]
  | some name =>
      simp only [withEntry, Option.some.injEq, exists_eq_left', ← unknown,
        Registry.setEntry_eq_error_iff]

/-- The registry with the entry that a grammar names, if it names one. -/
inductive Enters (built : Registry) : Option String → Registry → Prop where
  | unnamed : Enters built none built
  | named {name : String} {id : RuleId} :
      built.find? name = some id → Enters built (some name) { built with entry := id }

theorem withEntry_eq_ok_iff {built : Registry} {entry : Option String} :
    withEntry entry built = .ok registry ↔ Enters built entry registry := by
  cases entry with
  | none =>
      rw [withEntry, Except.ok.injEq]
      constructor
      · rintro rfl
        exact .unnamed
      · rintro ⟨⟩
        rfl
  | some name =>
      simp only [withEntry, Registry.setEntry_eq_ok_iff, Registry.lookup_eq_ok_iff]
      constructor
      · rintro ⟨id, found, rfl⟩
        exact .named found
      · intro enters
        cases enters with
        | named found => exact ⟨_, found, rfl⟩

/-- A grammar whose entries are rules is refused for these, or else for the name of its entry rule. -/
theorem refuses_iff_of_means (means : List.Forall₂ (RuleEntry.Means properties) grammar.rules rules) :
    Refuses properties grammar fault ↔
      (∃ found, Registry.Refuses rules found ∧ .grammar found = fault) ∨
      (Registry.Acceptable rules ∧ ∃ name, grammar.entry = some name ∧
        ¬ Registry.Known rules name ∧ .grammar (.unknownRule name none) = fault) := by
  have only : ∀ {others : List RuleDef},
      List.Forall₂ (RuleEntry.Means properties) grammar.rules others → others = rules := by
    intro others means'
    have same := (toDefs_eq_ok_iff.mpr means').symm.trans (toDefs_eq_ok_iff.mpr means)
    exact Except.ok.inj same
  constructor
  · intro refuses
    cases refuses with
    | @entry before after entry _ split _ faulty =>
        have right := exists_toDefs_iff.mp ⟨rules, toDefs_eq_ok_iff.mpr means⟩ entry (by simp [split])
        exact absurd faulty (right fault)
    | rules means' wrong =>
        obtain rfl := only means'
        exact .inl ⟨_, wrong, rfl⟩
    | unknownEntry means' acceptable named unknown =>
        obtain rfl := only means'
        exact .inr ⟨acceptable, _, named, unknown, rfl⟩
  · rintro (⟨found, wrong, rfl⟩ | ⟨acceptable, name, named, unknown, rfl⟩)
    · exact .rules means wrong
    · exact .unknownEntry means acceptable named unknown

/-- A grammar is refused for its first fault: in its entries, in its rules, or in the name of its entry
rule. -/
theorem toRegistry_eq_error_iff :
    grammar.toRegistry properties = .error fault ↔ Refuses properties grammar fault := by
  cases attempt : grammar.toDefs properties with
  | error found =>
      have reported : grammar.toRegistry properties = .error found := by simp only [toRegistry, attempt]
      rw [reported, Except.error.injEq]
      constructor
      · rintro rfl
        obtain ⟨before, entry, after, split, sound, faulty⟩ := toDefs_eq_error_iff.mp attempt
        exact .entry split sound faulty
      · intro refuses
        cases refuses with
        | entry split sound faulty =>
            have same := toDefs_eq_error_iff.mpr ⟨_, _, _, split, sound, faulty⟩
            rw [attempt, Except.error.injEq] at same
            exact same
        | rules means _ | unknownEntry means _ _ _ =>
            rw [toDefs_eq_ok_iff.mpr means] at attempt
            cases attempt
  | ok rules =>
      rw [refuses_iff_of_means (toDefs_eq_ok_iff.mp attempt)]
      cases building : Registry.ofRules rules with
      | error found =>
          have reported : grammar.toRegistry properties = .error (.grammar found) := by
            simp only [toRegistry, attempt, building]
          have only : ∀ other, Registry.Refuses rules other ↔ found = other := by
            intro other
            rw [← Registry.ofRules_eq_error_iff, building, Except.error.injEq]
          have unacceptable : ¬ Registry.Acceptable rules := fun acceptable =>
            acceptable.not_refuses ((only found).mpr rfl)
          simp [reported, only, unacceptable]
      | ok built =>
          have failed : grammar.toRegistry properties = .error fault ↔
              ∃ found, withEntry grammar.entry built = .error found ∧ .grammar found = fault := by
            simp only [toRegistry, attempt, building]
            cases withEntry grammar.entry built <;> simp [Except.mapError]
          have acceptable := Registry.acceptable_of_ofRules building
          have unrefused : ∀ other, ¬ Registry.Refuses rules other := fun _ => acceptable.not_refuses
          rw [failed]
          simp only [withEntry_eq_error_iff building, unrefused, acceptable]
          constructor
          · rintro ⟨_, ⟨name, named, unknown, rfl⟩, same⟩
            exact .inr ⟨trivial, name, named, unknown, same⟩
          · rintro (⟨_, wrong, _⟩ | ⟨_, name, named, unknown, same⟩)
            · exact wrong.elim
            · exact ⟨_, ⟨name, named, unknown, rfl⟩, same⟩

/-- A grammar that is not refused gives the registry of the rules that its entries mean, with the entry
that it names. -/
theorem toRegistry_eq_ok_iff :
    grammar.toRegistry properties = .ok registry ↔
      ∃ rules built, List.Forall₂ (RuleEntry.Means properties) grammar.rules rules ∧
        Registry.ofRules rules = .ok built ∧ Enters built grammar.entry registry := by
  simp only [← toDefs_eq_ok_iff, ← withEntry_eq_ok_iff]
  cases attempt : grammar.toDefs properties with
  | error found => simp [toRegistry, attempt]
  | ok rules =>
      cases building : Registry.ofRules rules with
      | error found => simp [toRegistry, attempt, building]
      | ok built =>
          have succeeded : grammar.toRegistry properties = .ok registry ↔
              withEntry grammar.entry built = .ok registry := by
            simp only [toRegistry, attempt, building]
            cases withEntry grammar.entry built <;> simp [Except.mapError]
          simp [succeeded, building]

end Grammar

/-! ## Tables that list more -/

section

variable {larger properties : Regex.PropertyTable} (more : larger.Extends properties)

include more

theorem RuleSpec.Describes.of_extends {spec : RuleSpec} {kind : RuleKind String}
    (describes : spec.Describes properties kind) : spec.Describes larger kind := by
  cases describes with
  | literal text => exact .literal text
  | pattern compiled => exact .pattern (Pattern.compile?_of_extends more compiled)
  | sequence items asks => exact .sequence items asks
  | choice options => exact .choice options
  | optional inner => exact .optional inner
  | repetition repetition => exact .repetition repetition

theorem RuleEntry.Means.of_extends {entry : RuleEntry} {rule : RuleDef}
    (means : entry.Means properties rule) : entry.Means larger rule :=
  ⟨means.name, means.skips, means.kind.of_extends more⟩

/-- A grammar that is accepted gives the same registry with a table that lists more. -/
theorem Grammar.toRegistry_of_extends {grammar : Grammar} {registry : Registry}
    (made : grammar.toRegistry properties = .ok registry) : grammar.toRegistry larger = .ok registry := by
  obtain ⟨rules, built, means, building, enters⟩ := toRegistry_eq_ok_iff.mp made
  have means' : List.Forall₂ (RuleEntry.Means larger) grammar.rules rules :=
    means.imp fun _ _ means => means.of_extends more
  exact toRegistry_eq_ok_iff.mpr ⟨rules, built, means', building, enters⟩

end

/-! ## Rules and grammars -/

/-- Rules are accepted exactly when nothing is wrong with them, and refused for the first fault there is
otherwise; and so are grammars as written, for a fault in their entries before one in their rules, and
for the name of the entry rule last. A grammar that is accepted gives the registry of the rules that its
entries mean. -/
theorem accepted_or_refused :
    (∀ rules, (∃ registry, Registry.ofRules rules = .ok registry) ↔ Registry.Acceptable rules) ∧
    (∀ rules fault, Registry.ofRules rules = .error fault ↔ Registry.Refuses rules fault) ∧
    (∀ properties (grammar : Grammar), (∃ rules, grammar.toDefs properties = .ok rules) ↔
      ∀ entry ∈ grammar.rules, ∀ fault, ¬ entry.Fault properties fault) ∧
    (∀ properties (grammar : Grammar) registry, grammar.toRegistry properties = .ok registry ↔
      ∃ rules built, List.Forall₂ (RuleEntry.Means properties) grammar.rules rules ∧
        Registry.ofRules rules = .ok built ∧ Grammar.Enters built grammar.entry registry) ∧
    ∀ properties (grammar : Grammar) fault,
      grammar.toRegistry properties = .error fault ↔ grammar.Refuses properties fault := by
  refine ⟨?rules, ?faults, ?entries, ?registry, ?refusal⟩
  case rules => exact fun rules => Registry.exists_ofRules_iff
  case faults => exact fun rules fault => Registry.ofRules_eq_error_iff
  case entries => exact fun properties grammar => Grammar.exists_toDefs_iff
  case registry => exact fun properties grammar registry => Grammar.toRegistry_eq_ok_iff
  case refusal => exact fun properties grammar fault => Grammar.toRegistry_eq_error_iff

end RuleGrammar
