import RuleGrammar.Proofs.Registration
import RuleGrammar.Proofs.Tree
import RuleGrammar.Registry.Reading

/-!
Owns what stays true of a registry while its entry is set, again and again, with success or without.

Contract: `Registry.Represents` is the invariant; in it the index and the list of rules are inverse to each
other. It holds once a registry is built, a call that sets the entry keeps it (`Represents.afterCall`), and
so it holds after any calls (`Represents.afterCalls`).
-/

namespace RuleGrammar

namespace Registry

variable {rules : List RuleDef} {registry : Registry}

/-! ## Calls that set the entry -/

/-- The registry after a call that sets its entry, and that may fail. -/
def afterCall (registry : Registry) (name : String) : Registry :=
  match registry.setEntry name with
  | .ok changed => changed
  | .error _ => registry

/-- The registry after one call after the other. -/
def afterCalls (registry : Registry) (names : List String) : Registry :=
  names.foldl afterCall registry

/-- The name of a rule; none is asked for that is not there. -/
def nameOf (registry : Registry) (id : RuleId) : String :=
  (registry.ruleName? id).getD ""

/-- What holds of a registry of some declared rules, whichever of its rules is the entry. -/
structure Represents (rules : List RuleDef) (registry : Registry) : Prop where
  /-- Base types come first, declared rules in their order, and skippable text last if by default. -/
  names : registry.names = BaseType.names ++ rules.map Rule.name ++
    if skipName ∈ rules.map Rule.name then [] else [skipName]
  distinct : registry.names.Nodup
  reserved : ∀ id name, registry.ruleName? id = some name →
    (BaseType.isReserved name = true ↔ id.index < 8)
  /-- The index, filled before there are linked rules, and the list of these are inverse to each other. -/
  index : ∀ (name : String) (id : RuleId),
    registry.index[name]? = some id ↔ registry.ruleName? id = some name
  lookup : ∀ name id, registry.lookup name = .ok id ↔ registry.ruleName? id = some name
  found : ∀ name, (∃ id, registry.lookup name = .ok id) ↔ name ∈ registry.names
  contains : ∀ name, registry.contains name = true ↔ name ∈ registry.names
  /-- No id leads out of the registry. -/
  references : ∀ rule ∈ registry.rules, ∀ id ∈ rule.kind.dependencies,
    id.index < registry.rules.length
  skip : registry.ruleName? registry.skip = some skipName
  skipWithin : registry.skip.index < registry.rules.length
  entryWithin : registry.entry.index < registry.rules.length
  /-- With names for ids, the rules are the definitions. -/
  faithful : Comprises rules (registry.rules.map (Rule.map registry.nameOf))
  entry : registry.lookup registry.entryName = .ok registry.entry
  reads : ∀ input start,
    registry.readNamed input start registry.entryName = .ok (registry.read input start)

/-! ## Look-up -/

theorem lookup_eq_error_iff {name : String} {fault : GrammarError} :
    registry.lookup name = .error fault ↔
      registry.find? name = none ∧ fault = .unknownRule name none := by
  unfold lookup
  cases registry.find? name with
  | none => simp [eq_comm]
  | some id => simp

theorem contains_iff {name : String} :
    registry.contains name = true ↔ ∃ id, registry.find? name = some id := by
  rw [contains, Std.TreeMap.contains_eq_isSome_getElem?, Option.isSome_iff_exists]
  rfl

theorem LinkedFrom.find?_eq_none_iff {all : List RuleDef} (linked : LinkedFrom all registry)
    {name : String} : registry.find? name = none ↔ name ∉ registry.names := by
  rw [← linked.exists_find?_iff, Option.eq_none_iff_forall_ne_some, not_exists]

theorem lt_of_ruleName? {name : String} {id : RuleId}
    (named : registry.ruleName? id = some name) : id.index < registry.rules.length := by
  obtain ⟨rule, known, _⟩ := Option.map_eq_some_iff.mp named
  exact (List.getElem?_eq_some_iff.mp known).1

/-! ## When a registry is built -/

/-- The ids of the reserved names are those of the base types, the first eight. -/
theorem Comprises.isReserved_iff {all : List RuleDef} (comprises : Comprises rules all)
    (fit : NamesFit [] rules) {index : Nat} {name : String}
    (here : (all.map Rule.name)[index]? = some name) :
    BaseType.isReserved name = true ↔ index < 8 := by
  have size : BaseType.names.length = 8 := rfl
  rw [comprises.names, List.append_assoc] at here
  by_cases base : index < 8
  · rw [List.getElem?_append_left (size ▸ base)] at here
    exact iff_of_true (List.contains_iff_mem.mpr (List.mem_of_getElem? here)) base
  · rw [List.getElem?_append_right (by omega)] at here
    refine iff_of_false ?_ base
    rcases List.mem_append.mp (List.mem_of_getElem? here) with declared | skips
    · obtain ⟨rule, member, rfl⟩ := List.mem_map.mp declared
      rw [fit.unreserved rule member]
      exact Bool.false_ne_true
    · split at skips
      · cases skips
      · rw [List.mem_singleton.mp skips]
        decide

/-- The entry is a rule: the one named `main`, or else the first behind the base types. -/
theorem LinkedFrom.entry_lt {all : List RuleDef} (linked : LinkedFrom all registry)
    (comprises : Comprises rules all) (nonempty : rules ≠ []) :
    registry.entry.index < registry.rules.length := by
  rw [linked.entry]
  cases found : registry.find? mainName with
  | some id => exact linked.lt_of_find? found
  | none =>
      have names := linked.names.trans comprises.names
      have size := congrArg List.length names
      have eight : BaseType.names.length = 8 := rfl
      rw [Registry.names, List.length_map, List.length_append, List.length_append, List.length_map,
        eight] at size
      have some := List.length_pos_iff.mpr nonempty
      show 8 < registry.rules.length
      omega

/-- Names put back for ids give the definitions that the rules were linked from. -/
theorem LinkedFrom.map_nameOf {all : List RuleDef} (linked : LinkedFrom all registry) :
    registry.rules.map (Rule.map registry.nameOf) = all := by
  have same : List.Forall₂ Eq all all := List.forall₂_same.mpr fun _ _ => rfl
  refine map_eq_of_forall₂ ?_ linked.links same
  rintro rule form _ link rfl
  obtain ⟨_, name, appliesSkip, relates⟩ := RuleDef.link_eq_ok link
  have kind : form.kind.map registry.nameOf = rule.kind := by
    refine RuleKind.Relates.map_eq ?_ relates (RuleKind.relates_self rule.kind)
    rintro name id _ found rfl
    rw [nameOf, linked.find?_eq_some_iff.mp found, Option.getD_some]
  rw [Rule.map, kind, name, appliesSkip]

/-- The invariant holds of a registry that has just been built. -/
theorem represents_of_ofRules (built : ofRules rules = .ok registry) :
    Represents rules registry := by
  obtain ⟨all, comprises⟩ := exists_comprises rules
  obtain ⟨fit, nonempty, linked⟩ := (ofRules_eq_ok_iff comprises).mp built
  have entryWithin := linked.entry_lt comprises nonempty
  have inverse : ∀ name id, registry.lookup name = .ok id ↔ registry.ruleName? id = some name :=
    fun name id => lookup_eq_ok_iff.trans linked.find?_eq_some_iff
  have named : registry.ruleName? registry.entry = some registry.entryName := by
    rw [entryName, ruleName?, rule?, List.getElem?_eq_getElem entryWithin]
    rfl
  have entry : registry.lookup registry.entryName = .ok registry.entry := (inverse _ _).mpr named
  exact
    { names := linked.names.trans comprises.names
      distinct := linked.distinct
      reserved := by
        intro id name here
        rw [ruleName?_eq, linked.names] at here
        exact comprises.isReserved_iff fit here
      index := fun name id => linked.find?_eq_some_iff
      lookup := inverse
      found := by
        intro name
        rw [← linked.exists_find?_iff]
        exact exists_congr fun id => lookup_eq_ok_iff
      contains := fun name => contains_iff.trans linked.exists_find?_iff
      references := fun rule member => (linked.wellFormed.rules rule member).references
      skip := linked.find?_eq_some_iff.mp linked.skip
      skipWithin := linked.wellFormed.skip
      entryWithin := entryWithin
      faithful := linked.map_nameOf.symm ▸ comprises
      entry := entry
      reads := by
        intro input start
        rw [readNamed, entry]
        rfl }

/-! ## While the entry is set -/

/-- Whichever rule is made the entry, the rest of the registry is as before. -/
theorem Represents.withEntry (represents : Represents rules registry) {name : String}
    {id : RuleId} (found : registry.lookup name = .ok id) :
    Represents rules { registry with entry := id } := by
  have named := (represents.lookup name id).mp found
  have entryName : ({ registry with entry := id } : Registry).entryName = name := by
    rw [Registry.entryName]
    show (registry.ruleName? id).getD "" = name
    rw [named, Option.getD_some]
  exact
    { names := represents.names
      distinct := represents.distinct
      reserved := represents.reserved
      index := represents.index
      lookup := represents.lookup
      found := represents.found
      contains := represents.contains
      references := represents.references
      skip := represents.skip
      skipWithin := represents.skipWithin
      entryWithin := lt_of_ruleName? named
      faithful := represents.faithful
      entry := entryName ▸ found
      reads := by
        intro input start
        rw [entryName, readNamed]
        show (registry.lookup name).map _ = _
        rw [found]
        rfl }

/-- A call fails for a name that the index does not have, and for no other reason. -/
theorem setEntry_eq_error_iff {name : String} {fault : GrammarError} :
    registry.setEntry name = .error fault ↔
      registry.find? name = none ∧ fault = .unknownRule name none := by
  rw [← lookup_eq_error_iff, setEntry]
  cases registry.lookup name <;> simp [Except.map]

/-- A call that succeeds makes the rule of that name the entry, and changes nothing else. -/
theorem setEntry_eq_ok_iff {name : String} {changed : Registry} :
    registry.setEntry name = .ok changed ↔
      ∃ id, registry.lookup name = .ok id ∧ { registry with entry := id } = changed := by
  rw [setEntry, map_eq_ok_iff]

theorem Represents.find?_eq_none_iff (represents : Represents rules registry) {name : String} :
    registry.find? name = none ↔ name ∉ registry.names := by
  rw [← represents.found, Option.eq_none_iff_forall_ne_some, not_exists]
  exact forall_congr' fun id => not_congr lookup_eq_ok_iff.symm

theorem Represents.afterCall (represents : Represents rules registry) (name : String) :
    Represents rules (registry.afterCall name) := by
  unfold Registry.afterCall
  split
  next changed succeeds =>
    obtain ⟨id, found, rfl⟩ := setEntry_eq_ok_iff.mp succeeds
    exact represents.withEntry found
  next => exact represents

theorem Represents.afterCalls (represents : Represents rules registry) (names : List String) :
    Represents rules (registry.afterCalls names) := by
  induction names generalizing registry with
  | nil => exact represents
  | cons name names inductionHypothesis => exact inductionHypothesis (represents.afterCall name)

/-- After any calls the invariant holds. A further call that fails names no rule and changes nothing,
and one that succeeds changes the entry only, to the rule of the name given. -/
theorem represents_afterCalls (built : ofRules rules = .ok registry) (names : List String) :
    Represents rules (registry.afterCalls names) ∧
    (∀ name fault, (registry.afterCalls names).setEntry name = .error fault →
      name ∉ registry.names ∧ fault = .unknownRule name none ∧
        registry.afterCalls (names ++ [name]) = registry.afterCalls names) ∧
    ∀ name changed, (registry.afterCalls names).setEntry name = .ok changed →
      changed = { registry.afterCalls names with entry := changed.entry } ∧
        changed.entryName = name ∧ registry.afterCalls (names ++ [name]) = changed := by
  have represents := (represents_of_ofRules built).afterCalls names
  have last : ∀ name, registry.afterCalls (names ++ [name]) =
      (registry.afterCalls names).afterCall name := fun name => List.foldl_append
  have same : (registry.afterCalls names).names = registry.names :=
    represents.names.trans (represents_of_ofRules built).names.symm
  refine ⟨represents, ?_, ?_⟩
  · intro name fault fails
    have unchanged : registry.afterCalls (names ++ [name]) = registry.afterCalls names := by
      rw [last, Registry.afterCall, fails]
    obtain ⟨missing, unknown⟩ := setEntry_eq_error_iff.mp fails
    exact ⟨same ▸ represents.find?_eq_none_iff.mp missing, unknown, unchanged⟩
  · intro name changed succeeds
    have after : registry.afterCalls (names ++ [name]) = changed := by
      rw [last, Registry.afterCall, succeeds]
    obtain ⟨id, found, rfl⟩ := setEntry_eq_ok_iff.mp succeeds
    refine ⟨rfl, ?_, after⟩
    have named := (represents.lookup name id).mp found
    show ((registry.afterCalls names).ruleName? id).getD "" = name
    rw [named, Option.getD_some]

/-- A call that succeeds, and after it one that fails and one that succeeds again. -/
theorem represents_afterCalls_markedWords :
    ∃ registry changed, ofRules markedWords = .ok registry ∧
      Represents markedWords (registry.afterCalls ["word"]) ∧
      (registry.afterCalls ["word"]).setEntry "words" = .error (.unknownRule "words" none) ∧
      registry.afterCalls ["word", "words"] = registry.afterCalls ["word"] ∧
      (registry.afterCalls ["word"]).setEntry "comma" = .ok changed ∧ changed.entryName = "comma" := by
  obtain ⟨registry, built⟩ : ∃ registry, ofRules markedWords = .ok registry := by
    obtain ⟨_, _, _, built⟩ := ofRules_markedWords
    exact ⟨_, built⟩
  obtain ⟨represents, failing, succeeding⟩ := represents_afterCalls built ["word"]
  have words : "words" ∉ (registry.afterCalls ["word"]).names := by
    rw [represents.names]
    decide
  have comma : "comma" ∈ (registry.afterCalls ["word"]).names := by
    rw [represents.names]
    decide
  have fails := setEntry_eq_error_iff.mpr ⟨represents.find?_eq_none_iff.mpr words, rfl⟩
  obtain ⟨id, found⟩ := (represents.found "comma").mpr comma
  have succeeds := setEntry_eq_ok_iff.mpr ⟨id, found, rfl⟩
  exact ⟨registry, _, built, represents, fails, (failing "words" _ fails).2.2, succeeds,
    (succeeding "comma" _ succeeds).2.1⟩

end Registry

end RuleGrammar
