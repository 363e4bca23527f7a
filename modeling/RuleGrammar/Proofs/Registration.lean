import RuleGrammar.Proofs.Indexing
import RuleGrammar.Proofs.Linking

/-!
Owns the rules that a registry is made of: the linked form of the base types, of the declared rules and of
a rule for skippable text, one for one and in this order.

Contract: the base types and the default rule for skippable text are always there (`exists_comprises`),
so that only the declared rules decide whether a registry is built (`ofRules_eq_ok_iff`). In one that is
built the index and the rules are inverse to each other (`LinkedFrom.find?_eq_some_iff`), and no reference
leads out of it (`wellFormed_of_ofRules`).
-/

namespace RuleGrammar

/-! ## Rules that are always there -/

/-- Nothing is wrong with the settings of a rule, and it refers to base types only. -/
structure RuleDef.SelfContained (rule : RuleDef) : Prop where
  settings : rule.fault? = none
  references : ∀ name ∈ rule.kind.dependencies, BaseType.isReserved name = true

theorem RuleDef.pattern_eq_ok {properties : Regex.PropertyTable} {name source : String}
    {value : ValueKind} {skip : Option Bool} {rule : RuleDef}
    (defined : RuleDef.pattern name source value skip properties = .ok rule) :
    rule.name = name ∧ rule.SelfContained := by
  unfold RuleDef.pattern at defined
  split at defined
  next pattern _ =>
    cases defined
    exact ⟨rfl, rfl, by simp [RuleDef.ofKind, RuleKind.dependencies]⟩
  next => cases defined

namespace BaseType

theorem definition_eq_ok {base : BaseType} {rule : RuleDef} (defined : base.definition = .ok rule) :
    rule.name = base.name ∧ rule.SelfContained := by
  cases base <;> simp only [definition] at defined
  case baseType | number =>
    cases defined
    exact ⟨rfl, rfl, by decide⟩
  case bool | float | strictFloat | id | int | string => exact RuleDef.pattern_eq_ok defined

/-- The expressions of all base types are regular expressions within the limit on size. -/
theorem exists_definitions : ∃ baseTypes, definitions = .ok baseTypes := by
  obtain ⟨baseTypes, defined, _⟩ : ∃ baseTypes, definitions = .ok baseTypes ∧ True :=
    exists_ok_of_any (by decide +kernel)
  exact ⟨baseTypes, defined⟩

theorem names_definitions {baseTypes : List RuleDef} (defined : definitions = .ok baseTypes) :
    baseTypes.map Rule.name = names := by
  have named : List.Forall₂ (fun base name => name = BaseType.name base) all names := by
    unfold names
    rw [List.forall₂_map_right_iff]
    exact List.forall₂_same.mpr fun _ _ => rfl
  refine map_eq_of_forall₂ ?_ (mapM_eq_ok_iff.mp defined) named
  intro base rule name here same
  rw [(definition_eq_ok here).1, same]

theorem selfContained_definitions {baseTypes : List RuleDef}
    (defined : definitions = .ok baseTypes) {rule : RuleDef} (member : rule ∈ baseTypes) :
    rule.SelfContained := by
  obtain ⟨base, _, here⟩ := exists_related_of_mem (mapM_eq_ok_iff.mp defined) member
  exact (definition_eq_ok here).2

end BaseType

namespace Registry

/-- A rule for skippable text that reads blanks. -/
theorem exists_defaultSkip :
    ∃ skip, defaultSkip = .ok skip ∧ skip.name = skipName ∧ skip.SelfContained := by
  obtain ⟨skip, defined, _⟩ : ∃ skip, defaultSkip = .ok skip ∧ True :=
    exists_ok_of_any (by decide +kernel)
  exact ⟨skip, defined, RuleDef.pattern_eq_ok defined⟩

/-! ## All rules -/

/-- The rules of a grammar in the order of their ids: the base types, the declared rules, and the
default rule for skippable text if there is no declared one. -/
def Comprises (rules all : List RuleDef) : Prop :=
  ∃ baseTypes skip, BaseType.definitions = .ok baseTypes ∧ defaultSkip = .ok skip ∧
    all = baseTypes ++ rules ++ if skipName ∈ rules.map Rule.name then [] else [skip]

/-- The names that a grammar has, and that its rules can refer to. -/
def Known (rules : List RuleDef) (name : String) : Prop :=
  name ∈ rules.map Rule.name ∨ BaseType.isReserved name = true ∨ name = skipName

theorem exists_comprises (rules : List RuleDef) : ∃ all, Comprises rules all := by
  obtain ⟨baseTypes, defined⟩ := BaseType.exists_definitions
  obtain ⟨skip, defaults, _⟩ := exists_defaultSkip
  exact ⟨_, baseTypes, skip, defined, defaults, rfl⟩

namespace Comprises

variable {rules all : List RuleDef}

theorem names (comprises : Comprises rules all) :
    all.map Rule.name = BaseType.names ++ rules.map Rule.name ++
      if skipName ∈ rules.map Rule.name then [] else [skipName] := by
  obtain ⟨baseTypes, skip, defined, defaults, rfl⟩ := comprises
  have named : skip.name = skipName := (RuleDef.pattern_eq_ok defaults).1
  rw [List.map_append, List.map_append, BaseType.names_definitions defined]
  by_cases declared : skipName ∈ rules.map Rule.name
  · rw [if_pos declared, if_pos declared, List.map_nil]
  · rw [if_neg declared, if_neg declared, List.map_singleton, named]

theorem mem_names (comprises : Comprises rules all) {name : String} :
    name ∈ all.map Rule.name ↔ Known rules name := by
  have reserved : BaseType.isReserved name = true ↔ name ∈ BaseType.names := List.contains_iff_mem
  rw [comprises.names, List.mem_append, List.mem_append, Known, reserved]
  by_cases declared : skipName ∈ rules.map Rule.name
  · have skips : name = skipName → name ∈ rules.map Rule.name := fun same => same ▸ declared
    rw [if_pos declared]
    simp only [List.not_mem_nil, or_false]
    tauto
  · rw [if_neg declared, List.mem_singleton]
    tauto

/-- What relates the declared rules of two grammars one for one relates all of their rules. -/
theorem rel {rules' all' : List RuleDef} {relation : RuleDef → RuleDef → Prop}
    (comprises : Comprises rules all) (comprises' : Comprises rules' all')
    (refl : ∀ rule, relation rule rule) (names : rules'.map Rule.name = rules.map Rule.name)
    (related : List.Forall₂ relation rules rules') : List.Forall₂ relation all all' := by
  obtain ⟨baseTypes, skip, defined, defaults, rfl⟩ := comprises
  obtain ⟨baseTypes', skip', defined', defaults', rfl⟩ := comprises'
  obtain rfl : baseTypes = baseTypes' := Except.ok.inj (defined.symm.trans defined')
  obtain rfl : skip = skip' := Except.ok.inj (defaults.symm.trans defaults')
  have self : ∀ rules : List RuleDef, List.Forall₂ relation rules rules := fun rules =>
    List.forall₂_same.mpr fun rule _ => refl rule
  rw [names]
  exact List.rel_append (List.rel_append (self baseTypes) related) (self _)

theorem mem_of_declared (comprises : Comprises rules all) {rule : RuleDef}
    (declared : rule ∈ rules) : rule ∈ all := by
  obtain ⟨baseTypes, skip, _, _, rfl⟩ := comprises
  exact List.mem_append_left _ (List.mem_append_right _ declared)

end Comprises

/-- With the rules that are always there, names are still distinct. -/
theorem Comprises.distinct {rules all : List RuleDef} (comprises : Comprises rules all)
    (fit : NamesFit [] rules) : (all.map Rule.name).Nodup := by
  have unreserved : ∀ name ∈ BaseType.names, name ∉ rules.map Rule.name := by
    intro name base declared
    obtain ⟨rule, member, rfl⟩ := List.mem_map.mp declared
    have fits := fit.unreserved rule member
    rw [BaseType.isReserved, List.contains_iff_mem.mpr base] at fits
    cases fits
  have basic : (BaseType.names ++ rules.map Rule.name).Nodup := by
    refine List.nodup_append.mpr ⟨by decide, fit.distinct, ?_⟩
    rintro name base _ declared rfl
    exact unreserved name base declared
  rw [comprises.names]
  by_cases declared : skipName ∈ rules.map Rule.name
  · rw [if_pos declared, List.append_nil]
    exact basic
  · rw [if_neg declared]
    refine List.nodup_append.mpr ⟨basic, List.nodup_singleton _, ?_⟩
    rintro name member _ skips rfl
    rw [List.mem_singleton.mp skips, List.mem_append] at member
    rcases member with base | same
    · exact absurd base (by decide)
    · exact declared same

/-! ## All rules entered -/

/-- Rules entered one after the other, with nothing before them. -/
def registered (rules : List RuleDef) : Registration :=
  rules.foldl Registration.enter .empty

theorem pending_registered (rules : List RuleDef) : (registered rules).pending = rules := by
  rw [registered, Registration.pending_foldl_enter]
  rfl

theorem names_registered (rules : List RuleDef) :
    (registered rules).names = rules.map Rule.name := by
  rw [Registration.names, pending_registered]

theorem indexed_registered {rules : List RuleDef} (distinct : (rules.map Rule.name).Nodup) :
    (registered rules).Indexed :=
  Registration.indexed_empty.foldl_enter distinct

/-- The base types are in the index before any rule is declared. -/
theorem indexed_baseTypes {baseTypes : List RuleDef} (defined : BaseType.definitions = .ok baseTypes) :
    (registered baseTypes).Indexed := by
  apply indexed_registered
  rw [BaseType.names_definitions defined]
  decide

/-- Rules are declared behind the base types when their names fit. -/
theorem declareAll_eq_ok_iff {baseTypes rules : List RuleDef} {declared : Registration}
    (defined : BaseType.definitions = .ok baseTypes) :
    (registered baseTypes).declareAll rules = .ok declared ↔
      NamesFit [] rules ∧ registered (baseTypes ++ rules) = declared := by
  rw [(indexed_baseTypes defined).declareAll_eq_ok_iff, names_registered,
    BaseType.names_definitions defined, namesFit_names_iff, registered, registered, List.foldl_append]

/-- With the rule for skippable text all rules are there; the place of `main` is what it was. -/
theorem withSkip_registered {rules all baseTypes : List RuleDef} (comprises : Comprises rules all)
    (defined : BaseType.definitions = .ok baseTypes) (fit : NamesFit [] rules) :
    ∃ skip, (registered (baseTypes ++ rules)).withSkip = .ok (skip, registered all) ∧
      (registered all).index[skipName]? = some skip ∧
      (registered (baseTypes ++ rules)).index[mainName]? = (registered all).index[mainName]? := by
  have distinct := comprises.distinct fit
  obtain ⟨baseTypes', skip, defined', defaults, rfl⟩ := comprises
  obtain rfl : baseTypes = baseTypes' := Except.ok.inj (defined.symm.trans defined')
  have before : ((baseTypes ++ rules).map Rule.name).Nodup := by
    rw [List.map_append] at distinct
    exact (List.nodup_append.mp distinct).1
  have indexed := indexed_registered before
  have present : skipName ∈ (registered (baseTypes ++ rules)).names ↔
      skipName ∈ rules.map Rule.name := by
    rw [names_registered, List.map_append, BaseType.names_definitions defined, List.mem_append]
    exact or_iff_right (by decide)
  rw [Registration.withSkip]
  by_cases declared : skipName ∈ rules.map Rule.name
  · obtain ⟨id, found⟩ := indexed.exists_iff.mpr (present.mpr declared)
    rw [if_pos declared, List.append_nil, found]
    exact ⟨id, rfl, rfl, rfl⟩
  · have missing : (registered (baseTypes ++ rules)).index[skipName]? = none := by
      rw [← Option.not_isSome_iff_eq_none, Option.isSome_iff_exists, indexed.exists_iff, present]
      exact declared
    have last : registered (baseTypes ++ rules ++ [skip]) =
        (registered (baseTypes ++ rules)).enter skip := by
      rw [registered, registered, List.foldl_append]
      rfl
    have named : skip.name = skipName := (RuleDef.pattern_eq_ok defaults).1
    rw [if_neg declared, missing, defaults, last]
    refine ⟨⟨(registered (baseTypes ++ rules)).pending.length⟩, rfl, ?_, ?_⟩
    · rw [Registration.enter, Std.TreeMap.getElem?_insert, named, if_pos Std.ReflCmp.compare_self]
    · rw [Registration.enter, Std.TreeMap.getElem?_insert, named, if_neg (by decide)]

/-! ## Names and ids -/

theorem ruleName?_eq (registry : Registry) (id : RuleId) :
    registry.ruleName? id = registry.names[id.index]? := by
  rw [ruleName?, rule?, names, List.getElem?_map]

theorem lookup_eq_ok_iff {registry : Registry} {name : String} {id : RuleId} :
    registry.lookup name = .ok id ↔ registry.find? name = some id := by
  unfold lookup
  cases registry.find? name <;> simp

/-- A registry whose rules are linked, one for one and by its index, from definitions with distinct
names, whose index is that of the definitions. -/
structure LinkedFrom (all : List RuleDef) (registry : Registry) : Prop where
  links : List.Forall₂ (fun rule linked => rule.link registry.find? = .ok linked) all registry.rules
  index : registry.index = (registered all).index
  distinct : registry.names.Nodup
  skip : registry.find? skipName = some registry.skip
  entry : registry.entry = (registry.find? mainName).getD ⟨8⟩

theorem map_name_of_links {find : String → Option RuleId} {all : List RuleDef}
    {forms : List LinkedRule}
    (links : List.Forall₂ (fun rule linked => rule.link find = .ok linked) all forms) :
    forms.map Rule.name = all.map Rule.name := by
  induction links with
  | nil => rfl
  | cons link _ inductionHypothesis =>
      rw [List.map_cons, List.map_cons, inductionHypothesis, (RuleDef.link_eq_ok link).2.1]

theorem link_registered_eq_ok_iff {all : List RuleDef} {skip entry : RuleId} {registry : Registry} :
    (registered all).link skip entry = .ok registry ↔
      List.Forall₂ (fun rule linked => rule.link registry.find? = .ok linked) all registry.rules ∧
        registry.index = (registered all).index ∧ registry.skip = skip ∧ registry.entry = entry := by
  rw [Registration.link, pending_registered, map_eq_ok_iff]
  constructor
  · rintro ⟨forms, linked, rfl⟩
    exact ⟨mapM_eq_ok_iff.mp linked, rfl, rfl, rfl⟩
  · rintro ⟨links, index, rfl, rfl⟩
    refine ⟨registry.rules, mapM_eq_ok_iff.mpr ?_, by rw [← index]⟩
    rw [← index]
    exact links

/-- Rules whose names fit are linked, all of them, if there are any. -/
theorem ofRules_eq_link {rules all : List RuleDef} (comprises : Comprises rules all)
    (fit : NamesFit [] rules) (nonempty : rules ≠ []) :
    ∃ skip, (registered all).index[skipName]? = some skip ∧
      ofRules rules =
        (registered all).link skip ((registered all).index[mainName]?.getD ⟨8⟩) := by
  obtain ⟨baseTypes, defined⟩ := BaseType.exists_definitions
  obtain ⟨skip, complete, skips, entry⟩ := withSkip_registered comprises defined fit
  have declared := (declareAll_eq_ok_iff defined).mpr ⟨fit, rfl⟩
  have some : (registered (baseTypes ++ rules)).pending.length ≠ baseTypes.length := by
    rw [pending_registered, List.length_append]
    have := List.length_pos_iff.mpr nonempty
    omega
  have eight : baseTypes.length = 8 := by
    rw [← List.length_map Rule.name, BaseType.names_definitions defined]
    rfl
  refine ⟨skip, skips, ?_⟩
  rw [registered] at declared
  simp only [ofRules, defined, declared, if_neg some, complete, entry]
  rw [eight]

/-- A registry is built when the names of the declared rules fit, there are some, and all rules are
linked. -/
theorem ofRules_eq_ok_iff {rules all : List RuleDef} {registry : Registry}
    (comprises : Comprises rules all) :
    ofRules rules = .ok registry ↔ NamesFit [] rules ∧ rules ≠ [] ∧ LinkedFrom all registry := by
  constructor
  · intro built
    obtain ⟨baseTypes, defined⟩ := BaseType.exists_definitions
    have first : ∃ declared, (registered baseTypes).declareAll rules = .ok declared ∧
        declared.pending.length ≠ baseTypes.length := by
      unfold ofRules at built
      rw [defined] at built
      simp only at built
      split at built
      next => cases built
      next declared accepted =>
        refine ⟨declared, accepted, fun same => ?_⟩
        rw [if_pos same] at built
        cases built
    obtain ⟨declared, accepted, longer⟩ := first
    obtain ⟨fit, rfl⟩ := (declareAll_eq_ok_iff defined).mp accepted
    have nonempty : rules ≠ [] := by
      rintro rfl
      rw [pending_registered, List.append_nil] at longer
      exact longer rfl
    obtain ⟨skip, skips, same⟩ := ofRules_eq_link comprises fit nonempty
    rw [same, link_registered_eq_ok_iff] at built
    obtain ⟨links, index, rfl, entry⟩ := built
    have distinct : registry.names.Nodup := by
      rw [names, map_name_of_links links]
      exact comprises.distinct fit
    rw [← index] at skips entry
    exact ⟨fit, nonempty, links, index, distinct, skips, entry⟩
  · rintro ⟨fit, nonempty, linked⟩
    obtain ⟨skip, skips, same⟩ := ofRules_eq_link comprises fit nonempty
    rw [← linked.index] at skips same
    rw [same, link_registered_eq_ok_iff]
    exact ⟨linked.links, linked.index, Option.some.inj (linked.skip.symm.trans skips), linked.entry⟩

theorem linkedFrom_of_ofRules {rules all : List RuleDef} {registry : Registry}
    (built : ofRules rules = .ok registry) (comprises : Comprises rules all) :
    LinkedFrom all registry :=
  ((ofRules_eq_ok_iff comprises).mp built).2.2

namespace LinkedFrom

variable {all : List RuleDef} {registry : Registry}

theorem names (linked : LinkedFrom all registry) : registry.names = all.map Rule.name :=
  map_name_of_links linked.links

/-- The id of a name is the one whose rule has that name. -/
theorem find?_eq_some_iff (linked : LinkedFrom all registry) {name : String} {id : RuleId} :
    registry.find? name = some id ↔ registry.ruleName? id = some name := by
  have indexed := indexed_registered (linked.names ▸ linked.distinct) name id
  rw [ruleName?_eq, find?, linked.index, indexed, names_registered, linked.names]

/-- A name is in the index when a rule has it. -/
theorem exists_find?_iff (linked : LinkedFrom all registry) {name : String} :
    (∃ id, registry.find? name = some id) ↔ name ∈ registry.names := by
  have indexed := indexed_registered (linked.names ▸ linked.distinct)
  have leads : (∃ id, (registered all).index[name]? = some id) ↔ name ∈ (registered all).names :=
    indexed.exists_iff
  rw [names_registered, ← linked.names, ← linked.index] at leads
  exact leads

/-- An id that a name has is that of a rule. -/
theorem lt_of_find? (linked : LinkedFrom all registry) {name : String} {id : RuleId}
    (found : registry.find? name = some id) : id.index < registry.rules.length := by
  have named := linked.find?_eq_some_iff.mp found
  rw [ruleName?_eq] at named
  have within := (List.getElem?_eq_some_iff.mp named).1
  rw [Registry.names, List.length_map] at within
  exact within

/-- A definition has an id, and there its linked form. -/
theorem exists_rule (linked : LinkedFrom all registry) {rule : RuleDef} (member : rule ∈ all) :
    ∃ id form, registry.find? rule.name = some id ∧ registry.rule? id = some form ∧
      rule.link registry.find? = .ok form := by
  obtain ⟨index, within, here⟩ := List.mem_iff_getElem.mp member
  have within' : index < registry.rules.length := linked.links.length_eq ▸ within
  have link := linked.links.get within within'
  rw [List.get_eq_getElem, List.get_eq_getElem, here] at link
  have known : registry.rule? ⟨index⟩ = some registry.rules[index] :=
    List.getElem?_eq_some_iff.mpr ⟨within', rfl⟩
  refine ⟨⟨index⟩, _, linked.find?_eq_some_iff.mpr ?_, known, link⟩
  rw [ruleName?, known, Option.map_some, (RuleDef.link_eq_ok link).2.1]

/-- A rule is the linked form of a definition. -/
theorem exists_definition (linked : LinkedFrom all registry) {id : RuleId} {form : LinkedRule}
    (known : registry.rule? id = some form) :
    ∃ rule ∈ all, rule.link registry.find? = .ok form ∧ registry.find? rule.name = some id := by
  obtain ⟨rule, member, link⟩ := exists_related_of_mem linked.links (List.mem_of_getElem? known)
  refine ⟨rule, member, link, linked.find?_eq_some_iff.mpr ?_⟩
  rw [ruleName?, known, Option.map_some, (RuleDef.link_eq_ok link).2.1]

/-- With the same names in the same places, registries have the same index, and the same rules for
skippable text and as entry. -/
theorem congr {all' : List RuleDef} {other : Registry} (linked : LinkedFrom all registry)
    (linked' : LinkedFrom all' other) (same : all'.map Rule.name = all.map Rule.name) :
    other.index = registry.index ∧ other.skip = registry.skip ∧ other.entry = registry.entry := by
  have index : other.index = registry.index := by
    rw [linked.index, linked'.index]
    exact Registration.index_foldl_enter_congr rfl rfl same
  have skip := linked'.skip
  have entry := linked'.entry
  rw [find?, index] at skip entry
  exact ⟨index, Option.some.inj (skip.symm.trans linked.skip), entry.trans linked.entry.symm⟩

/-- Linked rules fit together. -/
theorem wellFormed (linked : LinkedFrom all registry) : registry.WellFormed := by
  refine ⟨?_, linked.lt_of_find? linked.skip⟩
  intro rule member
  obtain ⟨definition, _, links⟩ := exists_related_of_mem linked.links member
  exact RuleDef.fits_of_link (fun name id found => linked.lt_of_find? found) links

end LinkedFrom

/-- The rules of a registry that has been built fit together. -/
theorem wellFormed_of_ofRules {rules : List RuleDef} {registry : Registry}
    (built : ofRules rules = .ok registry) : registry.WellFormed := by
  obtain ⟨all, comprises⟩ := exists_comprises rules
  exact (linkedFrom_of_ofRules built comprises).wellFormed

end Registry

end RuleGrammar
