import RuleGrammar.Proofs.Representation

/-!
Owns which rules form a grammar, and which fault is reported where they do not.

Contract: `Registry.Acceptable` says what the rules of a grammar must be like, and `Registry.Refuses`
says which fault comes first: names before everything else, rule by rule, and then what is wrong inside
the rules. Faults are described by what is wrong with the rules; that building reports them, and no others,
is proved (`Registry.exists_ofRules_iff`, `Registry.ofRules_eq_error_iff`).
-/

namespace RuleGrammar

/-! ## Faults of a rule -/

namespace RuleDef

/-- What is wrong with a rule by itself: bounds in the wrong order, or an index without an item, and the
first such index. -/
inductive SettingsFault (rule : RuleDef) : GrammarError → Prop where
  | bounds {repetition : Repetition String} {max : Nat} :
      rule.kind = .repetition repetition → repetition.max = some max → max < repetition.min →
      SettingsFault rule (.invalidBounds rule.name repetition.min max)
  | index {items : List String} {shape : Shape} {before after : List Nat} {index : Nat} :
      rule.kind = .sequence items shape → shape.indices = before ++ index :: after →
      (∀ earlier ∈ before, earlier < items.length) → items.length ≤ index →
      SettingsFault rule (.shapeIndexOutOfRange rule.name index items.length)

/-- What is wrong with a rule among others: its settings, or else the first reference that leads to no
rule. -/
inductive Fault (known : String → Prop) (rule : RuleDef) : GrammarError → Prop where
  | settings {fault : GrammarError} : rule.SettingsFault fault → Fault known rule fault
  | reference {before after : List String} {name : String} :
      (∀ fault, ¬ rule.SettingsFault fault) →
      rule.kind.dependencies = before ++ name :: after → (∀ earlier ∈ before, known earlier) →
      ¬ known name → Fault known rule (.unknownRule name (some rule.name))

/-- Nothing is wrong with a rule: its bounds are in order, its indices address items, and its references
lead to rules. -/
structure Sound (known : String → Prop) (rule : RuleDef) : Prop where
  bounds : ∀ repetition, rule.kind = .repetition repetition →
    ∀ max, repetition.max = some max → repetition.min ≤ max
  indices : ∀ items shape, rule.kind = .sequence items shape →
    ∀ index ∈ shape.indices, index < items.length
  references : ∀ name ∈ rule.kind.dependencies, known name

/-- What is wrong with the name of a rule after rules with other names. -/
inductive NameFault (taken : List String) (rule : RuleDef) : GrammarError → Prop where
  | reserved : BaseType.isReserved rule.name = true → NameFault taken rule (.reservedName rule.name)
  | duplicate : BaseType.isReserved rule.name = false → rule.name ∈ taken →
      NameFault taken rule (.duplicateName rule.name)

theorem fault?_eq_some_iff {rule : RuleDef} {fault : GrammarError} :
    rule.fault? = some fault ↔ rule.SettingsFault fault := by
  constructor
  · intro found
    unfold fault? at found
    split at found
    next items shape sequence =>
      obtain ⟨index, first, rfl⟩ := Option.map_eq_some_iff.mp found
      obtain ⟨outside, before, after, indices, inside⟩ := List.find?_eq_some_iff_append.mp first
      refine .index sequence indices ?_ (of_decide_eq_true outside)
      intro earlier member
      simpa using inside earlier member
    next repetition repeats =>
      split at found
      next max bounded =>
        split at found
        next reversed =>
          cases found
          exact .bounds repeats bounded reversed
        next => cases found
      next => cases found
    next => cases found
  · intro wrong
    unfold fault?
    cases wrong with
    | bounds repeats bounded reversed => simp only [repeats, bounded, if_pos reversed]
    | index sequence indices inside outside =>
        simp only [sequence]
        refine Option.map_eq_some_iff.mpr ⟨_, List.find?_eq_some_iff_append.mpr ?_, rfl⟩
        refine ⟨decide_eq_true outside, _, _, indices, fun earlier member => ?_⟩
        simpa using inside earlier member

theorem fault?_eq_none_iff {rule : RuleDef} :
    rule.fault? = none ↔
      (∀ repetition, rule.kind = .repetition repetition →
        ∀ max, repetition.max = some max → repetition.min ≤ max) ∧
      ∀ items shape, rule.kind = .sequence items shape →
        ∀ index ∈ shape.indices, index < items.length := by
  unfold fault?
  cases rule.kind with
  | sequence items shape => simp
  | repetition repetition =>
      obtain ⟨element, separator, min, max, collapses, retains⟩ := repetition
      cases max <;> simp
  | literal _ | pattern _ | choice _ | optional _ => simp

/-- A sound rule has no fault. -/
theorem Sound.not_fault {known : String → Prop} {rule : RuleDef} {fault : GrammarError}
    (sound : rule.Sound known) : ¬ rule.Fault known fault := by
  intro faulty
  have settings := fault?_eq_none_iff.mpr ⟨sound.bounds, sound.indices⟩
  cases faulty with
  | settings wrong =>
      rw [fault?_eq_some_iff.mpr wrong] at settings
      cases settings
  | reference _ dependencies _ unknown =>
      exact unknown (sound.references _ (by simp [dependencies]))

end RuleDef

/-! ## Faults in linking -/

/-- Resolving the references of a rule fails where a traversal of them does. -/
theorem RuleKind.resolve_eq_error_iff {R S ε : Type} {step : R → Except ε S} {kind : RuleKind R}
    {fault : ε} :
    kind.resolve step = .error fault ↔ kind.dependencies.mapM step = .error fault := by
  have mapped : ∀ {α β : Type} (change : α → β) (attempt : Except ε α),
      attempt.map change = .error fault ↔ attempt = .error fault := by
    intro α β change attempt
    cases attempt <;> simp [Except.map]
  cases kind with
  | literal _ | pattern _ => simp [resolve, dependencies, pure, Except.pure]
  | sequence items shape => exact mapped _ _
  | choice options => exact mapped _ _
  | optional inner =>
      simp only [resolve, dependencies, List.mapM_cons, List.mapM_nil]
      cases step inner <;> simp [Except.map, bind, Except.bind, pure, Except.pure]
  | repetition rep =>
      simp only [resolve, dependencies, List.mapM_cons]
      cases step rep.element with
      | error found => simp [bind, Except.bind]
      | ok element =>
          cases rep.separator with
          | none => simp [Except.map, bind, Except.bind, pure, Except.pure]
          | some between =>
              simp only [Option.mapM_some, Option.toList_some, List.mapM_cons, List.mapM_nil]
              cases step between <;>
                simp [Except.map, Functor.map, bind, Except.bind, pure, Except.pure]

namespace RuleDef

variable {find : String → Option RuleId} {rule : RuleDef} {fault : GrammarError}

/-- The rule that a reference leads to. -/
def reference (find : String → Option RuleId) (rule : RuleDef) (name : String) :
    Except GrammarError RuleId :=
  match find name with
  | some id => .ok id
  | none => .error (.unknownRule name (some rule.name))

theorem exists_reference_iff {name : String} :
    (∃ id, rule.reference find name = .ok id) ↔ (find name).isSome := by
  unfold reference
  cases find name <;> simp

theorem reference_eq_error_iff {name : String} :
    rule.reference find name = .error fault ↔
      ¬ (find name).isSome ∧ .unknownRule name (some rule.name) = fault := by
  unfold reference
  cases find name <;> simp

theorem link_eq_of_settings (settings : rule.fault? = none) :
    rule.link find =
      (rule.kind.resolve (rule.reference find)).map (⟨rule.name, rule.appliesSkip, ·⟩) := by
  unfold link
  rw [settings]
  rfl

/-- Linking reports what is wrong with a rule, and nothing else. -/
theorem link_eq_error_iff :
    rule.link find = .error fault ↔ rule.Fault (fun name => (find name).isSome) fault := by
  cases settings : rule.fault? with
  | some found =>
      have wrong := fault?_eq_some_iff.mp settings
      have reported : rule.link find = .error found := by
        unfold link
        rw [settings]
      rw [reported, Except.error.injEq]
      constructor
      · rintro rfl
        exact .settings wrong
      · intro faulty
        cases faulty with
        | settings other =>
            rw [fault?_eq_some_iff.mpr other, Option.some.injEq] at settings
            exact settings.symm
        | reference right _ _ _ => exact absurd wrong (right found)
  | none =>
      have right : ∀ found, ¬ rule.SettingsFault found := by
        intro found wrong
        rw [fault?_eq_some_iff.mpr wrong] at settings
        cases settings
      have failed : rule.link find = .error fault ↔
          rule.kind.resolve (rule.reference find) = .error fault := by
        rw [link_eq_of_settings settings]
        cases rule.kind.resolve (rule.reference find) <;> simp [Except.map]
      rw [failed, RuleKind.resolve_eq_error_iff, mapM_eq_error_iff]
      simp only [exists_reference_iff, reference_eq_error_iff]
      constructor
      · rintro ⟨before, name, after, dependencies, known, unknown, rfl⟩
        exact .reference right dependencies known unknown
      · intro faulty
        cases faulty with
        | settings wrong => exact absurd wrong (right fault)
        | reference _ dependencies known unknown =>
            exact ⟨_, _, _, dependencies, known, unknown, rfl⟩

/-- A rule can be linked when nothing is wrong with it. -/
theorem exists_link_iff :
    (∃ linked, rule.link find = .ok linked) ↔ rule.Sound fun name => (find name).isSome := by
  constructor
  · rintro ⟨linked, links⟩
    obtain ⟨settings, _, _, relates⟩ := link_eq_ok links
    obtain ⟨bounds, indices⟩ := fault?_eq_none_iff.mp settings
    refine ⟨bounds, indices, fun name member => ?_⟩
    obtain ⟨id, _, found⟩ := exists_related_of_mem relates.dependencies.flip member
    rw [found]
    rfl
  · intro sound
    cases links : rule.link find with
    | ok linked => exact ⟨linked, rfl⟩
    | error found => exact absurd (link_eq_error_iff.mp links) sound.not_fault

end RuleDef

/-- A name of a base type that is taken is reserved in the first place. -/
theorem RuleDef.nameFault_names_append_iff {taken : List String} {rule : RuleDef}
    {fault : GrammarError} :
    rule.NameFault (BaseType.names ++ taken) fault ↔ rule.NameFault taken fault := by
  constructor
  · intro wrong
    cases wrong with
    | reserved reserved => exact .reserved reserved
    | duplicate unreserved repeated =>
        rcases List.mem_append.mp repeated with base | repeated
        · rw [BaseType.isReserved, List.contains_iff_mem.mpr base] at unreserved
          cases unreserved
        · exact .duplicate unreserved repeated
  · intro wrong
    cases wrong with
    | reserved reserved => exact .reserved reserved
    | duplicate unreserved repeated =>
        exact .duplicate unreserved (List.mem_append_right _ repeated)

/-! ## Faults of a list of rules -/

namespace Registry

variable {rules all : List RuleDef} {fault : GrammarError}

/-- Rules that form a grammar. -/
structure Acceptable (rules : List RuleDef) : Prop where
  nonempty : rules ≠ []
  unreserved : ∀ rule ∈ rules, BaseType.isReserved rule.name = false
  distinct : (rules.map Rule.name).Nodup
  sound : ∀ rule ∈ rules, rule.Sound (Known rules)

/-- What is wrong with rules that form no grammar: the first name that is wrong, or else that there are
no rules, or else what is wrong with the first rule that something is wrong with. -/
inductive Refuses (rules : List RuleDef) : GrammarError → Prop where
  | name {before after : List RuleDef} {rule : RuleDef} {fault : GrammarError} :
      rules = before ++ rule :: after →
      (∀ earlier ∈ before, BaseType.isReserved earlier.name = false) →
      (before.map Rule.name).Nodup → rule.NameFault (before.map Rule.name) fault →
      Refuses rules fault
  | empty : rules = [] → Refuses rules .emptyGrammar
  | rule {before after : List RuleDef} {rule : RuleDef} {fault : GrammarError} :
      (∀ other ∈ rules, BaseType.isReserved other.name = false) → (rules.map Rule.name).Nodup →
      rules = before ++ rule :: after → (∀ earlier ∈ before, earlier.Sound (Known rules)) →
      rule.Fault (Known rules) fault → Refuses rules fault

end Registry

/-! ## Declaring all rules -/

namespace Registration.Indexed

variable {registration : Registration} {rules : List RuleDef} {fault : GrammarError}

theorem declare_eq_error_iff (indexed : registration.Indexed) {rule : RuleDef} :
    registration.declare rule = .error fault ↔ rule.NameFault registration.names fault := by
  rw [declare]
  by_cases reserved : BaseType.isReserved rule.name = true
  · rw [if_pos reserved, Except.error.injEq]
    constructor
    · rintro rfl
      exact .reserved reserved
    · intro wrong
      cases wrong with
      | reserved _ => rfl
      | duplicate unreserved _ => simp [unreserved] at reserved
  · rw [if_neg reserved]
    rw [Bool.not_eq_true] at reserved
    by_cases taken : rule.name ∈ registration.names
    · rw [if_pos (indexed.contains_iff.mpr taken), Except.error.injEq]
      constructor
      · rintro rfl
        exact .duplicate reserved taken
      · intro wrong
        cases wrong with
        | reserved other => simp [reserved] at other
        | duplicate _ _ => rfl
    · rw [if_neg (mt indexed.contains_iff.mp taken)]
      refine iff_of_false (by simp) fun wrong => ?_
      cases wrong with
      | reserved other => simp [reserved] at other
      | duplicate _ other => exact taken other

/-- The fault in the names is that of the first rule with a wrong name. -/
theorem declareAll_eq_error_iff (indexed : registration.Indexed) :
    registration.declareAll rules = .error fault ↔
      ∃ before rule after, rules = before ++ rule :: after ∧
        Registry.NamesFit registration.names before ∧
        rule.NameFault (registration.names ++ before.map Rule.name) fault := by
  induction rules generalizing registration with
  | nil => simp [declareAll]
  | cons first rules inductionHypothesis =>
      rw [declareAll]
      cases attempt : registration.declare first with
      | error found =>
          have wrong := indexed.declare_eq_error_iff.mp attempt
          simp only [Except.error.injEq]
          constructor
          · rintro rfl
            exact ⟨[], first, rules, rfl, Registry.namesFit_nil _, by simpa using wrong⟩
          · rintro ⟨before, rule, after, split, fit, faulty⟩
            cases before with
            | nil =>
                obtain ⟨rfl, rfl⟩ := List.cons.inj split
                rw [List.map_nil, List.append_nil, ← indexed.declare_eq_error_iff, attempt,
                  Except.error.injEq] at faulty
                exact faulty
            | cons other before =>
                obtain ⟨rfl, rfl⟩ := List.cons.inj split
                obtain ⟨unreserved, fresh, -⟩ := Registry.namesFit_cons.mp fit
                have made := indexed.declare_eq_ok_iff.mpr ⟨unreserved, fresh, rfl⟩
                cases attempt.symm.trans made
      | ok next =>
          obtain ⟨unreserved, fresh, rfl⟩ := indexed.declare_eq_ok_iff.mp attempt
          simp only
          rw [inductionHypothesis (indexed.enter fresh), names_enter]
          constructor
          · rintro ⟨before, rule, after, rfl, fit, wrong⟩
            rw [← List.append_cons, ← List.map_cons] at wrong
            exact ⟨first :: before, rule, after, rfl,
              Registry.namesFit_cons.mpr ⟨unreserved, fresh, fit⟩, wrong⟩
          · rintro ⟨before, rule, after, split, fit, wrong⟩
            cases before with
            | nil =>
                obtain ⟨rfl, rfl⟩ := List.cons.inj split
                rw [List.map_nil, List.append_nil, ← indexed.declare_eq_error_iff, attempt] at wrong
                cases wrong
            | cons other before =>
                obtain ⟨rfl, rfl⟩ := List.cons.inj split
                rw [List.map_cons, List.append_cons] at wrong
                exact ⟨before, rule, after, rfl, (Registry.namesFit_cons.mp fit).2.2, wrong⟩

end Registration.Indexed

namespace Registry

variable {rules all : List RuleDef} {fault : GrammarError}

/-! ## Linking all rules -/

/-- A traversal of all rules that passes those that are always there fails where it fails for the
declared ones. -/
theorem Comprises.mapM_eq_error_iff {β : Type} {step : RuleDef → Except GrammarError β}
    (comprises : Comprises rules all)
    (always : ∀ rule : RuleDef, rule.SelfContained → ∃ output, step rule = .ok output) :
    all.mapM step = .error fault ↔ rules.mapM step = .error fault := by
  obtain ⟨baseTypes, skip, defined, defaults, rfl⟩ := comprises
  refine mapM_append_eq_error_iff ?_ ?_
  · exact fun rule member => always rule (BaseType.selfContained_definitions defined member)
  · intro rule member
    split at member
    · cases member
    · rw [List.mem_singleton.mp member]
      exact always skip (RuleDef.pattern_eq_ok defaults).2

/-- If linking fails, it is for what is wrong with the first declared rule that something is wrong
with. -/
theorem Comprises.mapM_link_eq_error_iff (comprises : Comprises rules all) {find : String → Option RuleId}
    (finds : ∀ name, (find name).isSome ↔ Known rules name) :
    all.mapM (RuleDef.link find) = .error fault ↔
      ∃ before rule after, rules = before ++ rule :: after ∧
        (∀ earlier ∈ before, earlier.Sound (Known rules)) ∧ rule.Fault (Known rules) fault := by
  have known : (fun name => (find name).isSome = true) = Known rules :=
    funext fun name => propext (finds name)
  have always : ∀ rule : RuleDef, rule.SelfContained → ∃ linked, rule.link find = .ok linked := by
    intro rule contained
    rw [RuleDef.exists_link_iff, known]
    obtain ⟨bounds, indices⟩ := RuleDef.fault?_eq_none_iff.mp contained.settings
    exact ⟨bounds, indices, fun name member => .inr (.inl (contained.references name member))⟩
  rw [comprises.mapM_eq_error_iff always, RuleGrammar.mapM_eq_error_iff]
  simp only [RuleDef.exists_link_iff, RuleDef.link_eq_error_iff, known]

/-! ## Building a registry -/

/-- The names in the index of all rules are those that can be referred to. -/
theorem Comprises.isSome_index_iff (comprises : Comprises rules all) (fit : NamesFit [] rules)
    {name : String} : ((registered all).index[name]?).isSome ↔ Known rules name := by
  rw [Option.isSome_iff_exists, (indexed_registered (comprises.distinct fit)).exists_iff,
    names_registered, comprises.mem_names]

/-- Declared rules are refused for the first name that is wrong. -/
theorem declareAll_eq_error_iff {baseTypes : List RuleDef}
    (defined : BaseType.definitions = .ok baseTypes) :
    (registered baseTypes).declareAll rules = .error fault ↔
      ∃ before rule after, rules = before ++ rule :: after ∧ NamesFit [] before ∧
        rule.NameFault (before.map Rule.name) fault := by
  rw [(indexed_baseTypes defined).declareAll_eq_error_iff, names_registered,
    BaseType.names_definitions defined]
  simp only [namesFit_names_iff, RuleDef.nameFault_names_append_iff]

/-- Building fails for a name, for want of rules, or in linking, in this order. -/
theorem ofRules_eq_error (comprises : Comprises rules all) :
    ofRules rules = .error fault ↔
      (∃ before rule after, rules = before ++ rule :: after ∧ NamesFit [] before ∧
        rule.NameFault (before.map Rule.name) fault) ∨
      NamesFit [] rules ∧
        (rules = [] ∧ .emptyGrammar = fault ∨
          rules ≠ [] ∧ all.mapM (RuleDef.link fun name => (registered all).index[name]?) =
            .error fault) := by
  obtain ⟨baseTypes, defined⟩ := BaseType.exists_definitions
  rw [← declareAll_eq_error_iff defined]
  cases attempt : (registered baseTypes).declareAll rules with
  | error found =>
      have misfit : ¬ NamesFit [] rules := by
        intro fit
        cases attempt.symm.trans ((declareAll_eq_ok_iff defined).mpr ⟨fit, rfl⟩)
      have reported : ofRules rules = .error found := by
        rw [registered] at attempt
        simp only [ofRules, defined, attempt]
      simp [reported, misfit]
  | ok declared =>
      obtain ⟨fit, rfl⟩ := (declareAll_eq_ok_iff defined).mp attempt
      by_cases empty : rules = []
      · subst empty
        have reported : ofRules [] = .error .emptyGrammar := by
          simp only [ofRules, defined, Registration.declareAll]
          exact if_pos (congrArg List.length (pending_registered baseTypes))
        simp [reported, fit]
      · obtain ⟨skip, -, same⟩ := ofRules_eq_link comprises fit empty
        rw [same, Registration.link, pending_registered]
        cases all.mapM (RuleDef.link fun name => (registered all).index[name]?) <;>
          simp [Except.map, fit, empty]

/-- Building a registry reports the first fault, and fails with nothing else. -/
theorem ofRules_eq_error_iff : ofRules rules = .error fault ↔ Refuses rules fault := by
  obtain ⟨all, comprises⟩ := exists_comprises rules
  rw [ofRules_eq_error comprises]
  constructor
  · rintro (⟨before, rule, after, split, fit, wrong⟩ | ⟨fit, ⟨empty, rfl⟩ | ⟨_, fails⟩⟩)
    · exact .name split fit.unreserved fit.distinct wrong
    · exact .empty empty
    · obtain ⟨before, rule, after, split, sound, wrong⟩ :=
        (comprises.mapM_link_eq_error_iff fun _ => comprises.isSome_index_iff fit).mp fails
      exact .rule fit.unreserved fit.distinct split sound wrong
  · intro refuses
    have fresh : ∀ others : List RuleDef, ∀ rule ∈ others, rule.name ∉ ([] : List String) :=
      fun _ _ _ => List.not_mem_nil
    cases refuses with
    | name split unreserved distinct wrong =>
        exact .inl ⟨_, _, _, split, ⟨unreserved, fresh _, distinct⟩, wrong⟩
    | empty empty => exact .inr ⟨empty ▸ namesFit_nil [], .inl ⟨empty, rfl⟩⟩
    | rule unreserved distinct split sound wrong =>
        have fit : NamesFit [] rules := ⟨unreserved, fresh _, distinct⟩
        refine .inr ⟨fit, .inr ⟨?_, ?_⟩⟩
        · rw [split]
          simp
        · exact (comprises.mapM_link_eq_error_iff fun _ => comprises.isSome_index_iff fit).mpr
            ⟨_, _, _, split, sound, wrong⟩

/-- Nothing is refused for being acceptable. -/
theorem Acceptable.not_refuses (acceptable : Acceptable rules) : ¬ Refuses rules fault := by
  intro refuses
  cases refuses with
  | @name before after rule _ split _ _ wrong =>
      have member : rule ∈ rules := by simp [split]
      cases wrong with
      | reserved reserved => simp [acceptable.unreserved rule member] at reserved
      | duplicate _ repeated =>
          have distinct := acceptable.distinct
          rw [split, List.map_append, List.map_cons] at distinct
          exact (List.nodup_append.mp distinct).2.2 _ repeated _ List.mem_cons_self rfl
  | empty empty => exact acceptable.nonempty empty
  | @rule before after rule _ _ _ split _ wrong =>
      exact (acceptable.sound rule (by simp [split])).not_fault wrong

/-- The rules of a registry that has been built were acceptable. -/
theorem acceptable_of_ofRules {registry : Registry} (built : ofRules rules = .ok registry) :
    Acceptable rules := by
  obtain ⟨all, comprises⟩ := exists_comprises rules
  obtain ⟨fit, nonempty, linked⟩ := (ofRules_eq_ok_iff comprises).mp built
  have known : ∀ name, (registry.find? name).isSome ↔ Known rules name := by
    intro name
    rw [Option.isSome_iff_exists, linked.exists_find?_iff, linked.names, comprises.mem_names]
  refine ⟨nonempty, fit.unreserved, fit.distinct, fun rule member => ?_⟩
  obtain ⟨_, form, _, _, link⟩ := linked.exists_rule (comprises.mem_of_declared member)
  have sound := RuleDef.exists_link_iff.mp ⟨form, link⟩
  exact ⟨sound.bounds, sound.indices, fun name refers => (known name).mp (sound.references name refers)⟩

/-- Rules form a grammar exactly when nothing is wrong with them. -/
theorem exists_ofRules_iff : (∃ registry, ofRules rules = .ok registry) ↔ Acceptable rules := by
  constructor
  · rintro ⟨registry, built⟩
    exact acceptable_of_ofRules built
  · intro acceptable
    cases attempt : ofRules rules with
    | ok registry => exact ⟨registry, rfl⟩
    | error fault => exact absurd (ofRules_eq_error_iff.mp attempt) acceptable.not_refuses

end Registry

end RuleGrammar
