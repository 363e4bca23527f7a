import RuleGrammar.Proofs.Traversal
import RuleGrammar.Registry.Basic

/-!
Owns the linking of rules.

Contract: linking keeps everything about a rule but its references, and those become positions of
rules. Where these positions are positions of rules, linked rules fit together (`RuleDef.fits_of_link`):
reading never meets a reference without a rule, an index without an item, or bounds in the wrong order.
-/

namespace RuleGrammar

/-! ## Renamed references -/

/-- The same repetition of other rules. -/
def Repetition.map {R S : Type} (name : R → S) (rep : Repetition R) : Repetition S :=
  { rep with element := name rep.element, separator := rep.separator.map name }

/-- The same kind of rule with other references. -/
def RuleKind.map {R S : Type} (name : R → S) : RuleKind R → RuleKind S
  | .literal text => .literal text
  | .pattern source => .pattern source
  | .sequence items shape => .sequence (items.map name) shape
  | .choice options => .choice (options.map name)
  | .optional inner => .optional (name inner)
  | .repetition rep => .repetition (rep.map name)

/-- The same rule with other references. -/
def Rule.map {R S : Type} (name : R → S) (rule : Rule R) : Rule S :=
  ⟨rule.name, rule.appliesSkip, rule.kind.map name⟩

/-! ## Linked rules -/

namespace RuleKind

variable {R S ε : Type}

/-- Kinds that differ in their references only, and in these as given. -/
inductive Relates (related : R → S → Prop) : RuleKind R → RuleKind S → Prop where
  | literal {text : String} : Relates related (.literal text) (.literal text)
  | pattern {source : Pattern} : Relates related (.pattern source) (.pattern source)
  | sequence {items : List R} {items' : List S} {shape : Shape} :
      List.Forall₂ related items items' →
      Relates related (.sequence items shape) (.sequence items' shape)
  | choice {options : List R} {options' : List S} :
      List.Forall₂ related options options' →
      Relates related (.choice options) (.choice options')
  | optional {inner : R} {inner' : S} :
      related inner inner' → Relates related (.optional inner) (.optional inner')
  | repetition {rep : Repetition R} {element : S} {separator : Option S} :
      related rep.element element → Option.Rel related rep.separator separator →
      Relates related (.repetition rep)
        (.repetition { rep with element := element, separator := separator })

theorem Relates.mono {related related' : R → S → Prop}
    (implied : ∀ name id, related name id → related' name id) {kind : RuleKind R}
    {linked : RuleKind S} (relates : Relates related kind linked) :
    Relates related' kind linked := by
  cases relates with
  | literal => exact .literal
  | pattern => exact .pattern
  | sequence items => exact .sequence (items.imp implied)
  | choice options => exact .choice (options.imp implied)
  | optional inner => exact .optional (implied _ _ inner)
  | @repetition rep separator _ element between =>
      refine .repetition (implied _ _ element) ?_
      generalize rep.separator = names at between ⊢
      cases between with
      | none => exact .none
      | some here => exact .some (implied _ _ here)

/-- Every kind of rule has its own references. -/
theorem relates_self (kind : RuleKind R) : Relates Eq kind kind := by
  cases kind with
  | literal text => exact .literal
  | pattern source => exact .pattern
  | sequence items shape => exact .sequence (List.forall₂_same.mpr fun _ _ => rfl)
  | choice options => exact .choice (List.forall₂_same.mpr fun _ _ => rfl)
  | optional inner => exact .optional rfl
  | repetition rep =>
      have separator : Option.Rel Eq rep.separator rep.separator := by
        cases rep.separator with
        | none => exact .none
        | some between => exact .some rfl
      exact .repetition rfl separator

/-- References are related one for one. -/
theorem Relates.dependencies {related : R → S → Prop} {kind : RuleKind R} {linked : RuleKind S}
    (relates : Relates related kind linked) :
    List.Forall₂ related kind.dependencies linked.dependencies := by
  cases relates with
  | literal => exact .nil
  | pattern => exact .nil
  | sequence items => exact items
  | choice options => exact options
  | optional inner => exact .cons inner .nil
  | @repetition rep _ _ element between =>
      refine .cons element ?_
      simp only
      generalize rep.separator = names at between ⊢
      cases between with
      | none => exact .nil
      | some here => exact .cons here .nil

/-- Renaming takes one linked form to another if it takes every reference of the one to that of the
other. -/
theorem Relates.map_eq {T : Type} {related : R → S → Prop} {related' : R → T → Prop} {name : S → T}
    (agree : ∀ reference left right, related reference left → related' reference right →
      name left = right)
    {kind : RuleKind R} {linked : RuleKind S} {linked' : RuleKind T}
    (relates : Relates related kind linked) (relates' : Relates related' kind linked') :
    linked.map name = linked' := by
  cases relates with
  | literal =>
      cases relates'
      rfl
  | pattern =>
      cases relates'
      rfl
  | sequence items =>
      cases relates' with
      | sequence items' => rw [map, map_eq_of_forall₂ agree items items']
  | choice options =>
      cases relates' with
      | choice options' => rw [map, map_eq_of_forall₂ agree options options']
  | optional inner =>
      cases relates' with
      | optional inner' => rw [map, agree _ _ _ inner inner']
  | @repetition rep element separator here between =>
      cases relates' with
      | @repetition _ element' separator' here' between' =>
          have separators : separator.map name = separator' := by
            generalize rep.separator = reference at between between'
            cases between with
            | none =>
                cases between'
                rfl
            | some first =>
                cases between' with
                | some second => rw [Option.map_some, agree _ _ _ first second]
          simp only [map, Repetition.map, agree _ _ _ here here', separators]

theorem mapM_option_eq_ok_iff {step : R → Except ε S} {reference : Option R}
    {resolved : Option S} :
    reference.mapM step = .ok resolved ↔
      Option.Rel (fun name id => step name = .ok id) reference resolved := by
  cases reference with
  | none => cases resolved <;> simp [pure, Except.pure]
  | some name =>
      rw [Option.mapM_some]
      cases found : step name with
      | error fault => cases resolved <;> simp [Functor.map, Except.map, found]
      | ok id => cases resolved <;> simp [Functor.map, Except.map, found]

/-- References are resolved where they stand, and all else is kept. -/
theorem relates_of_resolve {step : R → Except ε S} {kind : RuleKind R} {linked : RuleKind S}
    (resolved : kind.resolve step = .ok linked) :
    Relates (fun name id => step name = .ok id) kind linked := by
  cases kind with
  | literal text => cases resolved; exact .literal
  | pattern source => cases resolved; exact .pattern
  | sequence items shape =>
      obtain ⟨ids, found, rfl⟩ := map_eq_ok_iff.mp resolved
      exact .sequence (mapM_eq_ok_iff.mp found)
  | choice options =>
      obtain ⟨ids, found, rfl⟩ := map_eq_ok_iff.mp resolved
      exact .choice (mapM_eq_ok_iff.mp found)
  | optional inner =>
      obtain ⟨id, found, rfl⟩ := map_eq_ok_iff.mp resolved
      exact .optional found
  | repetition rep =>
      simp only [resolve] at resolved
      split at resolved
      next => cases resolved
      next element found =>
        obtain ⟨separator, between, rfl⟩ := map_eq_ok_iff.mp resolved
        exact .repetition found (mapM_option_eq_ok_iff.mp between)

end RuleKind

/-- A linked rule is a definition without a fault, its names replaced by what they refer to. -/
theorem RuleDef.link_eq_ok {find : String → Option RuleId} {rule : RuleDef} {linked : LinkedRule}
    (links : rule.link find = .ok linked) :
    rule.fault? = none ∧ linked.name = rule.name ∧ linked.appliesSkip = rule.appliesSkip ∧
      rule.kind.Relates (fun name id => find name = some id) linked.kind := by
  unfold RuleDef.link at links
  split at links
  next => cases links
  next sound =>
    obtain ⟨kind, resolved, rfl⟩ := map_eq_ok_iff.mp links
    refine ⟨sound, rfl, rfl, (RuleKind.relates_of_resolve resolved).mono ?_⟩
    intro name id found
    split at found
    next known =>
      cases found
      exact known
    next => cases found

/-! ## Well-formedness -/

/-- A rule that refers to rules of a registry of some size, and whose settings fit each other. -/
structure Rule.Fits (size : Nat) (rule : LinkedRule) : Prop where
  references : ∀ id ∈ rule.kind.dependencies, id.index < size
  indices : ∀ items shape, rule.kind = .sequence items shape →
    ∀ index ∈ shape.indices, index < items.length
  bounds : ∀ repetition max, rule.kind = .repetition repetition → repetition.max = some max →
    repetition.min ≤ max

/-- A registry that has all rules it refers to. -/
structure Registry.WellFormed (registry : Registry) : Prop where
  rules : ∀ rule ∈ registry.rules, rule.Fits registry.rules.length
  skip : registry.skip.index < registry.rules.length

theorem Registry.WellFormed.fits {registry : Registry} {id : RuleId} {rule : LinkedRule}
    (wellFormed : registry.WellFormed) (known : registry.rule? id = some rule) :
    rule.Fits registry.rules.length :=
  wellFormed.rules rule (List.mem_of_getElem? known)

theorem RuleDef.fits_of_link {find : String → Option RuleId} {rule : RuleDef}
    {linked : LinkedRule} {size : Nat}
    (known : ∀ name id, find name = some id → id.index < size)
    (links : rule.link find = .ok linked) : linked.Fits size := by
  obtain ⟨sound, _, _, relates⟩ := RuleDef.link_eq_ok links
  unfold RuleDef.fault? at sound
  refine ⟨?_, ?_, ?_⟩
  · intro id member
    obtain ⟨name, _, found⟩ := exists_related_of_mem relates.dependencies member
    exact known name id found
  · intro items shape same index member
    rw [same] at relates
    generalize rule.kind = kind at sound relates
    cases relates with
    | sequence resolved =>
        simp only [Option.map_eq_none_iff, List.find?_eq_none, decide_eq_true_eq] at sound
        rw [← resolved.length_eq]
        exact Nat.lt_of_not_le (sound index member)
  · intro repetition max same bounded
    rw [same] at relates
    generalize rule.kind = kind at sound relates
    cases relates with
    | repetition _ _ =>
        simp only at bounded sound
        rw [bounded] at sound
        simpa using sound

/-! ## Small grammars -/

/-- Marked words with commas between them, the marks left out and the commas kept. -/
def markedWords : List RuleDef :=
  [RuleDef.ofKind "main" (.repetition
      { element := "entry", separator := some "comma", retainSeparators := true }),
    RuleDef.ofKind "entry" (.sequence ["word", "mark"] (.one 0)),
    RuleDef.ofKind "word" (.literal "é"),
    RuleDef.ofKind "mark" (.literal "!"),
    RuleDef.ofKind "comma" (.literal ","),
    RuleDef.ofKind "skip" (.literal " ") (some false)]

/-- The linked form of `markedWords`, behind the base types. -/
def linkedMarkedWords : List LinkedRule :=
  [⟨"main", false, .repetition
      { element := ⟨9⟩, separator := some ⟨12⟩, retainSeparators := true }⟩,
    ⟨"entry", false, .sequence [⟨10⟩, ⟨11⟩] (.one 0)⟩,
    ⟨"word", true, .literal "é"⟩,
    ⟨"mark", true, .literal "!"⟩,
    ⟨"comma", true, .literal ","⟩,
    ⟨"skip", false, .literal " "⟩]

theorem ofRules_markedWords :
    ∃ baseTypes index, baseTypes.length = 8 ∧
      Registry.ofRules markedWords = .ok ⟨baseTypes ++ linkedMarkedWords, index, ⟨13⟩, ⟨8⟩⟩ := by
  obtain ⟨⟨rules, index, skip, entry⟩, built, size, declared, rfl, rfl⟩ : ∃ registry,
      Registry.ofRules markedWords = .ok registry ∧ registry.rules.length = 14 ∧
        registry.rules.drop 8 = linkedMarkedWords ∧ registry.skip = ⟨13⟩ ∧ registry.entry = ⟨8⟩ :=
    exists_ok_of_any (by decide +kernel)
  refine ⟨rules.take 8, index, by simp [size], ?_⟩
  rw [built, ← declared, List.take_append_drop]

/-- Words that may be missing, to be repeated by a rule before them. -/
def optionalWords : List RuleDef :=
  [RuleDef.ofKind "maybe" (.optional "word"),
    RuleDef.ofKind "word" (.literal "é"),
    RuleDef.ofKind "skip" (.literal " ") (some false)]

end RuleGrammar
