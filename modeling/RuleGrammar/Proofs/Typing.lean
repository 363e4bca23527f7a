import RuleGrammar.Proofs.Registration
import RuleGrammar.Proofs.Reading.Depth
import RuleGrammar.Proofs.Tree

/-!
Owns the typing of match trees: which payloads a match of a rule can carry.

Choices pass on the match of an option, and so do options, collapsed repetitions and sequences
reduced to one item. The rule that a node names is therefore not always the rule that was read; but
it is always the rule that made the payload, and typing goes by it.
-/

namespace RuleGrammar

/-! ## Values -/

/-- The kind of text that a value stands for. -/
def Value.kind : Value → ValueKind
  | .bool _ => .bool
  | .int _ => .int
  | .float _ => .float
  | .text _ => .text

theorem ValueKind.kind_of_convert {kind : ValueKind} {text : List Char} {value : Value}
    (converted : kind.convert text = some value) : value.kind = kind := by
  cases kind with
  | text | bool =>
      cases converted
      rfl
  | int | float =>
      obtain ⟨number, _, rfl⟩ := Option.map_eq_some_iff.mp converted
      rfl

theorem Pattern.kind_of_read? {pattern : Pattern} {text : List Char} {value : Value}
    {length : Nat} (read : pattern.read? text = some (value, length)) :
    value.kind = pattern.value := by
  simp only [Pattern.read?, Option.bind_eq_bind, Option.bind_eq_some_iff] at read
  obtain ⟨found, _, value', converted, same⟩ := read
  simp only [Option.some.injEq, Prod.mk.injEq] at same
  obtain ⟨rfl, _⟩ := same
  exact ValueKind.kind_of_convert converted

/-! ## Types of nodes -/

/-- The payloads that a successful match of a rule of this kind can carry. -/
def RuleKind.Carries : RuleKind RuleId → Payload (Match RuleId) → Prop
  | .literal text, payload => payload = .scalar (.text text)
  | .pattern source, payload => ∃ value, value.kind = source.value ∧ payload = .scalar value
  | .sequence items .all, payload =>
      ∃ children, children.length = items.length ∧ payload = .list children
  | .sequence _ (.one _), _ => False
  | .sequence _ (.selection indices), payload =>
      ∃ children, children.length = indices.length ∧ payload = .list children
  | .sequence _ (.object fields), payload =>
      ∃ held, (∀ name, name ∈ held.map Prod.fst ↔ name ∈ fields.map Prod.snd) ∧
        payload = .object held
  | .choice _, _ => False
  | .optional _, payload => payload = .absent
  | .repetition _, payload =>
      payload = .absent ∨ ∃ children, children ≠ [] ∧ payload = .list children

/-- A success that names a rule of the registry and carries what that rule can carry. -/
structure Match.Typed (registry : Registry) (node : Match RuleId) : Prop where
  success : node.success = true
  within : node.rule.index < registry.rules.length
  carries : ∃ rule, registry.rule? node.rule = some rule ∧ rule.kind.Carries node.payload

section

variable {registry : Registry} {id : RuleId} {rule : LinkedRule}

/-- A node of a rule over typed nodes is typed by what the rule carries. -/
theorem everywhere_typed_succeed {span : Span} {payload : Payload (Match RuleId)}
    (known : registry.rule? id = some rule) (carries : rule.kind.Carries payload)
    (inside : ∀ child ∈ (Match.succeed id span payload).children,
      child.Everywhere (Match.Typed registry)) :
    (Match.succeed id span payload).Everywhere (Match.Typed registry) :=
  .node ⟨rfl, (List.getElem?_eq_some_iff.mp known).1, rule, known, carries⟩ inside

/-- The span is no part of the type. -/
theorem everywhere_typed_copyWith {m : Match RuleId} {span : Span}
    (typed : m.Everywhere (Match.Typed registry)) :
    (m.copyWith span true).Everywhere (Match.Typed registry) :=
  typed.copyWith ⟨rfl, typed.root.within, typed.root.carries⟩

/-! ## Shaped sequences -/

namespace Shape

variable {items : List RuleId} {shape : Shape} {span : Span} {children : List (Match RuleId)}

/-- With all its indices in range, a selection takes an item for every index. -/
theorem map_getElem?_eq {indices : List Nat} (inRange : ∀ index ∈ indices, index < children.length) :
    indices.map (children[·]?) = (indices.filterMap (children[·]?)).map some := by
  induction indices with
  | nil => rfl
  | cons index indices inductionHypothesis =>
      obtain ⟨here, others⟩ := List.forall_mem_cons.mp inRange
      rw [List.map_cons, inductionHypothesis others, List.getElem?_eq_getElem here,
        List.filterMap_cons_some (List.getElem?_eq_getElem here)]
      rfl

/-- What the fields of an object are bound to, one after the other. -/
def bindings (children : List (Match RuleId)) (fields : List (Nat × String)) :
    List (String × Match RuleId) :=
  fields.filterMap fun (index, name) => children[index]?.map (name, ·)

theorem bindings_append (fields fields' : List (Nat × String)) :
    bindings children (fields ++ fields') = bindings children fields ++ bindings children fields' :=
  List.filterMap_append

theorem bindings_cons {index : Nat} {name : String} {fields : List (Nat × String)}
    (inRange : index < children.length) :
    bindings children ((index, name) :: fields) =
      (name, children[index]) :: bindings children fields := by
  apply List.filterMap_cons_some
  show children[index]?.map (name, ·) = _
  rw [List.getElem?_eq_getElem inRange, Option.map_some]

/-- With all its indices in range, an object binds all its field names, in their order. -/
theorem map_fst_bindings {fields : List (Nat × String)}
    (inRange : ∀ index ∈ fields.map Prod.fst, index < children.length) :
    (bindings children fields).map Prod.fst = fields.map Prod.snd := by
  induction fields with
  | nil => rfl
  | cons field fields inductionHypothesis =>
      obtain ⟨here, others⟩ := List.forall_mem_cons.mp inRange
      rw [bindings_cons here, List.map_cons, List.map_cons, inductionHypothesis others]

theorem mem_names_object {fields : List (Nat × String)} {name : String}
    (inRange : ∀ index ∈ fields.map Prod.fst, index < children.length) :
    name ∈ (Fields.ofBindings (bindings children fields)).map Prod.fst ↔
      name ∈ fields.map Prod.snd := by
  rw [Fields.mem_names_ofBindings, map_fst_bindings inRange]

theorem build_typed (known : registry.rule? id = some rule)
    (sequence : rule.kind = .sequence items shape) (length : children.length = items.length)
    (inRange : ∀ index ∈ shape.indices, index < children.length)
    (inside : ∀ child ∈ children, child.Everywhere (Match.Typed registry)) :
    (shape.build id span children).Everywhere (Match.Typed registry) := by
  rcases shape.build_spec id span children with
    ⟨payload, built, drawn, own, _⟩ | ⟨child, member, built⟩ | ⟨_, index, member, outside⟩
  · rw [built]
    refine everywhere_typed_succeed known ?_ fun child member => inside child (drawn child member)
    rw [sequence]
    cases shape with
    | all =>
        cases built
        exact ⟨_, length, rfl⟩
    | one index => exact absurd rfl (own index)
    | selection indices =>
        cases built
        have picked := congrArg List.length (map_getElem?_eq inRange)
        rw [List.length_map, List.length_map] at picked
        exact ⟨_, picked.symm, rfl⟩
    | object fields =>
        cases built
        exact ⟨_, fun _ => mem_names_object inRange, rfl⟩
  · rw [built]
    exact everywhere_typed_copyWith (inside child member)
  · exact absurd (inRange index member) (Nat.not_lt.mpr outside)

end Shape

/-! ## Successful reads -/

section

variable {read : Read} {text : List Char} {start : Nat} {m : Match RuleId}

theorem StepReads.typed {repetition : Repetition RuleId}
    (sound : ∀ id start m, read id start = some m → m.success = true →
      m.Everywhere (Match.Typed registry))
    (known : registry.rule? id = some rule) (repeats : rule.kind = .repetition repetition)
    (step : StepReads read repetition id start m) : m.Everywhere (Match.Typed registry) := by
  cases step with
  | element _ here success => exact sound _ _ _ here success
  | @separated separator m element _ here success next success' =>
      have first := sound _ _ _ here success
      have second := sound _ _ _ next success'
      unfold Repetition.item
      split
      · refine everywhere_typed_succeed known ?_ ?_
        · rw [repeats]
          exact .inr ⟨_, List.cons_ne_nil _ _, rfl⟩
        · intro child member
          simp only [Match.children_list, List.mem_cons, List.not_mem_nil, or_false] at member
          rcases member with rfl | rfl
          · exact first
          · exact second
      · exact second

/-- A match that succeeds is typed if the successes are that it was made of. -/
theorem RuleKind.Reads.typed {size : Nat}
    (sound : ∀ id start m, read id start = some m → m.success = true →
      m.Everywhere (Match.Typed registry))
    (known : registry.rule? id = some rule) (fits : rule.Fits size)
    (reads : rule.kind.Reads read text id start m) (success : m.success = true) :
    m.Everywhere (Match.Typed registry) := by
  generalize same : rule.kind = kind at reads
  cases reads with
  | literal _ => exact everywhere_typed_succeed known (same ▸ rfl) (by simp)
  | pattern _ pieces =>
      exact everywhere_typed_succeed known (same ▸ ⟨_, Pattern.kind_of_read? pieces, rfl⟩) (by simp)
  | @sequence items shape children stop itemsRead =>
      refine Shape.build_typed known same itemsRead.length_eq ?_ ?_
      · rw [itemsRead.length_eq]
        exact fits.indices items shape same
      · intro child member
        obtain ⟨_, success, _, here⟩ := itemsRead.chained.possible_of_mem member
        exact sound _ _ _ here success
  | choice _ here _ => exact sound _ _ _ here success
  | optional here _ => exact sound _ _ _ here success
  | optionalMissed => exact everywhere_typed_succeed known (same ▸ rfl) (by simp)
  | repetition here began steps =>
      refine everywhere_typed_succeed known (same ▸ .inr ⟨_, List.cons_ne_nil _ _, rfl⟩) ?_
      intro child member
      rcases (chained_items here began steps).possible_of_mem member with
        ⟨_, ⟨element, success⟩ | step⟩
      · exact sound _ _ _ element success
      · exact step.typed sound known same
  | repetitionSingle here _ => exact sound _ _ _ here success
  | repetitionEmpty _ => exact everywhere_typed_succeed known (same ▸ .inl rfl) (by simp)
  | literalMissed | patternMissed | sequenceMissed | choiceMissed | repetitionMissed =>
      cases success

/-! ## Failed reads -/

/-- A match that fails is the rule's own failure: that of a part is never passed on, and no shape
fails on items that were read. -/
theorem RuleKind.Reads.eq_fail {size : Nat} (fits : rule.Fits size)
    (reads : rule.kind.Reads read text id start m) (failure : m.success = false) :
    m = .fail id start := by
  generalize same : rule.kind = kind at reads
  cases reads with
  | literalMissed | patternMissed | sequenceMissed | choiceMissed | repetitionMissed => rfl
  | literal _ | pattern _ _ | optionalMissed | repetition _ _ _ | repetitionEmpty _ => cases failure
  | choice _ _ success | optional _ success | repetitionSingle _ success =>
      rw [success] at failure
      cases failure
  | @sequence items shape children stop itemsRead =>
      have success : (shape.build id ⟨start, stop⟩ children).success = true := by
        refine Shape.build_success ?_
        rw [itemsRead.length_eq]
        exact fits.indices items shape same
      rw [success] at failure
      cases failure

end

end

/-! ## Whole reads -/

namespace Registry

variable {registry : Registry} {input : String} {id : RuleId} {start : Nat} {m : Match RuleId}

/-- Where a rule begins that is read at `start`: behind the skip rule read there if it applies skip
and is not the skip rule, and at `start` otherwise. -/
def BeginsAt (registry : Registry) (input : String) (start : Nat) (id : RuleId)
    (position : Nat) : Prop :=
  ∃ rule, registry.rule? id = some rule ∧
    if rule.appliesSkip = true ∧ id ≠ registry.skip then
      ∃ skipped, registry.readRule input start registry.skip = some skipped ∧
        skipped.stop = position
    else position = start

theorem readRule_everywhere_typed (wellFormed : registry.WellFormed)
    (found : registry.readRule input start id = some m) (success : m.success = true) :
    m.Everywhere (Match.Typed registry) := by
  revert success
  refine readRule_induction (motive := fun _ _ m => m.success = true →
    m.Everywhere (Match.Typed registry)) ?_ found
  intro read id rule start position m _ sound known _ reads success
  exact reads.typed sound known (wellFormed.fits known) success

theorem readRule_eq_fail (wellFormed : registry.WellFormed)
    (found : registry.readRule input start id = some m) (failure : m.success = false) :
    ∃ position, registry.BeginsAt input start id position ∧ m = .fail id position := by
  obtain ⟨rule, position, known, begins, body⟩ := readRule_iff.mp found
  have reads := readKind_reads (registry.reader_bounded input) body
  exact ⟨position, ⟨rule, known, startOf_eq_some_iff.mp begins⟩,
    reads.eq_fail (wellFormed.fits known) failure⟩

/-- A read succeeds with a tree that is typed at every node, or fails with nothing but the rule's own
failure where the rule begins. -/
theorem readRule_typed {rules : List RuleDef} (built : ofRules rules = .ok registry)
    (found : registry.readRule input start id = some m) :
    (m.success = true → m.Everywhere (Match.Typed registry)) ∧
    (m.success = false →
      ∃ position, registry.BeginsAt input start id position ∧ m = .fail id position) :=
  ⟨readRule_everywhere_typed (wellFormed_of_ofRules built) found,
    readRule_eq_fail (wellFormed_of_ofRules built) found⟩

/-- A list of words and pairs, and the failure of a mark that is looked for behind a blank. -/
theorem readRule_typed_markedWords :
    ∃ registry m missed, ofRules markedWords = .ok registry ∧
      registry.readRule " é !, é!" 0 ⟨8⟩ = some m ∧ m.success = true ∧ m.rule = ⟨8⟩ ∧
      m.Everywhere (Match.Typed registry) ∧
      registry.readRule " é !, é!" 0 ⟨11⟩ = some missed ∧ missed = .fail ⟨11⟩ 1 ∧
      registry.BeginsAt " é !, é!" 0 ⟨11⟩ 1 := by
  obtain ⟨baseTypes, index, size, built⟩ := ofRules_markedWords
  obtain ⟨m, found, success, names⟩ : ∃ m,
      (Registry.mk (baseTypes ++ linkedMarkedWords) index ⟨13⟩ ⟨8⟩).readRule " é !, é!" 0 ⟨8⟩ = some m ∧
        m.success = true ∧ m.rule = ⟨8⟩ := by
    match baseTypes, size with
    | [_, _, _, _, _, _, _, _], _ => exact ⟨_, rfl, rfl, rfl⟩
  obtain ⟨missed, failed, failure, stop⟩ : ∃ m,
      (Registry.mk (baseTypes ++ linkedMarkedWords) index ⟨13⟩ ⟨8⟩).readRule " é !, é!" 0 ⟨11⟩ =
        some m ∧ m.success = false ∧ m.stop = 1 := by
    match baseTypes, size with
    | [_, _, _, _, _, _, _, _], _ => exact ⟨_, rfl, rfl, rfl⟩
  obtain ⟨position, begins, rfl⟩ := (readRule_typed built failed).2 failure
  obtain rfl : position = 1 := stop
  exact ⟨_, m, _, built, found, success, names, (readRule_typed built found).1 success, failed, rfl,
    begins⟩

end Registry

end RuleGrammar
