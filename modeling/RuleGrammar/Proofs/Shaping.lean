import RuleGrammar.Proofs.Typing

/-!
Owns the meaning of sequences: which reads of its items a sequence makes, and what it keeps of them.

Contract: a sequence reads its items in a chain, each from where the one before ended. It succeeds when
the whole chain does (`ItemsRead`), and otherwise fails where it began (`ItemsFail`). Its shape then
decides what is given of the chain (`Shape.Presents`). A shape whose indices address items of the sequence
drops none of the items that it asks for, and never fails by itself.
-/

namespace RuleGrammar

/-! ## Chains of items -/

/-- Some item fails, those before it being read with success one after the other. -/
inductive ItemsFail (read : Read) : List RuleId → Nat → Prop where
  | here {item : RuleId} {items : List RuleId} {position : Nat} {m : Match RuleId} :
      read item position = some m → m.success = false → ItemsFail read (item :: items) position
  | later {item : RuleId} {items : List RuleId} {position : Nat} {m : Match RuleId} :
      read item position = some m → m.success = true → ItemsFail read items m.stop →
      ItemsFail read (item :: items) position

section

variable {read : Read} {items : List RuleId} {start stop : Nat} {children : List (Match RuleId)}

/-- The items are read to the end exactly when all of them succeed in a chain. -/
theorem readItems_eq_some_iff :
    readItems read items start = some (some (children, stop)) ↔
      ItemsRead read items start children stop := by
  constructor
  · exact readItems_itemsRead
  · intro reads
    induction reads with
    | nil => rfl
    | cons here success _ inductionHypothesis =>
        rw [readItems_cons_eq, here, Option.bind_some, if_pos success, inductionHypothesis]
        rfl

theorem readItems_eq_none_iff :
    readItems read items start = some none ↔ ItemsFail read items start := by
  constructor
  · intro found
    induction items generalizing start with
    | nil => cases found
    | cons item items inductionHypothesis =>
        rw [readItems_cons_eq, Option.bind_eq_some_iff] at found
        obtain ⟨m, here, found⟩ := found
        by_cases success : m.success = true
        · rw [if_pos success, Option.map_eq_some_iff] at found
          obtain ⟨outcome, rest, missed⟩ := found
          rw [Option.map_eq_none_iff] at missed
          exact .later here success (inductionHypothesis (missed ▸ rest))
        · exact .here here (Bool.eq_false_iff.mpr success)
  · intro fails
    induction fails with
    | here here failure =>
        rw [readItems_cons_eq, here, Option.bind_some, if_neg (Bool.eq_false_iff.mp failure)]
    | later here success _ inductionHypothesis =>
        rw [readItems_cons_eq, here, Option.bind_some, if_pos success, inductionHypothesis]
        rfl

end

/-! ## What shapes present -/

/-- What a shape gives of the children of a sequence: all of them; one, which keeps its rule, its start
and its payload and ends where the sequence ends; those addressed, in the order of the indices; or an
object, in which a field holds the child that was bound to it last. -/
def Shape.Presents (id : RuleId) (span : Span) (children : List (Match RuleId)) (m : Match RuleId) :
    Shape → Prop
  | .all => m = .succeed id span (.list children)
  | .one index => ∃ child, children[index]? = some child ∧
      m = { child with span := { child.span with stop := span.stop } }
  | .selection indices => ∃ picked, indices.map (children[·]?) = picked.map some ∧
      m = .succeed id span (.list picked)
  | .object fields => ∃ held, Fields.Ascending held ∧
      (∀ name, name ∈ held.map Prod.fst ↔ name ∈ fields.map Prod.snd) ∧
      (∀ before index name after, fields = before ++ (index, name) :: after →
        name ∉ after.map Prod.snd →
          ∃ child, children[index]? = some child ∧ held.lookup name = some child) ∧
      m = .succeed id span (.object held)

/-- What reading a sequence from its own start gives. -/
structure Shape.Gives (shape : Shape) (read : Read) (id : RuleId) (items : List RuleId)
    (start : Nat) : Prop where
  succeeds : (∃ m, readSequence read id items shape start = some m ∧ m.success = true) ↔
    ∃ children stop, ItemsRead read items start children stop
  fails : readSequence read id items shape start = some (.fail id start) ↔
    ItemsFail read items start
  /-- There is no other failure. -/
  failure : ∀ m, readSequence read id items shape start = some m → m.success = false →
    m = .fail id start
  /-- No index is without a child. -/
  addresses : ∀ children stop, ItemsRead read items start children stop →
    children.length = items.length ∧
      ∀ index ∈ shape.indices, ∃ child, children[index]? = some child
  presents : ∀ children stop, ItemsRead read items start children stop →
    ∃ m, readSequence read id items shape start = some m ∧
      shape.Presents id ⟨start, stop⟩ children m
  /-- Fields with distinct names may be listed in any order. -/
  unordered : ∀ fields fields', shape = .object fields → fields.Perm fields' →
    (fields.map Prod.snd).Nodup →
      readSequence read id items (.object fields') start =
        readSequence read id items shape start

namespace Shape

variable {shape : Shape} {id : RuleId} {span : Span} {children : List (Match RuleId)}

theorem build_presents (inRange : ∀ index ∈ shape.indices, index < children.length)
    (success : ∀ child ∈ children, child.success = true) :
    shape.Presents id span children (shape.build id span children) := by
  cases shape with
  | all => exact rfl
  | one index =>
      have addressed := List.getElem?_eq_getElem (inRange index List.mem_cons_self)
      refine ⟨_, addressed, ?_⟩
      simp only [build, addressed, Match.copyWith]
      rw [success _ (List.getElem_mem _)]
      rfl
  | selection indices => exact ⟨_, map_getElem?_eq inRange, rfl⟩
  | object fields =>
      refine ⟨_, Fields.ascending_ofBindings _, ?_, ?_, rfl⟩
      · intro name
        exact mem_names_object inRange
      · intro before index name after split last
        have inRange' : index < children.length := inRange index (by simp [indices, split])
        have addressed := List.getElem?_eq_getElem inRange'
        have later : name ∉ (bindings children after).map Prod.fst := by
          rw [map_fst_bindings fun other member => inRange other (by simp_all [indices])]
          exact last
        refine ⟨_, addressed, ?_⟩
        show (Fields.ofBindings (bindings children fields)).lookup name = _
        rw [split, bindings_append, bindings_cons inRange']
        exact Fields.lookup_ofBindings_last later

/-- An object is the same for its fields in another order, if their names are distinct. -/
theorem build_object_perm {fields fields' : List (Nat × String)}
    (inRange : ∀ index ∈ fields.map Prod.fst, index < children.length)
    (perm : fields.Perm fields') (distinct : (fields.map Prod.snd).Nodup) :
    (object fields').build id span children = (object fields).build id span children := by
  have same : Fields.ofBindings (bindings children fields) =
      Fields.ofBindings (bindings children fields') := by
    apply Fields.ofBindings_perm (perm.filterMap _)
    show ((bindings children fields).map Prod.fst).Nodup
    rw [map_fst_bindings inRange]
    exact distinct
  show Match.succeed id span (.object (Fields.ofBindings (bindings children fields'))) = _
  rw [← same]
  rfl

end Shape

/-! ## What sequences give -/

theorem ItemsRead.success {read : Read} {items : List RuleId} {start stop : Nat}
    {children : List (Match RuleId)} (reads : ItemsRead read items start children stop) :
    ∀ child ∈ children, child.success = true := by
  intro child member
  obtain ⟨_, success, _⟩ := reads.chained.possible_of_mem member
  exact success

/-- A sequence whose shape addresses its items gives what the chain of its items says. -/
theorem Shape.gives {shape : Shape} {items : List RuleId}
    (valid : ∀ index ∈ shape.indices, index < items.length) (read : Read) (id : RuleId)
    (start : Nat) : shape.Gives read id items start := by
  have inRange : ∀ {children stop}, ItemsRead read items start children stop →
      ∀ index ∈ shape.indices, index < children.length := by
    intro children stop reads index member
    rw [reads.length_eq]
    exact valid index member
  have built : ∀ {children stop}, ItemsRead read items start children stop →
      readSequence read id items shape start = some (shape.build id ⟨start, stop⟩ children) := by
    intro children stop reads
    rw [readSequence_eq, readItems_eq_some_iff.mpr reads]
    rfl
  have broken : ItemsFail read items start →
      readSequence read id items shape start = some (.fail id start) := by
    intro fails
    rw [readSequence_eq, readItems_eq_none_iff.mpr fails]
    rfl
  -- A chain of items is read to its end or breaks off; there is no third way to come out.
  have outcomes : ∀ {m}, readSequence read id items shape start = some m →
      (m.success = true ∧ ∃ children stop, ItemsRead read items start children stop) ∨
        (m = .fail id start ∧ ItemsFail read items start) := by
    intro m found
    rw [readSequence_eq, Option.map_eq_some_iff] at found
    obtain ⟨outcome, chain, rfl⟩ := found
    cases outcome with
    | none => exact .inr ⟨rfl, readItems_eq_none_iff.mp chain⟩
    | some outcome =>
        have reads := readItems_eq_some_iff.mp chain
        exact .inl ⟨build_success (inRange reads), _, _, reads⟩
  refine ⟨⟨?_, ?_⟩, ⟨?_, broken⟩, ?_, ?_, ?_, ?_⟩
  · rintro ⟨m, found, success⟩
    rcases outcomes found with ⟨_, chain⟩ | ⟨rfl, _⟩
    · exact chain
    · cases success
  · rintro ⟨children, stop, reads⟩
    exact ⟨_, built reads, build_success (inRange reads)⟩
  · intro found
    rcases outcomes found with ⟨success, _⟩ | ⟨_, fails⟩
    · cases success
    · exact fails
  · intro m found failure
    rcases outcomes found with ⟨success, _⟩ | ⟨missed, _⟩
    · rw [success] at failure
      cases failure
    · exact missed
  · intro children stop reads
    refine ⟨reads.length_eq, fun index member => ?_⟩
    exact ⟨_, List.getElem?_eq_getElem (inRange reads index member)⟩
  · intro children stop reads
    exact ⟨_, built reads, build_presents (inRange reads) reads.success⟩
  · rintro fields fields' rfl perm distinct
    rw [readSequence_eq, readSequence_eq]
    cases chain : readItems read items start with
    | none => rfl
    | some outcome =>
        cases outcome with
        | none => rfl
        | some found =>
            have reads := readItems_eq_some_iff.mp chain
            exact congrArg some (build_object_perm (inRange reads) perm distinct)

namespace Registry

variable {rules : List RuleDef} {registry : Registry} {id : RuleId} {rule : LinkedRule}
  {items : List RuleId} {shape : Shape}

/-- A linked sequence addresses items that it has. Read from its own start on, which lies behind skippable
text if it applies skip, it gives what the chain of its items from there on says, as its shape presents
it. -/
theorem readRule_sequence (built : ofRules rules = .ok registry)
    (known : registry.rule? id = some rule) (sequence : rule.kind = .sequence items shape)
    (input : String) :
    (∀ start m, registry.readRule input start id = some m ↔
      ∃ position, registry.BeginsAt input start id position ∧
        readSequence (registry.reader input) id items shape position = some m) ∧
    (∀ index ∈ shape.indices, index < items.length) ∧
    ∀ start, shape.Gives (registry.reader input) id items start := by
  have valid := ((wellFormed_of_ofRules built).fits known).indices items shape sequence
  refine ⟨fun start m => ?_, valid, Shape.gives valid _ id⟩
  rw [readRule_iff]
  constructor
  · rintro ⟨rule', position, known', begins, body⟩
    rw [known, Option.some.injEq] at known'
    subst known'
    rw [sequence] at body
    exact ⟨position, ⟨rule, known, startOf_eq_some_iff.mp begins⟩, body⟩
  · rintro ⟨position, ⟨rule', known', begins⟩, body⟩
    rw [known, Option.some.injEq] at known'
    subst known'
    refine ⟨rule, position, known, startOf_eq_some_iff.mpr begins, ?_⟩
    rw [sequence]
    exact body

/-- Two words with a mark between them, both words under the same field name. -/
def fieldedWords : List RuleDef :=
  [RuleDef.ofKind "main"
      (.sequence ["word", "mark", "word"] (.object [(0, "word"), (1, "mark"), (2, "word")])),
    RuleDef.ofKind "word" (.literal "é"),
    RuleDef.ofKind "mark" (.literal "!"),
    RuleDef.ofKind "skip" (.literal " ") (some false)]

/-- The field holds the second word, and a text without one is refused where it begins. -/
theorem readRule_sequence_fieldedWords :
    ∃ registry m, ofRules fieldedWords = .ok registry ∧
      registry.readRule "é! é" 0 ⟨8⟩ = some m ∧ m.span = ⟨0, 6⟩ ∧
      (m.field? "word").map Match.span = some ⟨4, 6⟩ ∧
      registry.readRule "é! e" 0 ⟨8⟩ = some (.fail ⟨8⟩ 0) ∧
      ItemsFail (registry.reader "é! e") [⟨9⟩, ⟨10⟩, ⟨9⟩] 0 := by
  obtain ⟨registry, built, known, read, failed⟩ : ∃ registry, ofRules fieldedWords = .ok registry ∧
      registry.rule? ⟨8⟩ = some ⟨"main", false, .sequence [⟨9⟩, ⟨10⟩, ⟨9⟩]
        (.object [(0, "word"), (1, "mark"), (2, "word")])⟩ ∧
      (registry.readRule "é! é" 0 ⟨8⟩).map
        (fun m => (m.span, (m.field? "word").map Match.span)) = some (⟨0, 6⟩, some ⟨4, 6⟩) ∧
      (registry.readRule "é! e" 0 ⟨8⟩).map Match.success = some false :=
    exists_ok_of_any (by decide +kernel)
  obtain ⟨m, found, shown⟩ := Option.map_eq_some_iff.mp read
  rw [Prod.mk.injEq] at shown
  obtain ⟨missed, found', failure⟩ := Option.map_eq_some_iff.mp failed
  obtain ⟨reads, _, gives⟩ := readRule_sequence built known rfl "é! e"
  obtain ⟨position, ⟨rule, known', begins⟩, here⟩ := (reads 0 missed).mp found'
  rw [known, Option.some.injEq] at known'
  subst known'
  rw [if_neg (by simp)] at begins
  subst begins
  have nothing := (gives 0).failure missed here failure
  rw [nothing] at here found'
  exact ⟨registry, m, built, found, shown.1, shown.2, found', (gives 0).fails.mp here⟩

end Registry

end RuleGrammar
