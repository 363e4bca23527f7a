import RuleGrammar.Proofs.Regex.Anchoring
import RuleGrammar.Proofs.Registration
import RuleGrammar.Proofs.Spans

/-!
Owns which text the value of a scalar node comes from.

Contract: a leaf takes a beginning of the text from its start on, and its value is what that beginning
stands for (`RuleKind.Takes`). In a tree a scalar node covers what its leaf took, and more only if it is
the item that a sequence gives for itself (`Registry.Stretches`).
-/

namespace RuleGrammar

/-! ## Leaves -/

/-- A leaf in front of a text takes a beginning of it for a value: a literal takes itself, and a pattern
what its first match covers, which begins where the text begins. -/
def RuleKind.Takes {R : Type} (text matched : List Char) (value : Value) : RuleKind R → Prop
  | .literal expected => matched = expected.toList ∧ value = .text expected
  | .pattern compiled =>
      compiled.regex.search text = some ⟨[], matched⟩ ∧ compiled.value.convert matched = some value
  | _ => False

/-- The pattern of a rule comes from compiling its source, by some table of properties. -/
def RuleKind.Compiled {R : Type} (kind : RuleKind R) : Prop :=
  ∀ pattern, kind = .pattern pattern →
    ∃ properties, Pattern.compile? properties pattern.source pattern.value = some pattern

namespace Text

theorem prefixAt_append_add (head tail : List Char) (more : Nat) :
    prefixAt (head ++ tail) (byteLength head + more) = (prefixAt tail more).map (head ++ ·) := by
  induction head with
  | nil =>
      rw [byteLength, Nat.zero_add]
      exact Option.map_id'.symm
  | cons c head inductionHypothesis =>
      rw [List.cons_append, byteLength, Nat.add_assoc, prefixAt_cons, inductionHypothesis,
        Option.map_map]
      rfl

/-- A text under a span begins with what stands at the start of the span, if the span is long enough. -/
theorem exists_append_of_slice {text matched rest : List Char} {span : Span}
    (found : suffixAt text span.start = some (matched ++ rest))
    (longer : span.start + byteLength matched ≤ span.stop)
    (covers : (slice text span).isSome) :
    ∃ more, slice text span = some (matched ++ more) ∧
      (span.stop = span.start + byteLength matched → more = []) := by
  obtain ⟨beyond, length⟩ := Nat.exists_eq_add_of_le longer
  have sliced : slice text span = (prefixAt rest beyond).map (matched ++ ·) := by
    have size : span.length = byteLength matched + beyond := by
      rw [Span.length, length]
      omega
    rw [slice, if_pos (by omega), found, size]
    exact prefixAt_append_add matched rest beyond
  rw [sliced, Option.isSome_map, Option.isSome_iff_exists] at covers
  obtain ⟨more, behind⟩ := covers
  refine ⟨more, by rw [sliced, behind, Option.map_some], fun ends => ?_⟩
  obtain rfl : beyond = 0 := by omega
  rw [prefixAt] at behind
  exact (Option.some.inj behind).symm

theorem slice_eq_some {text matched rest : List Char} {start : Nat}
    (found : suffixAt text start = some (matched ++ rest)) :
    slice text ⟨start, start + byteLength matched⟩ = some matched := by
  rw [slice, if_pos (Nat.le_add_right _ _), found, Span.length]
  show prefixAt (matched ++ rest) (start + byteLength matched - start) = _
  rw [Nat.add_sub_cancel_left, prefixAt_append]

end Text

/-- A compiled pattern that reads with success has matched where it is read, and its value is that of the
text under its span. -/
theorem exists_of_readPattern {properties : Regex.PropertyTable} {source : String} {kind : ValueKind}
    {pattern : Pattern} (compiled : Pattern.compile? properties source kind = some pattern) {id : RuleId}
    {text : List Char} {start : Nat} (success : (readPattern id pattern text start).success = true) :
    ∃ matched rest value, Text.suffixAt text start = some (matched ++ rest) ∧
      pattern.regex.search (matched ++ rest) = some ⟨[], matched⟩ ∧
      kind.convert matched = some value ∧
      readPattern id pattern text start =
        .succeed id ⟨start, start + Text.byteLength matched⟩ (.scalar value) ∧
      (readPattern id pattern text start).text text = matched := by
  cases found : (Text.suffixAt text start).bind pattern.read? with
  | none =>
      rw [readPattern, found] at success
      cases success
  | some taken =>
      obtain ⟨value, length⟩ := taken
      obtain ⟨tail, suffix, here⟩ := Option.bind_eq_some_iff.mp found
      obtain ⟨matched, rest, rfl, searched, converted, rfl⟩ :=
        Pattern.exists_append_of_read? compiled here
      have reads : readPattern id pattern text start =
          .succeed id ⟨start, start + Text.byteLength matched⟩ (.scalar value) := by
        rw [readPattern, found]
      refine ⟨matched, rest, value, suffix, searched, converted, reads, ?_⟩
      rw [reads, Match.text]
      show (Text.slice text ⟨start, start + Text.byteLength matched⟩).getD [] = matched
      rw [Text.slice_eq_some suffix, Option.getD_some]

theorem RuleKind.compiled_pattern {R : Type} {properties : Regex.PropertyTable} {source : String}
    {kind : ValueKind} {found : Pattern} (compiled : Pattern.compile? properties source kind = some found) :
    (RuleKind.pattern found : RuleKind R).Compiled := by
  rintro _ ⟨rfl⟩
  obtain ⟨alone, _, rfl⟩ := Pattern.eq_of_compile? compiled
  exact ⟨properties, compiled⟩

theorem RuleDef.compiled_of_pattern {properties : Regex.PropertyTable} {name source : String}
    {value : ValueKind} {skip : Option Bool} {rule : RuleDef}
    (defined : RuleDef.pattern name source value skip properties = .ok rule) : rule.kind.Compiled := by
  unfold RuleDef.pattern at defined
  split at defined
  next pattern compiled =>
    cases defined
    exact RuleKind.compiled_pattern compiled
  next => cases defined

theorem BaseType.compiled_of_definition {base : BaseType} {rule : RuleDef}
    (defined : base.definition = .ok rule) : rule.kind.Compiled := by
  cases base <;> simp only [definition] at defined
  case baseType | number =>
    cases defined
    intro pattern same
    cases same
  case bool | float | strictFloat | id | int | string => exact RuleDef.compiled_of_pattern defined

/-! ## Nodes -/

/-- No match of a chain ends behind the chain. -/
theorem Chained.stop_le {possible : Nat → Match RuleId → Prop} {start stop : Nat}
    {ms : List (Match RuleId)} (advances : ∀ position m, possible position m → position ≤ m.stop)
    (chain : Chained possible start ms stop) : start ≤ stop ∧ ∀ m ∈ ms, m.stop ≤ stop := by
  induction chain with
  | nil => exact ⟨Nat.le_refl _, nofun⟩
  | cons first _ inductionHypothesis =>
      obtain ⟨ordered, others⟩ := inductionHypothesis
      exact ⟨(advances _ _ first).trans ordered, List.forall_mem_cons.mpr ⟨ordered, others⟩⟩

namespace Registry

/-- The node is what a sequence gives that gives one of its items, up to its own end. -/
def Stretches (registry : Registry) (input : String) (node : Match RuleId) : Prop :=
  ∃ id rule items index start, registry.rule? id = some rule ∧
    rule.kind = .sequence items (.one index) ∧ registry.readRule input start id = some node

/-- If the node holds a value, a leaf has taken a beginning of the text under the node for it, and all of
that text unless the node is stretched. -/
def Attributes (registry : Registry) (input : String) (node : Match RuleId) : Prop :=
  ∀ value, node.payload = .scalar value → ∃ leaf text matched more,
    registry.rule? node.rule = some leaf ∧
    Text.suffixAt input.toList node.start = some text ∧ leaf.kind.Takes text matched value ∧
    Text.slice input.toList node.span = some (matched ++ more) ∧
    (more = [] ∨ registry.Stretches input node)

/-- The same by the length of the node alone, whether it lies between characters or not. -/
def Derives (registry : Registry) (input : String) (node : Match RuleId) : Prop :=
  ∀ value, node.payload = .scalar value → ∃ leaf matched rest,
    registry.rule? node.rule = some leaf ∧
    Text.suffixAt input.toList node.start = some (matched ++ rest) ∧
    leaf.kind.Takes (matched ++ rest) matched value ∧
    node.start + Text.byteLength matched ≤ node.stop ∧
    (node.stop = node.start + Text.byteLength matched ∨ registry.Stretches input node)

section

variable {registry : Registry} {input : String} {node m : Match RuleId} {id : RuleId} {start : Nat}

theorem derives_of_children (composed : ∀ value, node.payload ≠ .scalar value)
    (inside : ∀ child ∈ node.children, child.Everywhere (registry.Derives input)) :
    node.Everywhere (registry.Derives input) :=
  .node (fun value scalar => absurd scalar (composed value)) inside

theorem derives_fail (id : RuleId) (position : Nat) :
    (Match.fail id position).Everywhere (registry.Derives input) :=
  derives_of_children (fun _ => nofun) (by simp)

theorem derives_emptyAt (id : RuleId) (position : Nat) :
    (Match.emptyAt id position).Everywhere (registry.Derives input) :=
  derives_of_children (fun _ => nofun) (by simp)

/-- Taken from the front of the text at the start of a leaf, and no further. -/
theorem derives_leaf {leaf : LinkedRule} {matched rest : List Char} {value : Value}
    (known : registry.rule? id = some leaf)
    (found : Text.suffixAt input.toList start = some (matched ++ rest))
    (takes : leaf.kind.Takes (matched ++ rest) matched value) :
    (Match.succeed id ⟨start, start + Text.byteLength matched⟩ (.scalar value)).Everywhere
      (registry.Derives input) := by
  refine .node ?_ (by simp)
  rintro _ ⟨rfl⟩
  exact ⟨leaf, matched, rest, known, found, takes, Nat.le_refl _, .inl rfl⟩

/-- Stretching keeps what was taken, and is what a sequence does. -/
theorem derives_stretched {child : Match RuleId} {stop : Nat}
    (derives : child.Everywhere (registry.Derives input)) (later : child.stop ≤ stop)
    (stretches : registry.Stretches input (child.copyWith ⟨child.start, stop⟩ true)) :
    (child.copyWith ⟨child.start, stop⟩ true).Everywhere (registry.Derives input) := by
  apply derives.copyWith
  intro value scalar
  obtain ⟨leaf, matched, rest, known, found, takes, within, _⟩ := derives.root value scalar
  exact ⟨leaf, matched, rest, known, found, takes, within.trans later, .inr stretches⟩

theorem derives_of_stepReads {read : Read} {repetition : Repetition RuleId}
    (sound : ∀ id start m, read id start = some m → m.Everywhere (registry.Derives input))
    (step : StepReads read repetition id start m) : m.Everywhere (registry.Derives input) := by
  cases step with
  | element _ here _ => exact sound _ _ _ here
  | separated _ here _ next _ =>
      unfold Repetition.item
      split
      · refine derives_of_children (fun _ => nofun) ?_
        intro child member
        rcases List.mem_pair.mp member with rfl | rfl
        · exact sound _ _ _ here
        · exact sound _ _ _ next
      · exact sound _ _ _ next

theorem derives_of_reads {read : Read} {rule : LinkedRule} {position : Nat}
    (bounded : read.Bounded (Text.byteLength input.toList))
    (sound : ∀ id start m, read id start = some m → m.Everywhere (registry.Derives input))
    (known : registry.rule? id = some rule) (compiled : rule.kind.Compiled)
    (found : registry.readRule input start id = some m)
    (reads : rule.kind.Reads read input.toList id position m) :
    m.Everywhere (registry.Derives input) := by
  generalize same : rule.kind = kind at reads
  cases reads with
  | literal suffix =>
      apply derives_leaf known suffix
      rw [same]
      exact ⟨rfl, rfl⟩
  | pattern suffix taken =>
      obtain ⟨_, compiled⟩ := compiled _ same
      obtain ⟨matched, rest, rfl, searched, converted, rfl⟩ :=
        Pattern.exists_append_of_read? compiled taken
      apply derives_leaf known suffix
      rw [same]
      exact ⟨searched, converted⟩
  | @sequence items shape children stop itemsRead =>
      have advances : ∀ position m, read.Succeeds position m → position ≤ m.stop :=
        fun _ _ ⟨_, _, here⟩ => (bounded here).1
      have inside : ∀ child ∈ children, child.Everywhere (registry.Derives input) := by
        intro child member
        obtain ⟨position, _, item, here⟩ := itemsRead.chained.possible_of_mem member
        exact sound _ _ _ here
      have nested : ∀ inner ∈ (shape.build id ⟨position, stop⟩ children).children,
          inner.Everywhere (registry.Derives input) := by
        intro inner member
        rcases shape.build_spec id ⟨position, stop⟩ children with
          ⟨payload, built, drawn, _⟩ | ⟨child, held, built⟩ | ⟨missed, _⟩
        · rw [built] at member
          exact inside inner (drawn inner member)
        · rw [built] at member
          exact (inside child held).nested member
        · rw [missed] at member
          cases member
      cases shape with
      | all | selection _ | object _ => exact derives_of_children (fun _ => nofun) nested
      | one index =>
          rcases (Shape.one index).build_spec id ⟨position, stop⟩ children with
            ⟨_, _, _, composed, _⟩ | ⟨child, member, built⟩ | ⟨missed, _⟩
          · exact absurd rfl (composed index)
          · rw [built] at found ⊢
            exact derives_stretched (inside child member)
              ((itemsRead.chained.stop_le advances).2 child member)
              ⟨id, rule, items, index, _, known, same, found⟩
          · rw [missed]
            exact derives_fail id position
  | choice _ here _ => exact sound _ _ _ here
  | optional here _ => exact sound _ _ _ here
  | repetition here success steps =>
      refine derives_of_children (fun _ => nofun) ?_
      intro child member
      obtain ⟨_, possible⟩ := (chained_items here success steps).possible_of_mem member
      rcases possible with ⟨here, _⟩ | step
      · exact sound _ _ _ here
      · exact derives_of_stepReads sound step
  | repetitionSingle here _ => exact sound _ _ _ here
  | optionalMissed | repetitionEmpty _ => exact derives_emptyAt id position
  | literalMissed | patternMissed | sequenceMissed | choiceMissed | repetitionMissed =>
      exact derives_fail id position

/-! ## Whole reads -/

theorem readRule_derives (compiled : ∀ id rule, registry.rule? id = some rule → rule.kind.Compiled)
    (found : registry.readRule input start id = some m) : m.Everywhere (registry.Derives input) := by
  refine readRule_inductionFound (motive := fun _ _ m => m.Everywhere (registry.Derives input)) ?_
    found
  intro read id rule start position m bounded sound found known _ reads
  exact derives_of_reads bounded sound known (compiled id rule known) found reads

/-- All rules of a registry are compiled if those that it is made from are. -/
theorem compiled_of_ofRules {rules : List RuleDef} (built : ofRules rules = .ok registry)
    (compiled : ∀ rule ∈ rules, rule.kind.Compiled) {form : LinkedRule}
    (known : registry.rule? id = some form) : form.kind.Compiled := by
  obtain ⟨all, comprises⟩ := exists_comprises rules
  obtain ⟨rule, member, link, _⟩ := (linkedFrom_of_ofRules built comprises).exists_definition known
  have here : rule.kind.Compiled := by
    obtain ⟨baseTypes, skip, defined, defaults, rfl⟩ := comprises
    rcases List.mem_append.mp member with declared | added
    · rcases List.mem_append.mp declared with basic | declared
      · obtain ⟨base, _, basic⟩ := exists_related_of_mem (mapM_eq_ok_iff.mp defined) basic
        exact BaseType.compiled_of_definition basic
      · exact compiled rule declared
    · split at added
      · cases added
      · obtain rfl := List.mem_singleton.mp added
        exact RuleDef.compiled_of_pattern defaults
  intro pattern same
  have relates := (RuleDef.link_eq_ok link).2.2.2
  rw [same] at relates
  generalize same' : rule.kind = kind at relates
  cases relates
  exact here pattern same'

/-- What a node has taken stands in front of the text under it. -/
theorem Derives.attributes (derives : registry.Derives input node)
    (covers : Text.IsBoundary input.toList node.start → (Text.slice input.toList node.span).isSome) :
    registry.Attributes input node := by
  intro value scalar
  obtain ⟨leaf, matched, rest, known, found, takes, within, whole⟩ := derives value scalar
  have boundary : Text.IsBoundary input.toList node.start := Option.isSome_of_eq_some found
  obtain ⟨more, sliced, ends⟩ := Text.exists_append_of_slice found within (covers boundary)
  exact ⟨leaf, _, matched, more, known, found, takes, sliced, whole.imp_left ends⟩

theorem readRule_covers (found : registry.readRule input start id = some m) :
    m.Everywhere fun node => Text.IsBoundary input.toList node.start →
      (Text.slice input.toList node.span).isSome := by
  by_cases boundary : Text.IsBoundary input.toList start
  · exact (readRule_placed found boundary).mono fun _ placed _ => placed.covers
  · apply (readRule_still found boundary).mono
    intro node still inside
    have begins : node.start = start := congrArg Span.start still
    rw [begins] at inside
    exact absurd inside boundary

/-- A compiled pattern that reads with success has matched where it is read, and its value is that of the
text under its span. In a tree every value is what a leaf takes from the front of the text under its node,
and of all that text unless a sequence has stretched the node. -/
theorem readRule_attributes :
    (∀ properties source kind pattern, Pattern.compile? properties source kind = some pattern →
      ∀ id text start, (readPattern id pattern text start).success = true →
        ∃ matched rest value, Text.suffixAt text start = some (matched ++ rest) ∧
          pattern.regex.search (matched ++ rest) = some ⟨[], matched⟩ ∧
          kind.convert matched = some value ∧
          readPattern id pattern text start =
            .succeed id ⟨start, start + Text.byteLength matched⟩ (.scalar value) ∧
          (readPattern id pattern text start).text text = matched) ∧
    ∀ rules registry, ofRules rules = .ok registry → (∀ rule ∈ rules, rule.kind.Compiled) →
      ∀ input start id m, registry.readRule input start id = some m →
        m.Everywhere (registry.Attributes input) := by
  constructor
  · intro properties source kind pattern compiled id text start success
    exact exists_of_readPattern compiled success
  · intro rules registry built compiled input start id m found
    have derives := readRule_derives (fun _ _ known => compiled_of_ofRules built compiled known) found
    apply (derives.and (readRule_covers found)).mono
    intro node ⟨derives, covers⟩
    exact derives.attributes covers

end

/-- A number in verbose mode, with a choice and a comment in its pattern. -/
def numberSource : String :=
  "(?x) \\d+ | x # or a sign\n"

/-- A number with a mark behind it, of which the number is given. -/
def markedNumbers (number : Pattern) : List RuleDef :=
  [RuleDef.ofKind "main" (.sequence ["number", "mark"] (.one 0)),
    RuleDef.ofKind "number" (.pattern number),
    RuleDef.ofKind "mark" (.literal "!"),
    RuleDef.ofKind "skip" (.literal " ") (some false)]

/-- The number takes its digits, and the node for it is stretched over the mark. -/
theorem readRule_attributes_markedNumbers :
    ∃ number registry m value, Pattern.compile? .known numberSource .int = some number ∧
      ValueKind.int.convert ['1', '2'] = some value ∧
      readPattern ⟨9⟩ number " 12 !".toList 1 =
        .succeed ⟨9⟩ ⟨1, 1 + Text.byteLength ['1', '2']⟩ (.scalar value) ∧
      ofRules (markedNumbers number) = .ok registry ∧
      (∀ rule ∈ markedNumbers number, rule.kind.Compiled) ∧
      registry.readRule " 12 !" 0 ⟨8⟩ = some m ∧ m.span = ⟨1, 5⟩ ∧
      m.value?.bind Value.asInt? = some 12 ∧ m.Everywhere (registry.Attributes " 12 !") := by
  have evaluated : (Pattern.compile? .known numberSource .int).any (fun number =>
      (readPattern ⟨9⟩ number " 12 !".toList 1).success = true ∧
        (readPattern ⟨9⟩ number " 12 !".toList 1).text " 12 !".toList = ['1', '2'] ∧
        (ofRules (markedNumbers number)).toOption.any fun registry =>
          (registry.readRule " 12 !" 0 ⟨8⟩).map (fun m => (m.span, m.value?.bind Value.asInt?)) =
            some (⟨1, 5⟩, some 12)) = true := by
    decide +kernel
  obtain ⟨number, compiled⟩ : ∃ number, Pattern.compile? .known numberSource .int = some number :=
    Option.isSome_iff_exists.mp (by decide +kernel)
  rw [compiled] at evaluated
  obtain ⟨success, taken, reads⟩ := of_decide_eq_true evaluated
  obtain ⟨registry, built, shown⟩ := exists_ok_of_any reads
  obtain ⟨m, found, same⟩ := Option.map_eq_some_iff.mp shown
  rw [Prod.mk.injEq] at same
  have sound : ∀ rule ∈ markedNumbers number, rule.kind.Compiled := by
    simp only [markedNumbers, List.forall_mem_cons]
    exact ⟨fun _ => nofun, RuleKind.compiled_pattern compiled, fun _ => nofun, fun _ => nofun,
      nofun⟩
  obtain ⟨matched, _, value, _, _, converted, leaf, covered⟩ :=
    readRule_attributes.1 .known numberSource .int number compiled ⟨9⟩ _ 1 success
  obtain rfl := covered.symm.trans taken
  exact ⟨number, registry, m, value, compiled, converted, leaf, built, sound, found, same.1, same.2,
    readRule_attributes.2 _ registry built sound _ 0 ⟨8⟩ m found⟩

end Registry

end RuleGrammar
