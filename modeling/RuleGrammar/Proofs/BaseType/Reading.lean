import RuleGrammar.Proofs.BaseType.Numeral
import RuleGrammar.Proofs.BaseType.Quotation
import RuleGrammar.Proofs.BaseType.Word
import RuleGrammar.Proofs.Reading.Depth
import RuleGrammar.Proofs.Registration

/-!
Owns what the base types read in a grammar, whatever other rules it has.

Contract: a base type that is a leaf takes, behind skippable text, what one pass over the text takes, and
converts it (`Registry.exists_scans`); the others try their options in order (`Registry.exists_tries`).
-/

namespace RuleGrammar

/-! ## Passes of the base types -/

/-- The pass of a leaf among the base types and the kind of value it stands for. -/
def BaseType.pass? : BaseType → Option (Reader (List Char) × ValueKind)
  | .baseType => none
  | .bool => some (Truth.scan, .bool)
  | .float => some (Numeral.float, .float)
  | .strictFloat => some (Numeral.strictFloat, .float)
  | .id => some (Name.scan, .text)
  | .int => some (Numeral.int, .int)
  | .number => none
  | .string => some (Quotation.scan, .text)

/-- What a pass takes of a text, and the value that it stands for. -/
def takeValue (scan : Reader (List Char)) (kind : ValueKind) (text : List Char) :
    Option (Value × List Char) :=
  (scan text).bind fun found => (kind.convert found.1).map fun value => (value, found.1)

/-- The match of a leaf that converts what a pass takes from its start on. -/
def readScanned (scan : Reader (List Char)) (kind : ValueKind) (id : RuleId) (text : List Char)
    (start : Nat) : Match RuleId :=
  match (Text.suffixAt text start).bind (takeValue scan kind) with
  | some (value, matched) => .succeed id ⟨start, start + Text.byteLength matched⟩ (.scalar value)
  | none => .fail id start

theorem readPattern_eq_readScanned {properties : Regex.PropertyTable} {source : String}
    {kind : ValueKind} {pattern : Pattern} {regex : Regex} {scan : Reader (List Char)}
    (compiled : Pattern.compile? properties source kind = some pattern)
    (parsed : Regex.parse? properties source.toList = some regex) (plain : regex.isPlain = true)
    (scanned : regex.ScannedBy scan) (id : RuleId) :
    readPattern id pattern = readScanned scan kind id := by
  have same : pattern.read? = fun text =>
      (takeValue scan kind text).map fun found => (found.1, Text.byteLength found.2) := by
    funext text
    rw [Pattern.read?_of_scannedBy compiled parsed plain scanned, takeValue, Option.map_bind]
    simp only [Option.map_map, Function.comp_def]
  funext text start
  rw [readPattern, readScanned, same]
  cases Text.suffixAt text start with
  | none => rfl
  | some suffix =>
      rw [Option.bind_some, Option.bind_some]
      cases takeValue scan kind suffix <;> rfl

section

variable {scan : Reader (List Char)} {kind : ValueKind} {id : RuleId} {text rest matched : List Char}
  {start : Nat} {value : Value}

theorem takeValue_eq_some_iff :
    takeValue scan kind text = some (value, matched) ↔
      ∃ rest, scan text = some (matched, rest) ∧ kind.convert matched = some value := by
  rw [takeValue, Option.bind_eq_some_iff]
  constructor
  · rintro ⟨⟨_, rest⟩, scanned, taken⟩
    obtain ⟨_, converted, same⟩ := Option.map_eq_some_iff.mp taken
    cases same
    exact ⟨rest, scanned, converted⟩
  · rintro ⟨rest, scanned, converted⟩
    exact ⟨_, scanned, by rw [converted]; rfl⟩

theorem readScanned_of_takeValue (found : Text.suffixAt text start = some rest)
    (taken : takeValue scan kind rest = some (value, matched)) :
    readScanned scan kind id text start =
      .succeed id ⟨start, start + Text.byteLength matched⟩ (.scalar value) := by
  rw [readScanned, found, Option.bind_some, taken]

theorem readScanned_of_missed (missed : (Text.suffixAt text start).bind (takeValue scan kind) = none) :
    readScanned scan kind id text start = .fail id start := by
  rw [readScanned, missed]

theorem readScanned_of_scan (found : Text.suffixAt text start = some rest) (missed : scan rest = none) :
    readScanned scan kind id text start = .fail id start :=
  readScanned_of_missed (by rw [found, Option.bind_some, takeValue, missed, Option.bind_none])

theorem success_readScanned_iff (found : Text.suffixAt text start = some rest) :
    (readScanned scan kind id text start).success = true ↔ (takeValue scan kind rest).isSome := by
  rw [readScanned, found, Option.bind_some]
  cases takeValue scan kind rest <;> simp [Match.succeed, Match.fail]

end

namespace BaseType

theorem exists_definition (base : BaseType) : ∃ rule, base.definition = .ok rule :=
  exists_mapM_iff.mp exists_definitions base (by cases base <;> decide)

theorem exists_pattern_of_source {base : BaseType} {source : String} {kind : ValueKind} {regex : Regex}
    {scan : Reader (List Char)} (defined : base.definition = RuleDef.pattern base.name source kind)
    (parsed : Regex.parse? .known source.toList = some regex) (plain : regex.isPlain = true)
    (scanned : regex.ScannedBy scan) :
    ∃ pattern, base.definition = .ok (RuleDef.ofKind base.name (.pattern pattern)) ∧
      ∀ id, readPattern id pattern = readScanned scan kind id := by
  obtain ⟨rule, here⟩ := base.exists_definition
  rw [defined, RuleDef.pattern] at here
  cases compiled : Pattern.compile? .known source kind with
  | none =>
      rw [compiled] at here
      cases here
  | some pattern =>
      refine ⟨pattern, ?_, readPattern_eq_readScanned compiled parsed plain scanned⟩
      rw [defined, RuleDef.pattern, compiled]

/-- A leaf among the base types reads its pattern in one pass. -/
theorem exists_pattern {base : BaseType} {scan : Reader (List Char)} {kind : ValueKind}
    (leaf : base.pass? = some (scan, kind)) :
    ∃ pattern, base.definition = .ok (RuleDef.ofKind base.name (.pattern pattern)) ∧
      ∀ id, readPattern id pattern = readScanned scan kind id := by
  cases base <;> cases leaf
  case bool =>
    exact exists_pattern_of_source (by simp only [definition, name]) (Truth.parse?_expression .known)
      (by decide) Truth.scannedBy_scan
  case float =>
    exact exists_pattern_of_source (by simp only [definition, name]) (Numeral.parse?_float .known) (by decide)
      Numeral.scannedBy_float
  case strictFloat =>
    exact exists_pattern_of_source (by simp only [definition, name]) (Numeral.parse?_strictFloat .known)
      (by decide) Numeral.scannedBy_strictFloat
  case id =>
    exact exists_pattern_of_source (by simp only [definition, name]) (Name.parse?_expression .known)
      (by decide) Name.scannedBy_scan
  case int =>
    exact exists_pattern_of_source (by simp only [definition, name]) (Numeral.parse?_int .known)
      (by decide) Numeral.scannedBy_int
  case string =>
    exact exists_pattern_of_source (by simp only [definition, name]) (Quotation.parse?_expression .known)
      (by decide) Quotation.scannedBy_scan

end BaseType

/-! ## Base types of a registry -/

namespace Registry

variable {rules : List RuleDef} {registry : Registry} {id : RuleId}

/-- A base type is one rule of a grammar, linked from its definition. -/
theorem exists_baseRule (built : ofRules rules = .ok registry) {base : BaseType} {rule : RuleDef}
    (defined : base.definition = .ok rule) :
    ∃ id form, registry.find? base.name = some id ∧ registry.rule? id = some form ∧
      rule.link registry.find? = .ok form ∧ id ≠ registry.skip := by
  obtain ⟨all, comprises⟩ := exists_comprises rules
  have linked := linkedFrom_of_ofRules built comprises
  have member : rule ∈ all := by
    obtain ⟨baseTypes, skip, definitions, -, rfl⟩ := comprises
    obtain ⟨other, listed, here⟩ := exists_related_of_mem (mapM_eq_ok_iff.mp definitions).flip
      (show base ∈ BaseType.all by cases base <;> decide)
    rw [defined, Except.ok.injEq] at here
    rw [here]
    exact List.mem_append_left _ (List.mem_append_left _ listed)
  obtain ⟨id, form, found, known, link⟩ := linked.exists_rule member
  rw [(BaseType.definition_eq_ok defined).1] at found
  refine ⟨id, form, found, known, link, ?_⟩
  rintro rfl
  have name := linked.find?_eq_some_iff.mp found
  rw [linked.find?_eq_some_iff.mp linked.skip, Option.some.injEq] at name
  cases base <;> exact absurd name (by decide)

theorem readRule_pattern {name : String} {pattern : Pattern}
    (known : registry.rule? id = some ⟨name, true, .pattern pattern⟩) (other : id ≠ registry.skip)
    (input : String) (start : Nat) :
    registry.readRule input start id =
      (registry.readRule input start registry.skip).map fun skipped =>
        readPattern id pattern input.toList skipped.stop := by
  ext m
  rw [readRule_iff, Option.map_eq_some_iff]
  constructor
  · rintro ⟨rule, position, known', begins, body⟩
    obtain rfl := Option.some.inj (known.symm.trans known')
    rw [startOf_eq_some_iff, if_pos ⟨rfl, other⟩] at begins
    obtain ⟨skipped, skips, rfl⟩ := begins
    exact ⟨skipped, skips, Option.some.inj body⟩
  · rintro ⟨skipped, skips, rfl⟩
    refine ⟨_, skipped.stop, known, ?_, rfl⟩
    rw [startOf_eq_some_iff, if_pos ⟨rfl, other⟩]
    exact ⟨skipped, skips, rfl⟩

theorem readRule_choice {name : String} {options : List RuleId}
    (known : registry.rule? id = some ⟨name, false, .choice options⟩) (input : String) (start : Nat) :
    registry.readRule input start id = readChoice (registry.reader input) id options start := by
  ext m
  rw [readRule_iff]
  constructor
  · rintro ⟨rule, position, known', begins, body⟩
    obtain rfl := Option.some.inj (known.symm.trans known')
    rw [startOf_eq_some_iff, if_neg (by simp)] at begins
    rw [begins] at body
    exact body
  · intro body
    refine ⟨_, start, known, ?_, body⟩
    rw [startOf_eq_some_iff, if_neg (by simp)]

/-- A base type takes, behind skippable text, what a pass takes, and converts it. -/
structure Scans (registry : Registry) (base : BaseType) (scan : Reader (List Char)) (kind : ValueKind)
    (id : RuleId) : Prop where
  named : registry.find? base.name = some id
  reads : ∀ input start, registry.readRule input start id =
    (registry.readRule input start registry.skip).map fun skipped =>
      readScanned scan kind id input.toList skipped.stop

theorem readNamed_of_find? {name : String} (found : registry.find? name = some id) (input : String)
    (start : Nat) :
    registry.readNamed input start name = .ok (registry.readRule input start id) := by
  rw [readNamed, lookup_eq_ok_iff.mpr found]
  rfl

theorem exists_scans (built : ofRules rules = .ok registry) (base : BaseType)
    {scan : Reader (List Char)} {kind : ValueKind} (leaf : base.pass? = some (scan, kind)) :
    ∃ id, registry.Scans base scan kind id := by
  obtain ⟨pattern, defined, reads⟩ := BaseType.exists_pattern leaf
  obtain ⟨id, ⟨formName, formSkips, formKind⟩, found, known, link, other⟩ :=
    exists_baseRule built defined
  obtain ⟨-, name, skips, relates⟩ := RuleDef.link_eq_ok link
  simp only at name skips relates
  change RuleKind.Relates _ (.pattern pattern) formKind at relates
  cases relates
  rw [name, skips] at known
  refine ⟨id, found, fun input start => ?_⟩
  rw [readRule_pattern known other, reads]

theorem Scans.readNamed_eq {base : BaseType} {scan : Reader (List Char)} {kind : ValueKind}
    (scans : registry.Scans base scan kind id) (input : String) (start : Nat) :
    registry.readNamed input start base.name =
      .ok ((registry.readRule input start registry.skip).map fun skipped =>
        readScanned scan kind id input.toList skipped.stop) := by
  rw [readNamed_of_find? scans.named, scans.reads]

/-- A base type without a pattern of its own tries other base types in order. -/
structure Tries (registry : Registry) (base : BaseType) (options : List BaseType) (id : RuleId) :
    Prop where
  named : registry.find? base.name = some id
  reads : ∀ {ids : List RuleId},
    List.Forall₂ (fun option id => registry.find? option.name = some id) options ids →
      ∀ input start, registry.readRule input start id =
        readChoice (registry.reader input) id ids start

theorem Tries.readNamed_eq {base : BaseType} {options : List BaseType} {ids : List RuleId}
    (tries : registry.Tries base options id)
    (named : List.Forall₂ (fun option id => registry.find? option.name = some id) options ids)
    (input : String) (start : Nat) :
    registry.readNamed input start base.name =
      .ok (readChoice (registry.reader input) id ids start) := by
  rw [readNamed_of_find? tries.named, tries.reads named]

theorem exists_tries (built : ofRules rules = .ok registry) {base : BaseType} {options : List BaseType}
    (defined : base.definition = .ok (RuleDef.ofKind base.name (.choice (options.map BaseType.name)))) :
    ∃ id, registry.Tries base options id := by
  obtain ⟨id, ⟨formName, formSkips, formKind⟩, found, known, link, -⟩ := exists_baseRule built defined
  obtain ⟨-, name, skips, relates⟩ := RuleDef.link_eq_ok link
  simp only at name skips relates
  change RuleKind.Relates _ (.choice (options.map BaseType.name)) formKind at relates
  cases relates with
  | @choice _ ids related =>
      refine ⟨id, found, fun {others} named => ?_⟩
      have same : ids = others := List.right_unique_forall₂' (fun option id id' found found' =>
        Option.some.inj (found.symm.trans found')) (List.forall₂_map_left_iff.mp related) named
      rw [name, skips, same] at known
      exact readRule_choice known

theorem exists_tries_number (built : ofRules rules = .ok registry) :
    ∃ id, registry.Tries .number [.strictFloat, .int] id :=
  exists_tries built (by simp only [BaseType.definition, BaseType.name, List.map_cons, List.map_nil])

theorem exists_tries_baseType (built : ofRules rules = .ok registry) :
    ∃ id, registry.Tries .baseType [.bool, .id, .string, .number] id :=
  exists_tries built (by simp only [BaseType.definition, BaseType.name, List.map_cons, List.map_nil])

/-! ## Skippable text -/

/-- Where no rule for skippable text is declared, blanks are skipped. -/
theorem readRule_defaultSkip (built : ofRules rules = .ok registry)
    (undeclared : skipName ∉ rules.map Rule.name) (input : String) (start : Nat) :
    registry.readRule input start registry.skip =
      some (readScanned Blanks.scan .text registry.skip input.toList start) := by
  obtain ⟨all, comprises⟩ := exists_comprises rules
  have linked := linkedFrom_of_ofRules built comprises
  obtain ⟨baseTypes, skip, -, defaults, same⟩ := comprises
  rw [if_neg undeclared] at same
  have member : skip ∈ all := by simp [same]
  rw [defaultSkip, RuleDef.pattern] at defaults
  cases compiled : Pattern.compile? .known defaultSkipSource .text with
  | none =>
      rw [compiled] at defaults
      cases defaults
  | some pattern =>
      rw [compiled, Except.ok.injEq] at defaults
      obtain ⟨id, ⟨formName, formSkips, formKind⟩, found, known, link⟩ := linked.exists_rule member
      obtain ⟨-, -, -, relates⟩ := RuleDef.link_eq_ok link
      subst defaults
      change RuleKind.Relates _ (.pattern pattern) formKind at relates
      cases relates
      obtain rfl : registry.skip = id := Option.some.inj (linked.skip.symm.trans found)
      rw [← readPattern_eq_readScanned compiled (Blanks.parse?_expression .known) (by decide)
        Blanks.scannedBy_scan]
      refine readRule_iff.mpr ⟨_, start, known, ?_, rfl⟩
      rw [startOf_eq_some_iff, if_neg (by simp)]

/-- Among `markedWords`, which skip one blank, the leaves of the base types begin behind it. -/
theorem exists_reads_markedWords :
    ∃ registry, ofRules markedWords = .ok registry ∧
      ∀ (base : BaseType) {scan : Reader (List Char)} {kind : ValueKind},
        base.pass? = some (scan, kind) → ∃ id, ∀ input start,
          registry.readNamed input start base.name = .ok (some (readScanned scan kind id input.toList
            (readLiteral registry.skip " " input.toList start).stop)) := by
  obtain ⟨baseTypes, index, size, built⟩ := ofRules_markedWords
  refine ⟨_, built, fun base _ _ leaf => ?_⟩
  obtain ⟨id, scans⟩ := exists_scans built base leaf
  refine ⟨id, fun input start => ?_⟩
  have known : Registry.rule? ⟨baseTypes ++ linkedMarkedWords, index, ⟨13⟩, ⟨8⟩⟩ ⟨13⟩ =
      some ⟨"skip", false, .literal " "⟩ := by
    rw [rule?, List.getElem?_append_right (by simp [size])]
    simp [size, linkedMarkedWords]
  have skips : Registry.readRule ⟨baseTypes ++ linkedMarkedWords, index, ⟨13⟩, ⟨8⟩⟩ input start ⟨13⟩ =
      some (readLiteral ⟨13⟩ " " input.toList start) := by
    refine readRule_iff.mpr ⟨_, start, known, ?_, rfl⟩
    rw [startOf_eq_some_iff, if_neg (by simp)]
  rw [scans.readNamed_eq, skips, Option.map_some]

end Registry

end RuleGrammar
