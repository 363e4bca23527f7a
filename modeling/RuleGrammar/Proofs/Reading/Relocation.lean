import RuleGrammar.Proofs.Linking
import RuleGrammar.Proofs.Reading.Depth

/-!
Owns what reading does not depend on: the numbers of the rules, and the offset at which a text begins.

Contract: where the rules of a registry are found under other ids in another registry, and a text
behind a beginning in another text, the match there is the match here, its rules renamed and all its
spans moved by the length of that beginning (`Registry.Relocates.readRule`). Every combinator passes
this on, because it looks at its parts by their success and their end only.
-/

namespace RuleGrammar

/-! ## Relocated fields -/

namespace Fields

variable {α β : Type}

theorem insert_map (change : α → β) (name : String) (value : α) (fields : List (String × α)) :
    insert name (change value) (fields.map (Prod.map id change)) =
      (insert name value fields).map (Prod.map id change) := by
  fun_induction insert name value fields with
  | case1 => rfl
  | case2 held rest => simp [insert]
  | case3 other held rest different before => simp [insert, different, before]
  | case4 other held rest different behind inductionHypothesis =>
      simp [insert, different, behind, inductionHypothesis]

/-- Values can be changed before they are bound or after. -/
theorem ofBindings_map (change : α → β) (bindings : List (String × α)) :
    ofBindings (bindings.map (Prod.map id change)) =
      (ofBindings bindings).map (Prod.map id change) := by
  induction bindings using List.reverseRecOn with
  | nil => rfl
  | append_singleton bindings binding inductionHypothesis =>
      rw [List.map_append, List.map_singleton, ofBindings_concat, ofBindings_concat,
        inductionHypothesis]
      exact insert_map change binding.1 binding.2 _

end Fields

/-! ## Relocated matches -/

namespace Match

variable {R S T : Type}

mutual

/-- The same tree with its rules renamed and all its spans moved by a distance. -/
def relocate (rename : R → S) (distance : Nat) : Match R → Match S
  | ⟨success, span, rule, payload⟩ =>
      ⟨success, span.shift distance, rename rule, relocatePayload rename distance payload⟩

def relocatePayload (rename : R → S) (distance : Nat) : Payload (Match R) → Payload (Match S)
  | .absent => .absent
  | .scalar value => .scalar value
  | .list items => .list (relocateItems rename distance items)
  | .object fields => .object (relocateFields rename distance fields)

def relocateItems (rename : R → S) (distance : Nat) : List (Match R) → List (Match S)
  | [] => []
  | item :: items => relocate rename distance item :: relocateItems rename distance items

def relocateFields (rename : R → S) (distance : Nat) :
    List (String × Match R) → List (String × Match S)
  | [] => []
  | (field, item) :: fields =>
      (field, relocate rename distance item) :: relocateFields rename distance fields

end

section

variable (rename : R → S) (distance : Nat)

theorem relocateItems_eq_map (items : List (Match R)) :
    relocateItems rename distance items = items.map (relocate rename distance) := by
  induction items with
  | nil => rfl
  | cons item items inductionHypothesis =>
      rw [relocateItems, inductionHypothesis, List.map_cons]

theorem relocateFields_eq_map (fields : List (String × Match R)) :
    relocateFields rename distance fields =
      fields.map (Prod.map id (relocate rename distance)) := by
  induction fields with
  | nil => rfl
  | cons entry fields inductionHypothesis =>
      rw [relocateFields, inductionHypothesis, List.map_cons]
      rfl

@[simp] theorem success_relocate (m : Match R) :
    (m.relocate rename distance).success = m.success := by
  cases m
  rfl

@[simp] theorem start_relocate (m : Match R) :
    (m.relocate rename distance).start = distance + m.start := by
  cases m
  rfl

@[simp] theorem stop_relocate (m : Match R) :
    (m.relocate rename distance).stop = distance + m.stop := by
  cases m
  rfl

@[simp] theorem relocate_fail (rule : R) (position : Nat) :
    (fail rule position).relocate rename distance = fail (rename rule) (distance + position) :=
  rfl

@[simp] theorem relocate_emptyAt (rule : R) (position : Nat) :
    (emptyAt rule position).relocate rename distance = emptyAt (rename rule) (distance + position) :=
  rfl

@[simp] theorem relocate_scalar (rule : R) (span : Span) (value : Value) :
    (succeed rule span (.scalar value)).relocate rename distance =
      succeed (rename rule) (span.shift distance) (.scalar value) :=
  rfl

@[simp] theorem relocate_list (rule : R) (span : Span) (items : List (Match R)) :
    (succeed rule span (.list items)).relocate rename distance =
      succeed (rename rule) (span.shift distance) (.list (items.map (relocate rename distance))) := by
  rw [← relocateItems_eq_map]
  rfl

@[simp] theorem relocate_object (rule : R) (span : Span) (fields : List (String × Match R)) :
    (succeed rule span (.object fields)).relocate rename distance =
      succeed (rename rule) (span.shift distance)
        (.object (fields.map (Prod.map id (relocate rename distance)))) := by
  rw [← relocateFields_eq_map]
  rfl

@[simp] theorem relocate_copyWith (m : Match R) (span : Span) (success : Bool) :
    (m.copyWith span success).relocate rename distance =
      (m.relocate rename distance).copyWith (span.shift distance) success := by
  cases m
  rfl

end

end Match

/-! ## Relocated reads -/

/-- `other` reads a rule by its new name further on as `read` does, in matches and in their absence. -/
def Read.Relocates (rename : RuleId → RuleId) (distance : Nat) (read other : Read) : Prop :=
  ∀ id start,
    other (rename id) (distance + start) = (read id start).map (Match.relocate rename distance)

namespace Read.Relocates

variable {rename : RuleId → RuleId} {distance : Nat} {read other : Read}

/-! ## Sequences -/

theorem items (relocates : read.Relocates rename distance other) (items : List RuleId)
    (start : Nat) :
    readItems other (items.map rename) (distance + start) =
      (readItems read items start).map
        (Option.map fun found => (found.1.map (Match.relocate rename distance), distance + found.2)) := by
  induction items generalizing start with
  | nil => rfl
  | cons item items inductionHypothesis =>
      rw [List.map_cons]
      unfold readItems
      rw [relocates]
      cases read item start with
      | none => rfl
      | some m =>
          simp only [Option.map_some, Match.success_relocate, Match.stop_relocate]
          by_cases success : m.success = true
          · rw [if_pos success, if_pos success, inductionHypothesis]
            rcases readItems read items m.stop with _ | _ | ⟨children, stop⟩ <;> rfl
          · rw [if_neg success, if_neg success]
            rfl

end Read.Relocates

theorem Shape.build_relocate (rename : RuleId → RuleId) (distance : Nat) (shape : Shape) (id : RuleId)
    (span : Span) (children : List (Match RuleId)) :
    shape.build (rename id) (span.shift distance) (children.map (Match.relocate rename distance)) =
      (shape.build id span children).relocate rename distance := by
  cases shape with
  | all => simp [build]
  | one index =>
      simp only [build, List.getElem?_map]
      cases children[index]? with
      | none => rfl
      | some child =>
          simp only [Option.map_some, Match.start_relocate, Match.relocate_copyWith]
          rfl
  | selection indices =>
      simp only [build, Match.relocate_list, List.map_filterMap, List.getElem?_map]
  | object fields =>
      simp only [build, Match.relocate_object, ← Fields.ofBindings_map, List.map_filterMap,
        List.getElem?_map, Option.map_map]
      rfl

namespace Read.Relocates

variable {rename : RuleId → RuleId} {distance : Nat} {read other : Read}

theorem sequence (relocates : read.Relocates rename distance other) (id : RuleId)
    (items : List RuleId) (shape : Shape) (start : Nat) :
    readSequence other (rename id) (items.map rename) shape (distance + start) =
      (readSequence read id items shape start).map (Match.relocate rename distance) := by
  unfold readSequence
  rw [relocates.items]
  rcases readItems read items start with _ | _ | ⟨children, stop⟩
  · rfl
  · rfl
  · simp only [Option.map_some, ← Shape.build_relocate]
    rfl

/-! ## Choices and options -/

theorem choice (relocates : read.Relocates rename distance other) (id : RuleId)
    (options : List RuleId) (start : Nat) :
    readChoice other (rename id) (options.map rename) (distance + start) =
      (readChoice read id options start).map (Match.relocate rename distance) := by
  induction options with
  | nil => rfl
  | cons option options inductionHypothesis =>
      rw [List.map_cons]
      unfold readChoice
      rw [relocates]
      cases read option start with
      | none => rfl
      | some m =>
          simp only [Option.map_some, Match.success_relocate]
          by_cases success : m.success = true
          · rw [if_pos success, if_pos success, Option.map_some]
          · rw [if_neg success, if_neg success, inductionHypothesis]

theorem optional (relocates : read.Relocates rename distance other) (id inner : RuleId)
    (start : Nat) :
    readOptional other (rename id) (rename inner) (distance + start) =
      (readOptional read id inner start).map (Match.relocate rename distance) := by
  unfold readOptional
  rw [relocates]
  cases read inner start with
  | none => rfl
  | some m =>
      simp only [Option.map_some, Match.success_relocate]
      by_cases success : m.success = true
      · rw [if_pos success, if_pos success]
      · rw [if_neg success, if_neg success, Match.relocate_emptyAt]

/-! ## Repetitions -/

end Read.Relocates

theorem Repetition.item_relocate (rename : RuleId → RuleId) (distance : Nat)
    (rep : Repetition RuleId) (id : RuleId) (position : Nat) (separator element : Match RuleId) :
    (rep.map rename).item (rename id) (distance + position) (separator.relocate rename distance)
        (element.relocate rename distance) =
      (rep.item id position separator element).relocate rename distance := by
  unfold item
  by_cases retains : rep.retainSeparators = true
  · rw [if_pos retains, if_pos (show (rep.map rename).retainSeparators = true from retains),
      Match.relocate_list, Match.stop_relocate]
    rfl
  · rw [if_neg retains, if_neg (show ¬ (rep.map rename).retainSeparators = true from retains)]

namespace Read.Relocates

variable {rename : RuleId → RuleId} {distance : Nat} {read other : Read}

theorem element (relocates : read.Relocates rename distance other) (element : RuleId)
    (position : Nat) :
    readElement other (rename element) (distance + position) =
      (readElement read element position).map (Option.map (Match.relocate rename distance)) := by
  unfold readElement
  rw [relocates]
  cases read element position with
  | none => rfl
  | some m =>
      simp only [Option.map_some, Match.success_relocate]
      by_cases success : m.success = true
      · rw [if_pos success, if_pos success, Option.map_some]
      · rw [if_neg success, if_neg success, Option.map_none]

theorem step (relocates : read.Relocates rename distance other) (rep : Repetition RuleId)
    (id : RuleId) (position : Nat) :
    readStep other (rep.map rename) (rename id) (distance + position) =
      (readStep read rep id position).map (Option.map (Match.relocate rename distance)) := by
  unfold readStep
  cases between : rep.separator with
  | none =>
      simp only [Repetition.map, between, Option.map_none]
      exact relocates.element rep.element position
  | some separator =>
      simp only [Repetition.map, between, Option.map_some]
      rw [relocates.element]
      rcases readElement read separator position with _ | _ | m
      · rfl
      · rfl
      · simp only [Option.map_some, Match.stop_relocate]
        rw [relocates.element, Option.map_map, Option.map_map]
        congr 1
        funext found
        cases found with
        | none => rfl
        | some element => exact congrArg some (rep.item_relocate rename distance id position m element)

theorem steps (relocates : read.Relocates rename distance other) (rep : Repetition RuleId)
    (id : RuleId) (min : Nat) (max : Option Nat) (fuel position count : Nat) :
    readSteps (readStep other (rep.map rename) (rename id)) min max fuel (distance + position) count =
      (readSteps (readStep read rep id) min max fuel position count).map
        fun found => (found.1.map (Match.relocate rename distance), distance + found.2) := by
  induction fuel generalizing position count with
  | zero => rfl
  | succ fuel inductionHypothesis =>
      unfold readSteps
      by_cases more : max.all (count < ·) = true
      · rw [if_pos more, if_pos more, relocates.step]
        rcases readStep read rep id position with _ | _ | next
        · rfl
        · rfl
        · simp only [Option.map_some, Match.stop_relocate, Nat.add_lt_add_iff_left]
          by_cases advances : position < next.stop
          · rw [if_pos advances, if_pos advances, inductionHypothesis]
            cases readSteps (readStep read rep id) min max fuel next.stop (count + 1) with
            | none => rfl
            | some found => rfl
          · rw [if_neg advances, if_neg advances, Option.map_some, List.map_replicate]
      · rw [if_neg more, if_neg more]
        rfl

theorem repetition (relocates : read.Relocates rename distance other) (rep : Repetition RuleId)
    (fuel : Nat) (id : RuleId) (start : Nat) :
    readRepetition other fuel (rename id) (rep.map rename) (distance + start) =
      (readRepetition read fuel id rep start).map (Match.relocate rename distance) := by
  unfold readRepetition
  have settings : (rep.map rename).max = rep.max ∧ (rep.map rename).min = rep.min ∧
      (rep.map rename).collapseSingle = rep.collapseSingle ∧
      (rep.map rename).element = rename rep.element := ⟨rfl, rfl, rfl, rfl⟩
  obtain ⟨max, min, collapse, element⟩ := settings
  rw [max, min, collapse, element]
  by_cases none : rep.max = some 0
  · rw [if_pos none, if_pos none, Option.map_some, Match.relocate_emptyAt]
  · rw [if_neg none, if_neg none, relocates]
    cases read rep.element start with
    | none => rfl
    | some first =>
        simp only [Option.map_some, Match.success_relocate, Match.stop_relocate]
        by_cases missed : (!first.success) = true
        · rw [if_pos missed, if_pos missed, Option.map_some]
          by_cases optional : rep.min = 0
          · rw [if_pos optional, if_pos optional, Match.relocate_emptyAt]
          · rw [if_neg optional, if_neg optional, Match.relocate_fail]
        · rw [if_neg missed, if_neg missed]
          by_cases single : (rep.collapseSingle && rep.max == some 1) = true
          · rw [if_pos single, if_pos single, Option.map_some]
          · rw [if_neg single, if_neg single, relocates.steps]
            rcases readSteps (readStep read rep id) rep.min rep.max fuel first.stop 1 with
              _ | ⟨others, stop⟩
            · rfl
            · simp only [Option.map_some, List.length_map]
              by_cases few : others.length + 1 < rep.min
              · rw [if_pos few, if_pos few, Option.map_some, Match.relocate_fail]
              · rw [if_neg few, if_neg few, Option.map_some, Match.relocate_list]
                rfl

end Read.Relocates

/-! ## The number of steps allowed -/

/-- Steps that move forward within a text are never cut short, so that more of them change nothing. -/
theorem readSteps_fuel {read : Read} {limit : Nat} (bounded : read.Bounded limit)
    (rep : Repetition RuleId) (id : RuleId) (min : Nat) (max : Option Nat)
    {fuel more position : Nat} (count : Nat) (enough : limit - position < fuel)
    (most : fuel ≤ more) :
    readSteps (readStep read rep id) min max more position count =
      readSteps (readStep read rep id) min max fuel position count := by
  induction fuel generalizing more position count with
  | zero => omega
  | succ fuel inductionHypothesis =>
      cases more with
      | zero => omega
      | succ more =>
          unfold readSteps
          cases found : readStep read rep id position with
          | none => rfl
          | some outcome =>
              cases outcome with
              | none => rfl
              | some next =>
                  have ends := (readStep_stepReads found).bounds bounded
                  by_cases advances : position < next.stop
                  · simp only [if_pos advances,
                      inductionHypothesis (count + 1) (show limit - next.stop < fuel by omega)
                        (show fuel ≤ more by omega)]
                  · simp only [if_neg advances]

theorem readRepetition_fuel {read : Read} {limit : Nat} (bounded : read.Bounded limit)
    (rep : Repetition RuleId) (id : RuleId) (start : Nat) {fuel more : Nat} (enough : limit < fuel)
    (most : fuel ≤ more) :
    readRepetition read more id rep start = readRepetition read fuel id rep start := by
  unfold readRepetition
  cases read rep.element start with
  | none => rfl
  | some first =>
      simp only [readSteps_fuel bounded rep id rep.min rep.max 1
        (show limit - first.stop < fuel by omega) most]

/-! ## Relocated rules -/

section

variable {rename : RuleId → RuleId} {distance : Nat} {text longer : List Char}

theorem readLiteral_relocate
    (behind : ∀ offset, Text.suffixAt longer (distance + offset) = Text.suffixAt text offset)
    (id : RuleId) (literal : String) (start : Nat) :
    readLiteral (rename id) literal longer (distance + start) =
      (readLiteral id literal text start).relocate rename distance := by
  unfold readLiteral
  rw [behind]
  cases (Text.suffixAt text start).bind (Text.dropPrefix? literal.toList) with
  | none => rfl
  | some _ =>
      rw [Match.relocate_scalar, Span.shift, Nat.add_assoc]

/-- A pattern is searched in the text behind the offset, as if that were all. -/
theorem readPattern_relocate
    (behind : ∀ offset, Text.suffixAt longer (distance + offset) = Text.suffixAt text offset)
    (id : RuleId) (pattern : Pattern) (start : Nat) :
    readPattern (rename id) pattern longer (distance + start) =
      (readPattern id pattern text start).relocate rename distance := by
  unfold readPattern
  rw [behind]
  rcases (Text.suffixAt text start).bind pattern.read? with _ | ⟨value, length⟩
  · rfl
  · simp only [Match.relocate_scalar, Span.shift, Nat.add_assoc]

/-- The text behind a beginning is no longer than the whole. -/
theorem byteLength_le_of_behind
    (behind : ∀ offset, Text.suffixAt longer (distance + offset) = Text.suffixAt text offset) :
    Text.byteLength text ≤ Text.byteLength longer := by
  have ends : Text.IsBoundary longer (distance + Text.byteLength text) := by
    unfold Text.IsBoundary
    rw [behind]
    have cut := Text.suffixAt_append text []
    rw [List.append_nil] at cut
    rw [cut]
    rfl
  have within := ends.le
  omega

theorem Read.Relocates.kind {read other : Read} (relocates : read.Relocates rename distance other)
    (behind : ∀ offset, Text.suffixAt longer (distance + offset) = Text.suffixAt text offset)
    (bounded : read.Bounded (Text.byteLength text)) (id : RuleId) (start : Nat)
    (kind : RuleKind RuleId) :
    readKind other longer (rename id) (distance + start) (kind.map rename) =
      (readKind read text id start kind).map (Match.relocate rename distance) := by
  cases kind with
  | literal literal => exact congrArg some (readLiteral_relocate behind id literal start)
  | pattern pattern => exact congrArg some (readPattern_relocate behind id pattern start)
  | sequence items shape => exact relocates.sequence id items shape start
  | choice options => exact relocates.choice id options start
  | optional inner => exact relocates.optional id inner start
  | repetition rep =>
      -- More steps are allowed in the longer text, but no more are made.
      have longEnough := byteLength_le_of_behind behind
      show readRepetition other _ (rename id) (rep.map rename) (distance + start) = _
      rw [relocates.repetition, readRepetition_fuel bounded rep id start
        (Nat.lt_succ_self (Text.byteLength text)) (show _ ≤ _ by omega)]
      rfl

end

/-! ## Relocated registries -/

namespace Registry

/-- The rules of a registry are found in another one under new ids, with references to the new ids;
an id without a rule has none there either. -/
structure Relocates (rename : RuleId → RuleId) (registry other : Registry) : Prop where
  rule : ∀ id, other.rule? (rename id) = (registry.rule? id).map (Rule.map rename)
  skip : ∀ id, rename id = other.skip ↔ id = registry.skip

namespace Relocates

variable {rename : RuleId → RuleId} {registry other : Registry} {distance : Nat}

theorem startOf (relocates : registry.Relocates rename other) {read further : Read}
    (reads : read.Relocates rename distance further) (rule : LinkedRule) (id : RuleId)
    (start : Nat) :
    other.startOf further (rule.map rename) (rename id) (distance + start) =
      (registry.startOf read rule id start).map (distance + ·) := by
  have same : (rename id != other.skip) = (id != registry.skip) := by
    rw [Bool.eq_iff_iff, bne_iff_ne, bne_iff_ne, ne_eq, ne_eq, relocates.skip]
  unfold Registry.startOf
  rw [same, show (rule.map rename).appliesSkip = rule.appliesSkip from rfl,
    ← (relocates.skip registry.skip).mpr rfl]
  by_cases skips : (rule.appliesSkip && id != registry.skip) = true
  · rw [if_pos skips, if_pos skips, reads, Option.map_map, Option.map_map]
    congr 1
    funext m
    exact m.stop_relocate rename distance
  · rw [if_neg skips, if_neg skips, Option.map_some]

/-- At every depth, relocated rules read relocated text as the rules read the text. -/
theorem readWithin (relocates : registry.Relocates rename other) {text longer : List Char}
    (behind : ∀ offset, Text.suffixAt longer (distance + offset) = Text.suffixAt text offset)
    (depth : Nat) :
    Read.Relocates rename distance (registry.readWithin text depth)
      (other.readWithin longer depth) := by
  induction depth with
  | zero =>
      intro id start
      rfl
  | succ depth inductionHypothesis =>
      intro id start
      unfold Registry.readWithin
      rw [relocates.rule]
      cases registry.rule? id with
      | none => rfl
      | some rule =>
          simp only [Option.map_some, relocates.startOf inductionHypothesis]
          cases registry.startOf (registry.readWithin text depth) rule id start with
          | none => rfl
          | some position =>
              exact inductionHypothesis.kind behind (readWithin_bounded depth) id position rule.kind

/-- Relocated rules read relocated text with the match relocated, if there is one. -/
theorem readRule (relocates : registry.Relocates rename other) {input longer : String}
    (behind : ∀ offset, Text.suffixAt longer.toList (distance + offset) =
      Text.suffixAt input.toList offset)
    (start : Nat) (id : RuleId) :
    other.readRule longer (distance + start) (rename id) =
      (registry.readRule input start id).map (Match.relocate rename distance) := by
  apply Option.ext
  intro m
  rw [readRule_eq_some_iff, Option.map_eq_some_iff]
  constructor
  · rintro ⟨depth, found⟩
    rw [relocates.readWithin behind depth, Option.map_eq_some_iff] at found
    obtain ⟨original, here, moved⟩ := found
    exact ⟨original, readRule_eq_some_iff.mpr ⟨depth, here⟩, moved⟩
  · rintro ⟨original, here, moved⟩
    obtain ⟨depth, found⟩ := readRule_eq_some_iff.mp here
    refine ⟨depth, ?_⟩
    rw [relocates.readWithin behind depth, found, Option.map_some, moved]

end Relocates

end Registry

end RuleGrammar
