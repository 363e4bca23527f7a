import RuleGrammar.Proofs.Registration
import RuleGrammar.Proofs.Reading.Depth

/-!
Owns the independence of recognition from presentation: how a grammar shapes its results decides
neither what it accepts nor how far it reads.

The presentation of a grammar is removed by `Rule.plain`. A rule and its plain form read the same parts at
the same offsets, because only success and the end of a match are ever looked at while reading.
-/

namespace RuleGrammar

/-! ## Removing presentation -/

/-- The same kind of rule, giving all it reads: a sequence lists all of its items, a repetition gives
a list even of one element and leaves separators out. -/
def RuleKind.plain {R : Type} : RuleKind R → RuleKind R
  | .sequence items _ => .sequence items .all
  | .repetition rep => .repetition { rep with collapseSingle := false, retainSeparators := false }
  | kind => kind

def Rule.plain {R : Type} (rule : Rule R) : Rule R :=
  { rule with kind := rule.kind.plain }

def Registry.plain (registry : Registry) : Registry :=
  { registry with rules := registry.rules.map Rule.plain }

/-- What reading looks at in a match: whether it succeeded, and where it ends. -/
def Match.outcome {R : Type} (m : Match R) : Bool × Nat :=
  (m.success, m.stop)

/-- Two ways of reading that succeed at the same places with the same ends. -/
def Read.Agrees (read other : Read) : Prop :=
  ∀ id start, (read id start).map Match.outcome = (other id start).map Match.outcome

theorem map_outcome_eq_iff {found found' : Option (Match RuleId)} :
    found.map Match.outcome = found'.map Match.outcome ↔
      (found = none ∧ found' = none) ∨
        ∃ m m', found = some m ∧ found' = some m' ∧ m.success = m'.success ∧ m.stop = m'.stop := by
  cases found with
  | none => cases found' <;> simp
  | some m => cases found' <;> simp [Match.outcome]

section

variable {read other : Read} {id : RuleId} {start : Nat}

/-! ## Reading the plain form -/

theorem readItems_agrees (agrees : read.Agrees other) (items : List RuleId) (start : Nat) :
    (readItems read items start).map (Option.map Prod.snd) =
      (readItems other items start).map (Option.map Prod.snd) := by
  induction items generalizing start with
  | nil => rfl
  | cons item items inductionHypothesis =>
      unfold readItems
      rcases map_outcome_eq_iff.mp (agrees item start) with
        ⟨missing, missing'⟩ | ⟨m, m', here, there, success, stop⟩
      · simp only [missing, missing']
      · simp only [here, there, success, stop]
        split
        next =>
          have rest := inductionHypothesis m'.stop
          revert rest
          rcases readItems read items m'.stop with _ | _ | _ <;>
            rcases readItems other items m'.stop with _ | _ | _ <;> simp
        next => rfl

/-- A sequence whose shape addresses its items succeeds and ends where they end. -/
theorem Shape.build_outcome {shape : Shape} {span : Span} {children : List (Match RuleId)}
    (addressed : ∀ index ∈ shape.indices, index < children.length) :
    (shape.build id span children).outcome = (true, span.stop) := by
  have success : (shape.build id span children).success = true := build_success addressed
  rcases shape.build_stop id span children with ends | missed
  · rw [Match.outcome, success, ends]
  · rw [missed] at success
    cases success

theorem readSequence_agrees (agrees : read.Agrees other) {items : List RuleId} {shape : Shape}
    (addressed : ∀ index ∈ shape.indices, index < items.length) :
    (readSequence read id items shape start).map Match.outcome =
      (readSequence other id items .all start).map Match.outcome := by
  unfold readSequence
  have same := readItems_agrees agrees items start
  cases found : readItems read items start with
  | none =>
      cases found' : readItems other items start with
      | none => rfl
      | some outcome => simp [found, found'] at same
  | some outcome =>
      cases found' : readItems other items start with
      | none => simp [found, found'] at same
      | some outcome' =>
          rw [found, found'] at same
          rcases outcome with _ | ⟨children, stop⟩ <;> rcases outcome' with _ | ⟨children', stop'⟩
          · rfl
          · simp at same
          · simp at same
          · simp only [Option.map_some, Option.some.injEq] at same
            have length := (readItems_itemsRead found).length_eq
            simp only [Option.map_some]
            rw [Shape.build_outcome (by rw [length]; exact addressed),
              Shape.build_outcome (by simp [Shape.indices]), same]

theorem readChoice_agrees (agrees : read.Agrees other) (options : List RuleId) :
    (readChoice read id options start).map Match.outcome =
      (readChoice other id options start).map Match.outcome := by
  induction options with
  | nil => rfl
  | cons option options inductionHypothesis =>
      unfold readChoice
      rcases map_outcome_eq_iff.mp (agrees option start) with
        ⟨missing, missing'⟩ | ⟨m, m', here, there, success, stop⟩
      · simp only [missing, missing']
      · simp only [here, there, success]
        split
        next => simp [Match.outcome, success, stop]
        next => exact inductionHypothesis

theorem readOptional_agrees (agrees : read.Agrees other) (inner : RuleId) :
    (readOptional read id inner start).map Match.outcome =
      (readOptional other id inner start).map Match.outcome := by
  unfold readOptional
  rcases map_outcome_eq_iff.mp (agrees inner start) with
    ⟨missing, missing'⟩ | ⟨m, m', here, there, success, stop⟩
  · simp only [missing, missing']
  · simp only [here, there, success, Option.map_some]
    split
    next => simp [Match.outcome, success, stop]
    next => rfl

/-! ## Reading the plain form of a repetition -/

theorem readElement_agrees (agrees : read.Agrees other) (element : RuleId) (position : Nat) :
    (readElement read element position).map (Option.map Match.stop) =
      (readElement other element position).map (Option.map Match.stop) := by
  unfold readElement
  rcases map_outcome_eq_iff.mp (agrees element position) with
    ⟨missing, missing'⟩ | ⟨m, m', here, there, success, stop⟩
  · simp only [missing, missing']
  · simp only [here, there, success, Option.map_some]
    split
    next => simp [stop]
    next => rfl

/-- Whether a separator is kept does not decide where a step ends. -/
theorem readStep_agrees (agrees : read.Agrees other) (repetition : Repetition RuleId)
    (collapses retains : Bool) (id : RuleId) (position : Nat) :
    (readStep read repetition id position).map (Option.map Match.stop) =
      (readStep other
        { repetition with collapseSingle := collapses, retainSeparators := retains } id position).map
          (Option.map Match.stop) := by
  unfold readStep
  simp only
  split
  next => exact readElement_agrees agrees _ position
  next between _ =>
    have first := readElement_agrees agrees between position
    revert first
    rcases readElement read between position with _ | _ | m <;>
      rcases readElement other between position with _ | _ | m' <;> intro first <;>
      simp only [Option.map_none, Option.map_some, Option.some.injEq, reduceCtorEq] at first ⊢
    have second := readElement_agrees agrees repetition.element m'.stop
    rw [first]
    simpa [Option.map_map, Function.comp_def, Repetition.item_stop] using second

theorem readSteps_agrees {step step' : Nat → Option (Option (Match RuleId))}
    (agrees : ∀ position,
      (step position).map (Option.map Match.stop) = (step' position).map (Option.map Match.stop))
    (min : Nat) (max : Option Nat) (fuel position count : Nat) :
    (readSteps step min max fuel position count).map (fun found => (found.1.length, found.2)) =
      (readSteps step' min max fuel position count).map fun found => (found.1.length, found.2) := by
  induction fuel generalizing position count with
  | zero => rfl
  | succ fuel inductionHypothesis =>
      unfold readSteps
      split
      next =>
        have here := agrees position
        revert here
        rcases step position with _ | _ | next <;> rcases step' position with _ | _ | next' <;>
          intro here <;>
          simp only [Option.map_none, Option.map_some, Option.some.injEq, reduceCtorEq] at here ⊢
        rw [here]
        split
        next =>
          have rest := inductionHypothesis next'.stop (count + 1)
          revert rest
          rcases readSteps step min max fuel next'.stop (count + 1) with _ | _ <;>
            rcases readSteps step' min max fuel next'.stop (count + 1) with _ | _ <;> simp
        next => simp
      next => rfl

/-- A repetition of at most one element ends with it, whether it gives the element or a list. -/
theorem readRepetition_agrees (agrees : read.Agrees other) {repetition : Repetition RuleId}
    {fuel : Nat} (bounds : ∀ max, repetition.max = some max → repetition.min ≤ max) :
    (readRepetition read (fuel + 1) id repetition start).map Match.outcome =
      (readRepetition other (fuel + 1) id
        { repetition with collapseSingle := false, retainSeparators := false } start).map
          Match.outcome := by
  unfold readRepetition
  simp only
  split
  next => rfl
  next =>
    rcases map_outcome_eq_iff.mp (agrees repetition.element start) with
      ⟨missing, missing'⟩ | ⟨first, first', here, there, success, stop⟩
    · simp only [missing, missing']
    · simp only [here, there, success, stop, Bool.false_and, Bool.false_eq_true, if_false]
      split
      next => rfl
      next began =>
        split
        next single =>
          -- No further step is allowed, and the lower bound is met.
          simp only [Bool.and_eq_true, beq_iff_eq] at single
          have least := bounds 1 single.2
          have enough : ¬ 0 + 1 < repetition.min := by omega
          simp only [Bool.not_eq_true, Bool.not_eq_false'] at began
          have ends : first.span.stop = first'.span.stop := stop
          simp [readSteps, single.2, enough, Match.outcome, success, began, ends, Match.succeed,
            Match.stop]
        next =>
          have steps := readSteps_agrees (readStep_agrees agrees repetition false false id)
            repetition.min repetition.max (fuel + 1) first'.stop 1
          revert steps
          generalize readSteps (readStep read repetition id) repetition.min repetition.max
            (fuel + 1) first'.stop 1 = found
          generalize readSteps (readStep other _ id) repetition.min repetition.max (fuel + 1)
            first'.stop 1 = found'
          rcases found with _ | ⟨items, last⟩ <;> rcases found' with _ | ⟨items', last'⟩ <;>
            intro steps <;>
            simp only [Option.map_none, Option.map_some, Option.some.injEq, Prod.mk.injEq,
              reduceCtorEq] at steps ⊢
          rw [steps.1, steps.2]
          split
          next => rfl
          next => rfl

/-! ## Reading the plain form of a rule -/

theorem readKind_agrees (agrees : read.Agrees other) {text : List Char} {size : Nat}
    {rule : LinkedRule} (fits : rule.Fits size) :
    (readKind read text id start rule.kind).map Match.outcome =
      (readKind other text id start rule.kind.plain).map Match.outcome := by
  cases same : rule.kind with
  | literal literal => rfl
  | pattern pattern => rfl
  | sequence items shape => exact readSequence_agrees agrees (fits.indices items shape same)
  | choice options => exact readChoice_agrees agrees options
  | optional inner => exact readOptional_agrees agrees inner
  | repetition repetition =>
      exact readRepetition_agrees agrees fun max => fits.bounds repetition max same

end

namespace Registry

variable {registry : Registry}

theorem rule?_plain (id : RuleId) : registry.plain.rule? id = (registry.rule? id).map Rule.plain := by
  simp [rule?, plain]

theorem startOf_agrees {read other : Read} (agrees : read.Agrees other) (rule : LinkedRule)
    (id : RuleId) (start : Nat) :
    registry.startOf read rule id start = registry.plain.startOf other rule.plain id start := by
  unfold startOf
  simp only [plain, Rule.plain]
  rcases map_outcome_eq_iff.mp (agrees registry.skip start) with
    ⟨missing, missing'⟩ | ⟨m, m', here, there, _, stop⟩
  · simp only [missing, missing', Option.map_none]
  · simp only [here, there, stop, Option.map_some]

/-- A registry and its plain form read alike at every depth. -/
theorem readWithin_agrees (wellFormed : registry.WellFormed) (text : List Char) (depth : Nat) :
    Read.Agrees (registry.readWithin text depth) (registry.plain.readWithin text depth) := by
  induction depth with
  | zero => intro id start; rfl
  | succ depth inductionHypothesis =>
      intro id start
      unfold readWithin
      rw [rule?_plain]
      cases known : registry.rule? id with
      | none => rfl
      | some rule =>
          simp only [Option.map_some]
          rw [startOf_agrees inductionHypothesis]
          split
          next => rfl
          next position _ =>
            exact readKind_agrees inductionHypothesis (wellFormed.fits known)

theorem readRule_outcome_plain (wellFormed : registry.WellFormed) (input : String) (start : Nat)
    (id : RuleId) :
    (registry.readRule input start id).map Match.outcome =
      (registry.plain.readRule input start id).map Match.outcome := by
  have depth : registry.plain.depthBound input.toList = registry.depthBound input.toList := by
    simp [depthBound, plain]
  rw [readRule, readRule, depth]
  exact readWithin_agrees wellFormed input.toList _ id start

end Registry

/-! ## Linking the plain form -/

theorem RuleKind.resolve_plain {R S ε : Type} {step : R → Except ε S} {kind : RuleKind R}
    {linked : RuleKind S} (resolved : kind.resolve step = .ok linked) :
    kind.plain.resolve step = .ok linked.plain := by
  cases kind with
  | literal text => cases resolved; rfl
  | pattern source => cases resolved; rfl
  | sequence items shape =>
      obtain ⟨ids, found, rfl⟩ := map_eq_ok_iff.mp resolved
      exact map_eq_ok_iff.mpr ⟨ids, found, rfl⟩
  | choice options =>
      obtain ⟨ids, found, rfl⟩ := map_eq_ok_iff.mp resolved
      exact map_eq_ok_iff.mpr ⟨ids, found, rfl⟩
  | optional inner =>
      obtain ⟨id, found, rfl⟩ := map_eq_ok_iff.mp resolved
      exact map_eq_ok_iff.mpr ⟨id, found, rfl⟩
  | repetition rep =>
      simp only [resolve, plain] at resolved ⊢
      split at resolved
      next => cases resolved
      next element found =>
        obtain ⟨separator, between, rfl⟩ := map_eq_ok_iff.mp resolved
        exact map_eq_ok_iff.mpr ⟨separator, between, rfl⟩

theorem RuleDef.link_plain {find : String → Option RuleId} {rule : RuleDef} {linked : LinkedRule}
    (links : rule.link find = .ok linked) :
    RuleDef.link find rule.plain = .ok linked.plain := by
  unfold RuleDef.link at links
  split at links
  next => cases links
  next sound =>
    have sound' : RuleDef.fault? rule.plain = none := by
      unfold RuleDef.fault? Rule.plain at *
      cases same : rule.kind with
      | sequence items shape => rfl
      | repetition rep => simpa [same, RuleKind.plain] using sound
      | _ => rfl
    obtain ⟨kind, resolved, rfl⟩ := map_eq_ok_iff.mp links
    unfold RuleDef.link
    rw [sound']
    exact map_eq_ok_iff.mpr ⟨kind.plain, RuleKind.resolve_plain resolved, rfl⟩

namespace Registry

/-- The plain forms of linked rules are determined by the plain forms of the definitions. -/
theorem map_plain_eq_of_links {find : String → Option RuleId} {rules rules' : List RuleDef}
    {linked linked' : List LinkedRule}
    (links : List.Forall₂ (fun rule linked => rule.link find = .ok linked) rules linked)
    (links' : List.Forall₂ (fun rule linked => rule.link find = .ok linked) rules' linked')
    (same : rules.map Rule.plain = rules'.map Rule.plain) :
    linked.map Rule.plain = linked'.map Rule.plain := by
  induction links generalizing rules' linked' with
  | nil =>
      cases links' with
      | nil => rfl
      | cons _ _ => cases same
  | @cons rule linked rules linkedRules here _ inductionHypothesis =>
      cases links' with
      | nil => cases same
      | @cons rule' linked' rules' linkedRules' here' later' =>
          simp only [List.map_cons, List.cons.injEq] at same ⊢
          have first := RuleDef.link_plain here
          rw [same.1, RuleDef.link_plain here', Except.ok.injEq] at first
          exact ⟨first.symm, inductionHypothesis later' same.2⟩

theorem map_name_plain (rules : List RuleDef) :
    (rules.map Rule.plain).map Rule.name = rules.map Rule.name := by
  rw [List.map_map]
  rfl

/-- Grammars that differ in presentation only have registries that do. -/
theorem plain_eq_of_ofRules {rules rules' : List RuleDef} {registry registry' : Registry}
    (built : ofRules rules = .ok registry) (built' : ofRules rules' = .ok registry')
    (same : rules.map Rule.plain = rules'.map Rule.plain) : registry.plain = registry'.plain := by
  obtain ⟨all, comprises⟩ := exists_comprises rules
  obtain ⟨all', comprises'⟩ := exists_comprises rules'
  have linked := linkedFrom_of_ofRules built comprises
  have linked' := linkedFrom_of_ofRules built' comprises'
  have declared : rules'.map Rule.name = rules.map Rule.name := by
    rw [← map_name_plain rules, same, map_name_plain]
  have agree : all.map Rule.plain = all'.map Rule.plain := by
    rw [← List.forall₂_eq_eq_eq, List.forall₂_map_left_iff, List.forall₂_map_right_iff] at same ⊢
    exact comprises.rel comprises' (fun _ => rfl) declared same
  have names : all'.map Rule.name = all.map Rule.name := by
    rw [← map_name_plain all, agree, map_name_plain]
  obtain ⟨index, skip, entry⟩ := linked.congr linked' names
  have links' := linked'.links
  have find : registry'.find? = registry.find? := by
    funext name
    rw [find?, find?, index]
  rw [find] at links'
  unfold plain
  rw [map_plain_eq_of_links linked.links links' agree, index, skip, entry]

/-- Grammars that differ in presentation only have the same names, and reading by any of them gives a
match for the same rules at the same offsets, with the same success and the same end. -/
theorem readRule_outcome_eq {rules rules' : List RuleDef} {registry registry' : Registry}
    (built : ofRules rules = .ok registry) (built' : ofRules rules' = .ok registry')
    (same : rules.map Rule.plain = rules'.map Rule.plain) :
    registry.names = registry'.names ∧ ∀ input start id,
      (registry.readRule input start id).map Match.outcome =
        (registry'.readRule input start id).map Match.outcome := by
  have plain := plain_eq_of_ofRules built built' same
  constructor
  · calc registry.names = registry.plain.names := by simp [names, Registry.plain, Rule.plain]
      _ = registry'.plain.names := by rw [plain]
      _ = registry'.names := by simp [names, Registry.plain, Rule.plain]
  · intro input start id
    rw [readRule_outcome_plain (wellFormed_of_ofRules built), plain,
      ← readRule_outcome_plain (wellFormed_of_ofRules built')]

/-- The grammar of `markedWords`, with words under a name and the commas left out. -/
def namedWords : List RuleDef :=
  [RuleDef.ofKind "main" (.repetition
      { element := "entry", separator := some "comma", collapseSingle := true }),
    RuleDef.ofKind "entry" (.sequence ["word", "mark"] (.object [(0, "word")])),
    RuleDef.ofKind "word" (.literal "é"),
    RuleDef.ofKind "mark" (.literal "!"),
    RuleDef.ofKind "comma" (.literal ","),
    RuleDef.ofKind "skip" (.literal " ") (some false)]

/-- What is known of one presentation carries over to the other. -/
theorem readRule_outcome_namedWords :
    ∃ registry registry', ofRules markedWords = .ok registry ∧ ofRules namedWords = .ok registry' ∧
      markedWords.map Rule.plain = namedWords.map Rule.plain ∧
      (registry'.readRule " é !, é!" 0 ⟨8⟩).map Match.outcome = some (true, 10) := by
  obtain ⟨baseTypes, index, size, built⟩ := ofRules_markedWords
  obtain ⟨registry', built', _⟩ : ∃ registry', ofRules namedWords = .ok registry' ∧ True :=
    exists_ok_of_any (by decide +kernel)
  have same : markedWords.map Rule.plain = namedWords.map Rule.plain := by decide
  refine ⟨_, registry', built, built', same, ?_⟩
  rw [← (readRule_outcome_eq built built' same).2]
  match baseTypes, size with
  | [_, _, _, _, _, _, _, _], _ => rfl

end Registry

end RuleGrammar
