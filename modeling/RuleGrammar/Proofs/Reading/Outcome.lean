import RuleGrammar.Proofs.Boundary
import RuleGrammar.Proofs.Tree

/-!
Owns what the match of a rule can be, given the matches of its parts.

Contract: `RuleKind.Reads` has one case for every way in which reading a rule can come out.
`readKind_reads` shows that there are no others, and `Registry.readWithin_induction` turns that into an
induction: a property that passes from the parts of a rule to the rule holds of all that is read.
-/

namespace RuleGrammar

/-! ## Bounds of a read -/

/-- No match ends before the start of its read, nor behind both the start and a limit. -/
def Read.Bounded (limit : Nat) (read : Read) : Prop :=
  ∀ ⦃id start m⦄, read id start = some m → start ≤ m.stop ∧ m.stop ≤ max limit start

/-! ## Chains of matches -/

/-- Matches one after the other: each is possible at the offset where the one before ends. -/
inductive Chained (possible : Nat → Match RuleId → Prop) :
    Nat → List (Match RuleId) → Nat → Prop where
  | nil {position : Nat} : Chained possible position [] position
  | cons {position stop : Nat} {m : Match RuleId} {ms : List (Match RuleId)} :
      possible position m → Chained possible m.stop ms stop →
      Chained possible position (m :: ms) stop

theorem Chained.mono {possible possible' : Nat → Match RuleId → Prop} {start stop : Nat}
    {ms : List (Match RuleId)} (weaker : ∀ position m, possible position m → possible' position m)
    (chain : Chained possible start ms stop) : Chained possible' start ms stop := by
  induction chain with
  | nil => exact .nil
  | cons first _ inductionHypothesis => exact .cons (weaker _ _ first) inductionHypothesis

theorem Chained.possible_of_mem {possible : Nat → Match RuleId → Prop} {start stop : Nat}
    {ms : List (Match RuleId)} (chain : Chained possible start ms stop) {m : Match RuleId}
    (member : m ∈ ms) : ∃ position, possible position m := by
  induction chain with
  | nil => cases member
  | cons first _ inductionHypothesis =>
      rcases List.mem_cons.mp member with rfl | later
      · exact ⟨_, first⟩
      · exact inductionHypothesis later

/-- A match that does not move can follow itself. -/
theorem chained_replicate {possible : Nat → Match RuleId → Prop} {m : Match RuleId}
    (stalled : possible m.stop m) (count : Nat) :
    Chained possible m.stop (List.replicate count m) m.stop := by
  induction count with
  | zero => exact .nil
  | succ count inductionHypothesis => exact .cons stalled inductionHypothesis

/-- The items of a sequence read with success, one after the other. -/
inductive ItemsRead (read : Read) :
    List RuleId → Nat → List (Match RuleId) → Nat → Prop where
  | nil {position : Nat} : ItemsRead read [] position [] position
  | cons {item : RuleId} {items : List RuleId} {position stop : Nat} {m : Match RuleId}
      {ms : List (Match RuleId)} :
      read item position = some m → m.success = true → ItemsRead read items m.stop ms stop →
      ItemsRead read (item :: items) position (m :: ms) stop

/-- A successful read of some rule. -/
def Read.Succeeds (read : Read) (position : Nat) (m : Match RuleId) : Prop :=
  m.success = true ∧ ∃ id, read id position = some m

theorem ItemsRead.chained {read : Read} {items : List RuleId} {start stop : Nat}
    {ms : List (Match RuleId)} (reads : ItemsRead read items start ms stop) :
    Chained read.Succeeds start ms stop := by
  induction reads with
  | nil => exact .nil
  | cons first success _ inductionHypothesis => exact .cons ⟨success, _, first⟩ inductionHypothesis

theorem ItemsRead.length_eq {read : Read} {items : List RuleId} {start stop : Nat}
    {ms : List (Match RuleId)} (reads : ItemsRead read items start ms stop) :
    ms.length = items.length := by
  induction reads with
  | nil => rfl
  | cons _ _ _ inductionHypothesis => simp [inductionHypothesis]

/-- One step of a repetition after its first element. -/
inductive StepReads (read : Read) (repetition : Repetition RuleId) (id : RuleId) :
    Nat → Match RuleId → Prop where
  | element {position : Nat} {m : Match RuleId} :
      repetition.separator = none → read repetition.element position = some m →
      m.success = true → StepReads read repetition id position m
  | separated {position : Nat} {separator : RuleId} {m element : Match RuleId} :
      repetition.separator = some separator → read separator position = some m →
      m.success = true → read repetition.element m.stop = some element →
      element.success = true →
      StepReads read repetition id position (repetition.item id position m element)

/-- The items of a repetition, the first of them an element by itself. -/
theorem chained_items {read : Read} {repetition : Repetition RuleId} {id : RuleId}
    {start stop : Nat} {first : Match RuleId} {others : List (Match RuleId)}
    (here : read repetition.element start = some first) (success : first.success = true)
    (steps : Chained (StepReads read repetition id) first.stop others stop) :
    Chained (fun position m =>
        (read repetition.element position = some m ∧ m.success = true) ∨
          StepReads read repetition id position m)
      start (first :: others) stop :=
  .cons (.inl ⟨here, success⟩) (steps.mono fun _ _ step => .inr step)

/-- What a rule reads from its own start on, skippable text being behind it. -/
inductive RuleKind.Reads (read : Read) (text : List Char) (id : RuleId) (start : Nat) :
    RuleKind RuleId → Match RuleId → Prop where
  | literal {literal : String} {rest : List Char} :
      Text.suffixAt text start = some (literal.toList ++ rest) →
      Reads read text id start (.literal literal)
        (.succeed id ⟨start, start + Text.byteLength literal.toList⟩ (.scalar (.text literal)))
  | literalMissed {literal : String} :
      Reads read text id start (.literal literal) (.fail id start)
  | pattern {pattern : Pattern} {tail : List Char} {value : Value} {length : Nat} :
      Text.suffixAt text start = some tail → pattern.read? tail = some (value, length) →
      Reads read text id start (.pattern pattern)
        (.succeed id ⟨start, start + length⟩ (.scalar value))
  | patternMissed {pattern : Pattern} :
      Reads read text id start (.pattern pattern) (.fail id start)
  | sequence {items : List RuleId} {shape : Shape} {children : List (Match RuleId)} {stop : Nat} :
      ItemsRead read items start children stop →
      Reads read text id start (.sequence items shape) (shape.build id ⟨start, stop⟩ children)
  | sequenceMissed {items : List RuleId} {shape : Shape} :
      Reads read text id start (.sequence items shape) (.fail id start)
  | choice {options : List RuleId} {option : RuleId} {m : Match RuleId} :
      option ∈ options → read option start = some m → m.success = true →
      Reads read text id start (.choice options) m
  | choiceMissed {options : List RuleId} :
      Reads read text id start (.choice options) (.fail id start)
  | optional {inner : RuleId} {m : Match RuleId} :
      read inner start = some m → m.success = true → Reads read text id start (.optional inner) m
  | optionalMissed {inner : RuleId} :
      Reads read text id start (.optional inner) (.emptyAt id start)
  | repetition {repetition : Repetition RuleId} {first : Match RuleId}
      {others : List (Match RuleId)} {stop : Nat} :
      read repetition.element start = some first → first.success = true →
      Chained (StepReads read repetition id) first.stop others stop →
      Reads read text id start (.repetition repetition)
        (.succeed id ⟨start, stop⟩ (.list (first :: others)))
  | repetitionSingle {repetition : Repetition RuleId} {first : Match RuleId} :
      read repetition.element start = some first → first.success = true →
      Reads read text id start (.repetition repetition) first
  | repetitionEmpty {repetition : Repetition RuleId} :
      (repetition.max = some 0 ∨ repetition.min = 0) →
      Reads read text id start (.repetition repetition) (.emptyAt id start)
  | repetitionMissed {repetition : Repetition RuleId} :
      Reads read text id start (.repetition repetition) (.fail id start)

/-! ## One part after the other -/

section

variable {read : Read} {id : RuleId}

theorem readItems_cons_eq (item : RuleId) (items : List RuleId) (position : Nat) :
    readItems read (item :: items) position = (read item position).bind fun m =>
      if m.success then
        (readItems read items m.stop).map fun rest => rest.map fun (ms, stop) => (m :: ms, stop)
      else some none := by
  rw [readItems]
  cases read item position with
  | none => rfl
  | some m => rcases rest : readItems read items m.stop with _ | _ | _ <;> simp [rest]

theorem readSequence_eq (items : List RuleId) (shape : Shape) (start : Nat) :
    readSequence read id items shape start =
      (readItems read items start).map fun found =>
        found.elim (.fail id start) fun (children, stop) => shape.build id ⟨start, stop⟩ children := by
  rw [readSequence]
  rcases readItems read items start with _ | _ | _ <;> rfl

theorem readChoice_cons_eq (option : RuleId) (options : List RuleId) (start : Nat) :
    readChoice read id (option :: options) start = (read option start).bind fun first =>
      if first.success then some first else readChoice read id options start := by
  rw [readChoice]
  cases read option start <;> rfl

theorem readStep_separated_eq {repetition : Repetition RuleId} {separator : RuleId}
    (between : repetition.separator = some separator) (position : Nat) :
    readStep read repetition id position = (readElement read separator position).bind fun first =>
      first.elim (some none) fun m => (readElement read repetition.element m.stop).map fun element =>
        element.map (repetition.item id position m) := by
  rw [readStep, between]
  rcases first : readElement read separator position with _ | _ | _ <;> simp [first]

theorem readSteps_succ_eq (step : Nat → Option (Option (Match RuleId))) (least fuel position count : Nat)
    (most : Option Nat) :
    readSteps step least most (fuel + 1) position count =
      if most.all (count < ·) then
        (step position).bind fun outcome => outcome.elim (some ([], position)) fun next =>
          if position < next.stop then
            (readSteps step least most fuel next.stop (count + 1)).map fun (ms, stop) =>
              (next :: ms, stop)
          else some (List.replicate (most.getD least - count) next, position)
      else some ([], position) := by
  rw [readSteps]
  rcases step position with _ | _ | next
  · rfl
  · rfl
  · rcases rest : readSteps step least most fuel next.stop (count + 1) with _ | _ <;> simp [rest]

theorem readRepetition_eq {repetition : Repetition RuleId} (allowed : repetition.max ≠ some 0)
    (fuel start : Nat) :
    readRepetition read fuel id repetition start =
      (read repetition.element start).bind fun first =>
        if first.success then
          if repetition.collapseSingle && repetition.max == some 1 then some first
          else
            (readSteps (readStep read repetition id) repetition.min repetition.max fuel
                first.stop 1).map fun (others, stop) =>
              if others.length + 1 < repetition.min then .fail id start
              else .succeed id ⟨start, stop⟩ (.list (first :: others))
        else some (if repetition.min = 0 then .emptyAt id start else .fail id start) := by
  rw [readRepetition, if_neg allowed]
  cases read repetition.element start with
  | none => rfl
  | some first =>
      by_cases success : first.success = true
      · rcases further : readSteps (readStep read repetition id) repetition.min repetition.max fuel
          first.stop 1 with _ | ⟨others, stop⟩
        · simp [success, further]
        · simp [success, further, apply_ite some]
      · simp [success]

end

/-! ## Every read comes out in one of these ways -/

section

variable {read : Read} {text : List Char} {id : RuleId} {start stop limit : Nat}
  {m : Match RuleId}

theorem readLiteral_reads (literal : String) :
    (RuleKind.literal literal).Reads read text id start (readLiteral id literal text start) := by
  unfold readLiteral
  split
  next rest found =>
    obtain ⟨tail, suffix, dropped⟩ := Option.bind_eq_some_iff.mp found
    rw [Text.dropPrefix?_eq_some_iff] at dropped
    subst dropped
    exact .literal suffix
  next => exact .literalMissed

theorem readPattern_reads (pattern : Pattern) :
    (RuleKind.pattern pattern).Reads read text id start (readPattern id pattern text start) := by
  unfold readPattern
  split
  next value length found =>
    obtain ⟨tail, suffix, pieces⟩ := Option.bind_eq_some_iff.mp found
    exact .pattern suffix pieces
  next => exact .patternMissed

theorem readItems_itemsRead {items : List RuleId} {ms : List (Match RuleId)}
    (found : readItems read items start = some (some (ms, stop))) :
    ItemsRead read items start ms stop := by
  fun_induction readItems read items start generalizing ms stop with
  | case1 => cases found; exact .nil
  | case2 => cases found
  | case3 => cases found
  | case4 => cases found
  | case5 item items position m here success children last rest inductionHypothesis =>
      cases found
      exact .cons here success (inductionHypothesis rest)
  | case6 => cases found

theorem readSequence_reads {items : List RuleId} {shape : Shape}
    (found : readSequence read id items shape start = some m) :
    (RuleKind.sequence items shape).Reads read text id start m := by
  unfold readSequence at found
  split at found
  next => cases found
  next => cases found; exact .sequenceMissed
  next children last reads => cases found; exact .sequence (readItems_itemsRead reads)

theorem readChoice_spec {options : List RuleId} (found : readChoice read id options start = some m) :
    m = .fail id start ∨ ∃ option ∈ options, read option start = some m ∧ m.success = true := by
  fun_induction readChoice read id options start with
  | case1 => cases found; exact .inl rfl
  | case2 => cases found
  | case3 option options start first here success =>
      cases found
      exact .inr ⟨option, by simp, here, success⟩
  | case4 option options start first here failure inductionHypothesis =>
      rcases inductionHypothesis found with missed | ⟨later, member, read⟩
      · exact .inl missed
      · exact .inr ⟨later, by simp [member], read⟩

theorem readChoice_reads {options : List RuleId}
    (found : readChoice read id options start = some m) :
    (RuleKind.choice options).Reads read text id start m := by
  rcases readChoice_spec found with rfl | ⟨option, member, here, success⟩
  · exact .choiceMissed
  · exact .choice member here success

theorem readOptional_reads {inner : RuleId} (found : readOptional read id inner start = some m) :
    (RuleKind.optional inner).Reads read text id start m := by
  obtain ⟨first, here, rfl⟩ := Option.map_eq_some_iff.mp found
  by_cases success : first.success = true
  · rw [if_pos success]
    exact .optional here success
  · rw [if_neg success]
    exact .optionalMissed

theorem readElement_eq_some {element : RuleId} (found : readElement read element start = some (some m)) :
    read element start = some m ∧ m.success = true := by
  obtain ⟨first, here, kept⟩ := Option.map_eq_some_iff.mp found
  by_cases success : first.success = true
  · rw [if_pos success] at kept
    cases kept
    exact ⟨here, success⟩
  · rw [if_neg success] at kept
    cases kept

theorem readStep_stepReads {repetition : Repetition RuleId}
    (found : readStep read repetition id start = some (some m)) :
    StepReads read repetition id start m := by
  unfold readStep at found
  split at found
  next alone =>
    obtain ⟨here, success⟩ := readElement_eq_some found
    exact .element alone here success
  next separator between =>
    split at found
    next => cases found
    next => cases found
    next between' separatorFound =>
      obtain ⟨separatorHere, separatorSuccess⟩ := readElement_eq_some separatorFound
      obtain ⟨element, elementFound, pair⟩ := Option.map_eq_some_iff.mp found
      obtain ⟨element, rfl, rfl⟩ := Option.map_eq_some_iff.mp pair
      obtain ⟨elementHere, elementSuccess⟩ := readElement_eq_some elementFound
      exact .separated between separatorHere separatorSuccess elementHere elementSuccess

theorem Repetition.item_stop (repetition : Repetition RuleId) (position : Nat)
    (separator element : Match RuleId) :
    (repetition.item id position separator element).stop = element.stop := by
  unfold Repetition.item
  split <;> rfl

theorem StepReads.bounds (bounded : read.Bounded limit) {repetition : Repetition RuleId}
    (step : StepReads read repetition id start m) : start ≤ m.stop ∧ m.stop ≤ max limit start := by
  cases step with
  | element _ here _ => exact bounded here
  | separated _ separatorHere _ elementHere _ =>
      have first := bounded separatorHere
      have second := bounded elementHere
      rw [Repetition.item_stop]
      omega

/-- The steps of a repetition are a chain, also when the last of them is counted more than once:
it ends where it began, so it could be read there again. -/
theorem readSteps_chained {repetition : Repetition RuleId} (bounded : read.Bounded limit)
    {min : Nat} {max : Option Nat} {fuel count : Nat} {ms : List (Match RuleId)}
    (found : readSteps (readStep read repetition id) min max fuel start count = some (ms, stop)) :
    Chained (StepReads read repetition id) start ms stop := by
  induction fuel generalizing start count ms with
  | zero => cases found
  | succ fuel inductionHypothesis =>
      unfold readSteps at found
      split at found
      next =>
        split at found
        next => cases found
        next => cases found; exact .nil
        next next here =>
          have step := readStep_stepReads here
          split at found
          next advances =>
            split at found
            next => cases found
            next rest further =>
              cases found
              exact .cons step (inductionHypothesis further)
          next stalled =>
            simp only [Option.some.injEq, Prod.mk.injEq] at found
            obtain ⟨rfl, rfl⟩ := found
            have back : next.stop = start := by
              have bounds := step.bounds bounded
              omega
            subst back
            exact chained_replicate step _
      next => cases found; exact .nil

theorem readRepetition_reads {repetition : Repetition RuleId} {fuel : Nat}
    (bounded : read.Bounded limit)
    (found : readRepetition read fuel id repetition start = some m) :
    (RuleKind.repetition repetition).Reads read text id start m := by
  unfold readRepetition at found
  split at found
  next none => cases found; exact .repetitionEmpty (.inl none)
  next =>
    split at found
    next => cases found
    next first here =>
      split at found
      next =>
        cases found
        split
        next zero => exact .repetitionEmpty (.inr zero)
        next => exact .repetitionMissed
      next success =>
        simp only [Bool.not_eq_true, Bool.not_eq_false'] at success
        split at found
        next => cases found; exact .repetitionSingle here success
        next =>
          split at found
          next => cases found
          next others last further =>
            split at found
            next => cases found; exact .repetitionMissed
            next => cases found; exact .repetition here success (readSteps_chained bounded further)

theorem readKind_reads {kind : RuleKind RuleId} (bounded : read.Bounded limit)
    (found : readKind read text id start kind = some m) : kind.Reads read text id start m := by
  cases kind with
  | literal literal => cases found; exact readLiteral_reads literal
  | pattern pattern => cases found; exact readPattern_reads pattern
  | sequence items shape => exact readSequence_reads found
  | choice options => exact readChoice_reads found
  | optional inner => exact readOptional_reads found
  | repetition repetition => exact readRepetition_reads bounded found

end

/-! ## Bounds -/

theorem Chained.bounds {possible : Nat → Match RuleId → Prop} {start stop limit : Nat}
    {ms : List (Match RuleId)}
    (bounded : ∀ position m, possible position m →
      position ≤ m.stop ∧ m.stop ≤ max limit position)
    (chain : Chained possible start ms stop) : start ≤ stop ∧ stop ≤ max limit start := by
  induction chain with
  | nil => omega
  | cons first _ inductionHypothesis =>
      have here := bounded _ _ first
      omega

theorem RuleKind.Reads.bounds {read : Read} {text : List Char} {id : RuleId} {start : Nat}
    {kind : RuleKind RuleId} {m : Match RuleId} (bounded : read.Bounded (Text.byteLength text))
    (reads : kind.Reads read text id start m) :
    start ≤ m.stop ∧ m.stop ≤ max (Text.byteLength text) start := by
  have still : start ≤ start ∧ start ≤ max (Text.byteLength text) start := by omega
  cases reads with
  | literal found =>
      have boundary := (Text.IsBoundary.of_suffixAt found).le
      simp only [Match.succeed, Match.stop]
      omega
  | pattern found pieces =>
      obtain ⟨matched, rest, rfl, rfl⟩ := Pattern.eq_append_of_read? pieces
      have boundary := (Text.IsBoundary.of_suffixAt found).le
      simp only [Match.succeed, Match.stop]
      omega
  | @sequence items shape children stop itemsRead =>
      rcases shape.build_stop id ⟨start, stop⟩ children with same | missed
      · rw [same]
        exact itemsRead.chained.bounds fun _ _ ⟨_, _, here⟩ => bounded here
      · rw [missed]
        exact still
  | choice _ here _ => exact bounded here
  | optional here _ => exact bounded here
  | repetition here _ others =>
      have first := bounded here
      have further := others.bounds fun _ _ step => step.bounds bounded
      simp only [Match.succeed, Match.stop] at first further ⊢
      omega
  | repetitionSingle here _ => exact bounded here
  | literalMissed | patternMissed | sequenceMissed | choiceMissed | optionalMissed
  | repetitionEmpty | repetitionMissed => exact still

/-! ## Induction over reads -/

namespace Registry

variable {registry : Registry} {text : List Char}

theorem startOf_eq_some_iff {read : Read} {rule : LinkedRule} {id : RuleId}
    {start position : Nat} :
    registry.startOf read rule id start = some position ↔
      if rule.appliesSkip = true ∧ id ≠ registry.skip then
        ∃ skipped, read registry.skip start = some skipped ∧ skipped.stop = position
      else position = start := by
  unfold startOf
  by_cases skips : rule.appliesSkip = true ∧ id ≠ registry.skip
  · rw [if_pos (by simpa using skips), if_pos skips, Option.map_eq_some_iff]
  · rw [if_neg (by simpa using skips), if_neg skips, Option.some.injEq, eq_comm]

theorem startOf_bounds {read : Read} {rule : LinkedRule} {id : RuleId} {start position limit : Nat}
    (bounded : read.Bounded limit)
    (found : registry.startOf read rule id start = some position) :
    start ≤ position ∧ position ≤ max limit start := by
  rw [startOf_eq_some_iff] at found
  split at found
  next =>
    obtain ⟨skipped, here, rfl⟩ := found
    exact bounded here
  next => omega

theorem readWithin_succ {depth : Nat} {id : RuleId} {start : Nat} {m : Match RuleId} :
    registry.readWithin text (depth + 1) id start = some m ↔
      ∃ rule position, registry.rule? id = some rule ∧
        registry.startOf (registry.readWithin text depth) rule id start = some position ∧
        readKind (registry.readWithin text depth) text id position rule.kind = some m := by
  unfold readWithin
  cases registry.rule? id with
  | none => simp
  | some rule =>
      cases begins : registry.startOf (registry.readWithin text depth) rule id start with
      | none => simp [begins]
      | some position => simp [begins]

theorem readWithin_bounded (depth : Nat) :
    (registry.readWithin text depth).Bounded (Text.byteLength text) := by
  induction depth with
  | zero => intro id start m found; cases found
  | succ depth inductionHypothesis =>
      intro id start m found
      obtain ⟨rule, position, _, begins, here⟩ := readWithin_succ.mp found
      have before := startOf_bounds inductionHypothesis begins
      have behind := (readKind_reads inductionHypothesis here).bounds inductionHypothesis
      omega

/-- What passes from the parts of a rule to the rule holds of everything that is read. -/
theorem readWithin_induction {motive : RuleId → Nat → Match RuleId → Prop}
    (step : ∀ (read : Read) (id : RuleId) (rule : LinkedRule) (start position : Nat)
      (m : Match RuleId), read.Bounded (Text.byteLength text) →
      (∀ id start m, read id start = some m → motive id start m) →
      registry.rule? id = some rule → registry.startOf read rule id start = some position →
      rule.kind.Reads read text id position m → motive id start m)
    {depth : Nat} {id : RuleId} {start : Nat} {m : Match RuleId}
    (found : registry.readWithin text depth id start = some m) : motive id start m := by
  induction depth generalizing id start m with
  | zero => cases found
  | succ depth inductionHypothesis =>
      obtain ⟨rule, position, known, begins, here⟩ := readWithin_succ.mp found
      have bounded : (registry.readWithin text depth).Bounded (Text.byteLength text) :=
        readWithin_bounded depth
      exact step _ id rule start position m bounded
        (fun _ _ _ found => inductionHypothesis found) known begins (readKind_reads bounded here)

end Registry

end RuleGrammar
