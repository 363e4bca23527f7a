import Mathlib.Data.Fintype.Basic
import Mathlib.Data.Set.Basic
import Mathlib.Logic.Relation
import Mathlib.Order.WellFounded
import RuleGrammar.Proofs.Registration
import RuleGrammar.Proofs.Reading.Depth

/-!
Owns the termination of reading: in a grammar without left recursion every read gives a match.

A rule may read a part at its own start, before anything is consumed. Such a call is a left call. The
parts that can be read only after something was consumed have less text before them, and left calls
go round in no circle; so reads end. Which parts come after consumed text is judged by a set of
rules that has in it all that may succeed without consuming (`Registry.CoversEmpty`); the rules outside
of it consume whenever they succeed.
-/

namespace RuleGrammar

/-! ## Rules that may consume nothing -/

/-- The regular expression has a match without characters in some text. -/
def Pattern.MatchesEmpty (pattern : Pattern) : Prop :=
  ∃ text found, pattern.regex.search text = some found ∧ found.matched = []

/-- Whether a rule may succeed without consuming, if the rules of a set may. -/
def RuleKind.MayBeEmpty (nullable : Set RuleId) : RuleKind RuleId → Prop
  | .literal text => text = ""
  | .pattern source => source.MatchesEmpty
  | .sequence items _ => ∀ item ∈ items, item ∈ nullable
  | .choice options => ∃ option ∈ options, option ∈ nullable
  | .optional _ => True
  | .repetition rep => rep.min = 0 ∨ rep.element ∈ nullable

/-- The parts that a rule may read at its own start. -/
def RuleKind.Begins (nullable : Set RuleId) (part : RuleId) : RuleKind RuleId → Prop
  | .literal _ => False
  | .pattern _ => False
  | .sequence items _ =>
      ∃ before after, items = before ++ part :: after ∧ ∀ item ∈ before, item ∈ nullable
  | .choice options => part ∈ options
  | .optional inner => part = inner
  | .repetition rep =>
      part = rep.element ∨ (rep.separator = some part ∧ rep.element ∈ nullable)

/-- A set with every rule in it that may succeed without consuming. -/
def Registry.CoversEmpty (registry : Registry) (nullable : Set RuleId) : Prop :=
  ∀ id rule, registry.rule? id = some rule → rule.kind.MayBeEmpty nullable → id ∈ nullable

/-- One rule may read another at its own start, skippable text included. -/
def Registry.LeftCalls (registry : Registry) (nullable : Set RuleId) (caller callee : RuleId) : Prop :=
  ∃ rule, registry.rule? caller = some rule ∧
    ((rule.appliesSkip = true ∧ caller ≠ registry.skip ∧ callee = registry.skip) ∨
      rule.kind.Begins nullable callee)

/-- The rules outside of a set consume when they succeed. -/
def Read.Consumes (nullable : Set RuleId) (read : Read) : Prop :=
  ∀ ⦃id start m⦄, id ∉ nullable → read id start = some m → m.success = true → start < m.stop

section

variable {nullable : Set RuleId} {read : Read} {text : List Char} {limit : Nat}

theorem Pattern.matchesEmpty_of_read? {pattern : Pattern} {value : Value}
    (found : pattern.read? text = some (value, 0)) : pattern.MatchesEmpty := by
  simp only [Pattern.read?, Option.bind_eq_bind, Option.bind_eq_some_iff] at found
  obtain ⟨match', search, _, _, same⟩ := found
  simp only [Option.some.injEq, Prod.mk.injEq] at same
  exact ⟨text, match', search, Text.byteLength_eq_zero.mp (by omega)⟩

theorem ItemsRead.advances {items : List RuleId} {start stop : Nat} {ms : List (Match RuleId)}
    (bounded : read.Bounded limit) (consumes : read.Consumes nullable)
    (reads : ItemsRead read items start ms stop) (solid : ∃ item ∈ items, item ∉ nullable) :
    start < stop := by
  induction reads with
  | nil => simp at solid
  | @cons item items position stop m ms here success later inductionHypothesis =>
      have first := bounded here
      have rest := later.chained.bounds fun _ _ ⟨_, _, found⟩ => bounded found
      by_cases empty : item ∈ nullable
      · have solidRest : ∃ item ∈ items, item ∉ nullable := by
          obtain ⟨other, member, outside⟩ := solid
          rcases List.mem_cons.mp member with rfl | member
          · exact absurd empty outside
          · exact ⟨other, member, outside⟩
        have further := inductionHypothesis solidRest
        omega
      · have moved := consumes empty here success
        omega

/-- A rule that is not taken to succeed without consuming does not. -/
theorem RuleKind.Reads.advances {id : RuleId} {start size : Nat} {rule : LinkedRule}
    {m : Match RuleId} (bounded : read.Bounded (Text.byteLength text))
    (consumes : read.Consumes nullable) (fits : rule.Fits size)
    (reads : rule.kind.Reads read text id start m) (success : m.success = true)
    (solid : ¬ rule.kind.MayBeEmpty nullable) : start < m.stop := by
  generalize same : rule.kind = kind at reads solid
  cases reads with
  | @literal literal rest _ =>
      have positive : Text.byteLength literal.toList ≠ 0 := by
        rw [Ne, Text.byteLength_eq_zero, String.toList_eq_nil_iff]
        exact solid
      simp only [Match.succeed, Match.stop]
      omega
  | @pattern pattern tail value length _ pieces =>
      have positive : length ≠ 0 := by
        rintro rfl
        exact solid (Pattern.matchesEmpty_of_read? pieces)
      simp only [Match.succeed, Match.stop]
      omega
  | @sequence items shape children stop itemsRead =>
      rcases shape.build_stop id ⟨start, stop⟩ children with ends | missed
      · rw [ends]
        exact itemsRead.advances bounded consumes (by simpa [MayBeEmpty] using solid)
      · rw [missed] at success
        cases success
  | @choice options option _ member here success =>
      exact consumes (fun empty => solid ⟨option, member, empty⟩) here success
  | optional _ _ => exact absurd trivial solid
  | optionalMissed => exact absurd trivial solid
  | @repetition repetition first others stop here began steps =>
      have moved := consumes (fun empty => solid (.inr empty)) here began
      have rest := steps.bounds fun _ _ step => step.bounds bounded
      simp only [Match.succeed, Match.stop] at moved rest ⊢
      omega
  | repetitionSingle here success =>
      exact consumes (fun empty => solid (.inr empty)) here success
  | @repetitionEmpty repetition none =>
      have least : repetition.min = 0 := by
        rcases none with none | least
        · exact Nat.le_zero.mp (fits.bounds repetition 0 same none)
        · exact least
      exact absurd (.inl least) solid
  | literalMissed | patternMissed | sequenceMissed | choiceMissed | repetitionMissed =>
      cases success

end

/-! ## Left calls, listed -/

section

variable {nullable : Set RuleId} [DecidablePred (· ∈ nullable)] {registry : Registry}

/-- The items up to the first that consumes. -/
def leadingItems (nullable : Set RuleId) [DecidablePred (· ∈ nullable)] :
    List RuleId → List RuleId
  | [] => []
  | item :: items => if item ∈ nullable then item :: leadingItems nullable items else [item]

theorem mem_leadingItems_iff {part : RuleId} {items : List RuleId} :
    part ∈ leadingItems nullable items ↔
      ∃ before after, items = before ++ part :: after ∧ ∀ item ∈ before, item ∈ nullable := by
  constructor
  · intro member
    induction items with
    | nil => cases member
    | cons item items inductionHypothesis =>
        unfold leadingItems at member
        split at member
        next empty =>
          rcases List.mem_cons.mp member with rfl | later
          · exact ⟨[], items, rfl, by simp⟩
          · obtain ⟨before, after, rfl, empties⟩ := inductionHypothesis later
            exact ⟨item :: before, after, rfl, List.forall_mem_cons.mpr ⟨empty, empties⟩⟩
        next =>
          cases List.mem_singleton.mp member
          exact ⟨[], items, rfl, by simp⟩
  · rintro ⟨before, after, rfl, empties⟩
    induction before with
    | nil =>
        simp only [List.nil_append, leadingItems]
        split <;> simp
    | cons item before inductionHypothesis =>
        obtain ⟨empty, empties⟩ := List.forall_mem_cons.mp empties
        simp [leadingItems, empty, inductionHypothesis empties]

/-- The parts that a rule may read at its own start, one by one. -/
def RuleKind.firstParts (nullable : Set RuleId) [DecidablePred (· ∈ nullable)] :
    RuleKind RuleId → List RuleId
  | .literal _ => []
  | .pattern _ => []
  | .sequence items _ => leadingItems nullable items
  | .choice options => options
  | .optional inner => [inner]
  | .repetition rep =>
      rep.element :: if rep.element ∈ nullable then rep.separator.toList else []

theorem RuleKind.begins_iff_mem_firstParts {part : RuleId} {kind : RuleKind RuleId} :
    kind.Begins nullable part ↔ part ∈ kind.firstParts nullable := by
  cases kind with
  | literal text => simp [Begins, firstParts]
  | pattern source => simp [Begins, firstParts]
  | sequence items shape => simp [Begins, firstParts, mem_leadingItems_iff]
  | choice options => simp [Begins, firstParts]
  | optional inner => simp [Begins, firstParts]
  | repetition rep =>
      by_cases empty : rep.element ∈ nullable
      · simp [Begins, firstParts, empty]
      · simp [Begins, firstParts, empty]

instance {part : RuleId} {kind : RuleKind RuleId} : Decidable (kind.Begins nullable part) :=
  decidable_of_iff _ RuleKind.begins_iff_mem_firstParts.symm

/-- Left calls that all go down in some ranking go round in no circle. -/
theorem Registry.acyclic_of_rank (rank : RuleId → Nat)
    (descends : ∀ id rule, registry.rule? id = some rule →
      (rule.appliesSkip = true → id ≠ registry.skip → rank registry.skip < rank id) ∧
      ∀ part ∈ rule.kind.firstParts nullable, rank part < rank id) (id : RuleId) :
    ¬ Relation.TransGen (registry.LeftCalls nullable) id id := by
  have down : ∀ caller callee, registry.LeftCalls nullable caller callee →
      rank callee < rank caller := by
    rintro caller callee ⟨rule, known, ⟨skips, different, rfl⟩ | first⟩
    · exact (descends caller rule known).1 skips different
    · exact (descends caller rule known).2 callee (RuleKind.begins_iff_mem_firstParts.mp first)
  have below : ∀ caller callee, Relation.TransGen (registry.LeftCalls nullable) caller callee →
      rank callee < rank caller := by
    intro caller callee calls
    induction calls with
    | single call => exact down _ _ call
    | tail _ call inductionHypothesis => exact (down _ _ call).trans inductionHypothesis
  exact fun circle => Nat.lt_irrefl _ (below id id circle)

end

/-! ## Reads that have their parts -/

section

variable {nullable : Set RuleId} {read : Read} {text : List Char} {limit : Nat}

theorem readItems_isSome {items : List RuleId} {start : Nat} (bounded : read.Bounded limit)
    (consumes : read.Consumes nullable)
    (defined : ∀ before part after, items = before ++ part :: after → ∀ position,
      start ≤ position → position ≤ max limit start →
      (start < position ∨ ∀ item ∈ before, item ∈ nullable) → (read part position).isSome) :
    (readItems read items start).isSome := by
  induction items generalizing start with
  | nil => rfl
  | cons item items inductionHypothesis =>
      obtain ⟨m, here⟩ := Option.isSome_iff_exists.mp
        (defined [] item items rfl start le_rfl (Nat.le_max_right _ _) (.inr (by simp)))
      have bounds := bounded here
      unfold readItems
      simp only [here]
      by_cases success : m.success = true
      · have rest : (readItems read items m.stop).isSome := by
          refine inductionHypothesis ?_
          intro before part after same position low high free
          refine defined (item :: before) part after (by rw [same]; rfl) position (by omega)
            (by omega) ?_
          by_cases empty : item ∈ nullable
          · rcases free with moved | empties
            · exact .inl (by omega)
            · exact .inr (List.forall_mem_cons.mpr ⟨empty, empties⟩)
          · have moved := consumes empty here success
            exact .inl (by omega)
        obtain ⟨outcome, later⟩ := Option.isSome_iff_exists.mp rest
        rw [if_pos success, later]
        cases outcome <;> rfl
      · rw [if_neg success]
        rfl

theorem readChoice_isSome {id : RuleId} {options : List RuleId} {start : Nat}
    (defined : ∀ option ∈ options, (read option start).isSome) :
    (readChoice read id options start).isSome := by
  induction options with
  | nil => rfl
  | cons option options inductionHypothesis =>
      obtain ⟨m, here⟩ := Option.isSome_iff_exists.mp (defined option (by simp))
      have rest := inductionHypothesis fun option member => defined option (by simp [member])
      unfold readChoice
      simp only [here]
      split
      · rfl
      · exact rest

/-- Steps that move forward come to an end, and one that does not is the last. -/
theorem readSteps_isSome {step : Nat → Option (Option (Match RuleId))} {min : Nat}
    {max : Option Nat} {fuel position count base bound : Nat}
    (defined : ∀ position, base ≤ position → position ≤ bound → (step position).isSome)
    (within : ∀ position m, position ≤ bound → step position = some (some m) → m.stop ≤ bound)
    (low : base ≤ position) (high : position ≤ bound) (enough : bound < position + fuel) :
    (readSteps step min max fuel position count).isSome := by
  induction fuel generalizing position count with
  | zero => omega
  | succ fuel inductionHypothesis =>
      unfold readSteps
      split
      next =>
        obtain ⟨outcome, here⟩ := Option.isSome_iff_exists.mp (defined position low high)
        rw [here]
        cases outcome with
        | none => rfl
        | some next =>
            simp only
            split
            next advances =>
              have inside := within position next high here
              have rest : (readSteps step min max fuel next.stop (count + 1)).isSome :=
                inductionHypothesis (by omega) inside (by omega)
              obtain ⟨later, found⟩ := Option.isSome_iff_exists.mp rest
              rw [found]
              rfl
            next => rfl
      next => rfl

theorem readStep_isSome {repetition : Repetition RuleId} {id : RuleId} {position bound : Nat}
    (separator : ∀ between, repetition.separator = some between → (read between position).isSome)
    (element : ∀ later, position ≤ later → later ≤ bound →
      (read repetition.element later).isSome)
    (within : ∀ id m, read id position = some m → position ≤ m.stop ∧ m.stop ≤ bound)
    (high : position ≤ bound) :
    (readStep read repetition id position).isSome := by
  unfold readStep
  split
  next => simpa [readElement] using element position le_rfl high
  next between here =>
    obtain ⟨m, found⟩ := Option.isSome_iff_exists.mp (separator between here)
    have inside := within between m found
    by_cases success : m.success = true
    · simpa [readElement, found, success] using element m.stop inside.1 inside.2
    · simp [readElement, found, success]

/-- The steps behind the first element need the element anywhere, and the separator behind it. -/
theorem readSteps_readStep_isSome {repetition : Repetition RuleId} {id : RuleId}
    {least count base : Nat} {most : Option Nat} (bounded : read.Bounded limit)
    (separator : ∀ between, repetition.separator = some between → ∀ position, base ≤ position →
      position ≤ max limit base → (read between position).isSome)
    (element : ∀ position, base ≤ position → position ≤ max limit base →
      (read repetition.element position).isSome) :
    (readSteps (readStep read repetition id) least most (limit + 1) base count).isSome := by
  refine readSteps_isSome ?_ ?_ le_rfl (Nat.le_max_right limit base) (by omega)
  · intro position low high
    refine readStep_isSome (fun between here => separator between here position low high)
      (fun later after inside => element later (low.trans after) inside) ?_ high
    intro part m found
    have inside := bounded found
    omega
  · intro position m high found
    have inside := (readStep_stepReads found).bounds bounded
    omega

theorem readRepetition_isSome {repetition : Repetition RuleId} {id : RuleId} {start : Nat}
    (bounded : read.Bounded (Text.byteLength text)) (consumes : read.Consumes nullable)
    (defined : ∀ part ∈ (RuleKind.repetition repetition).dependencies, ∀ position,
      start ≤ position → position ≤ max (Text.byteLength text) start →
      (start < position ∨ (RuleKind.repetition repetition).Begins nullable part) →
      (read part position).isSome) :
    (readRepetition read (Text.byteLength text + 1) id repetition start).isSome := by
  have element : ∀ position, start ≤ position → position ≤ max (Text.byteLength text) start →
      (read repetition.element position).isSome := fun position low high =>
    defined _ (by simp [RuleKind.dependencies]) position low high (.inr (.inl rfl))
  unfold readRepetition
  split
  next => rfl
  next =>
    obtain ⟨first, here⟩ := Option.isSome_iff_exists.mp
      (element start le_rfl (Nat.le_max_right _ _))
    have bounds := bounded here
    rw [here]
    simp only
    split
    next => rfl
    next success =>
      simp only [Bool.not_eq_true, Bool.not_eq_false'] at success
      split
      next => rfl
      next =>
        have steps : (readSteps (readStep read repetition id) repetition.min repetition.max
            (Text.byteLength text + 1) first.stop 1).isSome := by
          refine readSteps_readStep_isSome bounded ?_ fun position low high =>
            element position (by omega) (by omega)
          intro between separated position low high
          refine defined between (by simp [RuleKind.dependencies, separated]) position
            (by omega) (by omega) ?_
          -- At the start again, the element has consumed nothing.
          by_cases empty : repetition.element ∈ nullable
          · exact .inr (.inr ⟨separated, empty⟩)
          · have moved := consumes empty here success
            exact .inl (by omega)
        obtain ⟨outcome, found⟩ := Option.isSome_iff_exists.mp steps
        rw [found]
        simp only
        split <;> rfl

/-- A rule gives a match if its parts do, the left ones at its start and all of them behind it. -/
theorem readKind_isSome {kind : RuleKind RuleId} {id : RuleId} {start : Nat}
    (bounded : read.Bounded (Text.byteLength text)) (consumes : read.Consumes nullable)
    (defined : ∀ part ∈ kind.dependencies, ∀ position, start ≤ position →
      position ≤ max (Text.byteLength text) start →
      (start < position ∨ kind.Begins nullable part) → (read part position).isSome) :
    (readKind read text id start kind).isSome := by
  cases kind with
  | literal literal => rfl
  | pattern pattern => rfl
  | sequence items shape =>
      have reads : (readItems read items start).isSome := by
        refine readItems_isSome bounded consumes ?_
        intro before part after same position low high free
        exact defined part (by simp [RuleKind.dependencies, same]) position low high
          (free.imp_right fun empties => ⟨before, after, same, empties⟩)
      obtain ⟨outcome, found⟩ := Option.isSome_iff_exists.mp reads
      simp only [readKind, readSequence, found]
      cases outcome <;> rfl
  | choice options =>
      exact readChoice_isSome fun option member =>
        defined option member start le_rfl (Nat.le_max_right _ _) (.inr member)
  | optional inner =>
      have here := defined inner (by simp [RuleKind.dependencies]) start le_rfl
        (Nat.le_max_right _ _) (.inr rfl)
      simpa [readKind, readOptional] using here
  | repetition repetition => exact readRepetition_isSome bounded consumes defined

end

/-! ## Whole reads -/

namespace Registry

variable {registry : Registry} {nullable : Set RuleId} {input : String}

theorem reader_consumes (wellFormed : registry.WellFormed) (covers : registry.CoversEmpty nullable) :
    (registry.reader input).Consumes nullable := by
  intro id start m solid found success
  refine readRule_induction (motive := fun id start m => id ∉ nullable → m.success = true →
    start < m.stop) ?_ found solid success
  intro read id rule start position m bounded consumes known begins reads solid success
  have before := startOf_bounds bounded begins
  have moved := reads.advances bounded (fun _ _ _ outside here => consumes _ _ _ here outside)
    (wellFormed.fits known) success (fun empty => solid (covers id rule known empty))
  omega

/-- Left calls between finitely many rules come to an end if they go round in no circle. -/
theorem wellFounded_leftCalls (size : Nat)
    (acyclic : ∀ id, ¬ Relation.TransGen (registry.LeftCalls nullable) id id) :
    WellFounded fun callee caller : Fin size =>
      Relation.TransGen (registry.LeftCalls nullable) ⟨caller⟩ ⟨callee⟩ := by
  have transitive : IsTrans (Fin size) fun callee caller =>
      Relation.TransGen (registry.LeftCalls nullable) ⟨caller⟩ ⟨callee⟩ :=
    ⟨fun _ _ _ first second => second.trans first⟩
  have irreflexive : Std.Irrefl fun callee caller : Fin size =>
      Relation.TransGen (registry.LeftCalls nullable) ⟨caller⟩ ⟨callee⟩ :=
    ⟨fun index => acyclic ⟨index⟩⟩
  exact Finite.wellFounded_of_trans_of_irrefl _

/-- A rule gives a match if the rules that it calls at its start do, and all rules behind it. -/
theorem readRule_isSome_of_calls {id : RuleId} {start : Nat} (wellFormed : registry.WellFormed)
    (covers : registry.CoversEmpty nullable) (known : id.index < registry.rules.length)
    (left : ∀ callee, callee.index < registry.rules.length →
      registry.LeftCalls nullable id callee → (registry.readRule input start callee).isSome)
    (behind : ∀ callee, callee.index < registry.rules.length → ∀ position, start < position →
      position ≤ max (Text.byteLength input.toList) start →
      (registry.readRule input position callee).isSome) :
    (registry.readRule input start id).isSome := by
  have bounded := registry.reader_bounded input
  obtain ⟨rule, here⟩ : ∃ rule, registry.rule? id = some rule :=
    ⟨_, List.getElem?_eq_getElem known⟩
  have references := (wellFormed.fits here).references
  obtain ⟨position, begins⟩ :
      ∃ position, registry.startOf (registry.reader input) rule id start = some position := by
    by_cases skips : rule.appliesSkip = true ∧ id ≠ registry.skip
    · obtain ⟨skipped, found⟩ := Option.isSome_iff_exists.mp
        (left registry.skip wellFormed.skip ⟨rule, here, .inl ⟨skips.1, skips.2, rfl⟩⟩)
      exact ⟨_, startOf_eq_some_iff.mpr (by rw [if_pos skips]; exact ⟨skipped, found, rfl⟩)⟩
    · exact ⟨_, startOf_eq_some_iff.mpr (by rw [if_neg skips])⟩
  have bounds := startOf_bounds bounded begins
  have body : (readKind (registry.reader input) input.toList id position rule.kind).isSome := by
    refine readKind_isSome bounded (reader_consumes wellFormed covers) ?_
    intro part member later low high free
    by_cases moved : start < later
    · exact behind part (references part member) later moved (by omega)
    · have still : later = start := by omega
      subst still
      rcases free with moved | first
      · omega
      · exact left part (references part member) ⟨rule, here, .inr first⟩
  obtain ⟨m, found⟩ := Option.isSome_iff_exists.mp body
  exact Option.isSome_iff_exists.mpr ⟨m, readRule_iff.mpr ⟨rule, position, here, begins, found⟩⟩

/-- Without left recursion every rule gives a match at every offset of every input. -/
theorem exists_readRule {rules : List RuleDef} (built : ofRules rules = .ok registry)
    (covers : registry.CoversEmpty nullable)
    (acyclic : ∀ id, ¬ Relation.TransGen (registry.LeftCalls nullable) id id)
    (input : String) (start : Nat) (id : RuleId) (known : id.index < registry.rules.length) :
    ∃ m, registry.readRule input start id = some m := by
  have wellFormed := wellFormed_of_ofRules built
  have circleFree := wellFounded_leftCalls registry.rules.length acyclic
  rw [← Option.isSome_iff_exists]
  -- Outer induction on the text that is left, inner one along left calls.
  induction left : Text.byteLength input.toList - start using Nat.strong_induction_on
    generalizing start id with
  | _ remaining shorter =>
      have here : ∀ index : Fin registry.rules.length,
          (registry.readRule input start ⟨index⟩).isSome := by
        intro index
        induction index using circleFree.induction with
        | _ index called =>
            refine readRule_isSome_of_calls wellFormed covers index.isLt ?_ ?_
            · intro callee inside call
              exact called ⟨callee.index, inside⟩ (.single call)
            · intro callee inside position moved high
              exact shorter _ (by omega) position callee inside rfl
      exact here ⟨id.index, known⟩

end Registry

/-- Parentheses inside one another; the rules refer to each other in a circle that consumes. -/
def parentheses : List RuleDef :=
  [RuleDef.ofKind "nest" (.sequence ["open", "inside", "close"] .all),
    RuleDef.ofKind "inside" (.optional "nest"),
    RuleDef.ofKind "open" (.literal "("),
    RuleDef.ofKind "close" (.literal ")")]

/-- Only the opening parenthesis is known to consume, and that is enough. -/
theorem Registry.exists_readRule_parentheses :
    ∃ registry m, ofRules parentheses = .ok registry ∧
      registry.CoversEmpty {id | id ≠ ⟨10⟩} ∧
      (∀ id, ¬ Relation.TransGen (registry.LeftCalls {id | id ≠ ⟨10⟩}) id id) ∧
      registry.readRule "( (" 0 ⟨8⟩ = some m := by
  let rank (id : RuleId) : Nat := [3, 1, 1, 1, 1, 1, 2, 1, 2, 3, 1, 1, 0].getD id.index 0
  obtain ⟨registry, built, skip, size, opening, descends⟩ : ∃ registry,
      ofRules parentheses = .ok registry ∧
      registry.skip = ⟨12⟩ ∧ registry.rules.length = 13 ∧
      (registry.rules[10]?.map Rule.kind) = some (.literal "(") ∧
      ∀ entry ∈ registry.rules.zipIdx,
        (entry.1.appliesSkip = true → entry.2 ≠ 12 → rank ⟨12⟩ < rank ⟨entry.2⟩) ∧
        ∀ part ∈ entry.1.kind.firstParts {id | id ≠ ⟨10⟩}, rank part < rank ⟨entry.2⟩ :=
    exists_ok_of_any (by decide +kernel)
  have covers : registry.CoversEmpty {id | id ≠ ⟨10⟩} := by
    rintro id rule known empty rfl
    rw [show registry.rules[10]? = some rule from known] at opening
    simp only [Option.map_some, Option.some.injEq] at opening
    rw [opening] at empty
    simp [RuleKind.MayBeEmpty] at empty
  have acyclic : ∀ id, ¬ Relation.TransGen (registry.LeftCalls {id | id ≠ ⟨10⟩}) id id := by
    refine acyclic_of_rank rank fun id rule known => ?_
    have below := descends (rule, id.index) (List.mem_zipIdx_iff_getElem?.mpr known)
    rw [skip]
    exact ⟨fun skips different => below.1 skips fun same => different (congrArg RuleId.mk same),
      below.2⟩
  obtain ⟨m, found⟩ := exists_readRule built covers acyclic "( (" 0 ⟨8⟩ (by rw [size]; decide)
  exact ⟨registry, m, built, covers, acyclic, found⟩

end RuleGrammar
