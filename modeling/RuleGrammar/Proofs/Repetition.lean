import Mathlib.Order.Bounds.Basic
import RuleGrammar.Proofs.Typing

/-!
Owns the meaning of repetitions in terms of chains of steps.

Contract: the first step of a repetition reads its element, and every later one the separator, if there
is one, and the element, from where the step before ended. A repetition succeeds when there is a chain
as long as its lower bound, and gives the longest one that its bounds count. Chains from one offset on
are beginnings of each other, so that the longest one is all there is to know of them; and a step that
ends where it begins can be made again, which is why counting it stands for reading it.
-/

namespace RuleGrammar

/-! ## Chains that are determined step by step -/

section

variable {possible : Nat → Match RuleId → Prop} {start stop : Nat} {ms : List (Match RuleId)}

theorem Chained.take (chain : Chained possible start ms stop) (count : Nat) :
    ∃ middle, Chained possible start (ms.take count) middle := by
  induction chain generalizing count with
  | nil => exact ⟨_, by rw [List.take_nil]; exact .nil⟩
  | cons first _ inductionHypothesis =>
      cases count with
      | zero => exact ⟨_, .nil⟩
      | succ count =>
          obtain ⟨middle, rest⟩ := inductionHypothesis count
          exact ⟨middle, .cons first rest⟩

/-- A chain ends where its last match does. -/
theorem Chained.stop_eq (chain : Chained possible start ms stop) :
    stop = (ms.getLast?.map Match.stop).getD start := by
  induction chain with
  | nil => rfl
  | @cons position stop m ms _ _ inductionHypothesis =>
      rw [inductionHypothesis, List.getLast?_cons]
      cases ms.getLast? <;> rfl

end

/-! ## Chains of steps -/

/-- Successful steps of a repetition from an offset on, one after the other. -/
inductive StepChain (read : Read) (repetition : Repetition RuleId) (id : RuleId) (start : Nat) :
    List (Match RuleId) → Prop where
  | none : StepChain read repetition id start []
  | steps {first : Match RuleId} {others : List (Match RuleId)} {stop : Nat} :
      read repetition.element start = some first → first.success = true →
      Chained (StepReads read repetition id) first.stop others stop →
      StepChain read repetition id start (first :: others)

/-- Every step but the first ends behind the one before. -/
def Advancing (items : List (Match RuleId)) : Prop :=
  (items.map Match.stop).Pairwise (· < ·)

/-- Whether some steps are all counted: those up to the upper bound, and where there is none those up to
the lower bound and those that keep advancing. -/
def Repetition.Counts (repetition : Repetition RuleId) (items : List (Match RuleId)) : Prop :=
  match repetition.max with
  | some most => items.length ≤ most
  | none => items.length ≤ repetition.min ∨ Advancing items

/-- The repetition gives the match of its element instead of a list. -/
def Repetition.Collapses (repetition : Repetition RuleId) (read : Read) (start : Nat) : Prop :=
  repetition.collapseSingle = true ∧ repetition.max = some 1 ∧
    ∃ first, read repetition.element start = some first ∧ first.success = true

/-- The match that a repetition gives from its own start on. -/
structure Repetition.Gives (repetition : Repetition RuleId) (read : Read) (id : RuleId)
    (start : Nat) (m : Match RuleId) : Prop where
  /-- Without room for a step, nothing is read. -/
  nothing : repetition.max = some 0 → m = .emptyAt id start
  accepts : repetition.max ≠ some 0 → (m.success = true ↔
    ∃ items, StepChain read repetition id start items ∧ items.length = repetition.min)
  refuses : m.success = false → m = .fail id start
  /-- No step can be made. -/
  empty : m.success = true → (∀ first, ¬ StepChain read repetition id start [first]) →
    m = .emptyAt id start
  /-- A step can be made. -/
  lists : repetition.max ≠ some 0 → m.success = true →
    ∀ first, StepChain read repetition id start [first] →
      ∃ items stop, StepChain read repetition id start items ∧
        items.getLast?.map Match.stop = some stop ∧
        m = .succeed id ⟨start, stop⟩ (.list items) ∧
        IsGreatest {count | ∃ items, StepChain read repetition id start items ∧
          repetition.Counts items ∧ items.length = count} items.length

section

variable {read : Read} {repetition : Repetition RuleId} {id : RuleId} {start stop limit : Nat}
  {first m : Match RuleId} {items others : List (Match RuleId)}

theorem StepChain.take (chain : StepChain read repetition id start items) (count : Nat) :
    StepChain read repetition id start (items.take count) := by
  cases chain with
  | none =>
      rw [List.take_nil]
      exact .none
  | steps here success steps =>
      cases count with
      | zero => exact .none
      | succ count =>
          obtain ⟨_, rest⟩ := steps.take count
          exact .steps here success rest

/-- All chains begin with the one match of the element. -/
theorem stepChain_cons_iff (here : read repetition.element start = some first)
    (success : first.success = true) :
    StepChain read repetition id start (m :: others) ↔
      m = first ∧ ∃ stop, Chained (StepReads read repetition id) first.stop others stop := by
  constructor
  · intro chain
    cases chain with
    | steps here' _ steps =>
        rw [here, Option.some.injEq] at here'
        subst here'
        exact ⟨rfl, _, steps⟩
  · rintro ⟨rfl, _, steps⟩
    exact .steps here success steps

/-- Where the element fails, there is no step. -/
theorem stepChain_iff_of_failure (here : read repetition.element start = some first)
    (failure : first.success = false) : StepChain read repetition id start items ↔ items = [] := by
  constructor
  · intro chain
    cases chain with
    | none => rfl
    | steps here' success _ =>
        rw [here, Option.some.injEq] at here'
        rw [here', success] at failure
        cases failure
  · rintro rfl
    exact .none

/-! ## The steps that are read -/

theorem readElement_eq_some_iff {element : RuleId} :
    readElement read element start = some (some m) ↔
      read element start = some m ∧ m.success = true := by
  refine ⟨readElement_eq_some, ?_⟩
  rintro ⟨here, success⟩
  rw [readElement, here, Option.map_some, if_pos success]

/-- A step that can be made is the one that is read. -/
theorem readStep_eq_some_iff :
    readStep read repetition id start = some (some m) ↔ StepReads read repetition id start m := by
  refine ⟨readStep_stepReads, ?_⟩
  intro step
  unfold readStep
  cases step with
  | element alone here success =>
      rw [alone]
      exact readElement_eq_some_iff.mpr ⟨here, success⟩
  | separated between separatorHere separatorSuccess elementHere elementSuccess =>
      rw [between]
      simp only [readElement_eq_some_iff.mpr ⟨separatorHere, separatorSuccess⟩,
        readElement_eq_some_iff.mpr ⟨elementHere, elementSuccess⟩, Option.map_some]

/-- The numbers of further steps that are counted, `count` having been made up to `position`. -/
def CountsFurther (least : Nat) (most : Option Nat) (count position : Nat)
    (others : List (Match RuleId)) : Prop :=
  match most with
  | some most => count + others.length ≤ most
  | none => count + others.length ≤ least ∨ (position :: others.map Match.stop).Pairwise (· < ·)

theorem counts_cons_iff :
    repetition.Counts (first :: others) ↔
      CountsFurther repetition.min repetition.max 1 first.stop others := by
  unfold Repetition.Counts CountsFurther Advancing
  rw [List.length_cons, Nat.add_comm]
  rfl

namespace CountsFurther

variable {least count position : Nat} {most : Option Nat}

theorem nil (room : most.all (count ≤ ·) = true) :
    CountsFurther least most count position [] := by
  cases most with
  | none => exact .inr (List.pairwise_singleton _ _)
  | some most => simpa [CountsFurther] using room

/-- A step that advances leaves the steps behind it to be counted from its end on. -/
theorem cons_iff (advances : position < m.stop) :
    CountsFurther least most count position (m :: others) ↔
      CountsFurther least most (count + 1) m.stop others := by
  unfold CountsFurther
  rw [List.length_cons, Nat.add_assoc, Nat.add_comm 1]
  cases most with
  | some most => exact Iff.rfl
  | none =>
      refine or_congr Iff.rfl ?_
      rw [List.map_cons, List.pairwise_cons]
      refine and_iff_right_of_imp fun ascending => ?_
      rw [List.pairwise_cons] at ascending
      exact List.forall_mem_cons.mpr
        ⟨advances, fun stop member => advances.trans (ascending.1 stop member)⟩

/-- Behind a step that stalls, no more is counted than the bounds ask for. -/
theorem length_le (stalls : ¬ position < m.stop)
    (counts : CountsFurther least most count position (m :: others)) :
    (m :: others).length ≤ most.getD least - count := by
  unfold CountsFurther at counts
  cases most with
  | some most =>
      rw [Option.getD_some]
      omega
  | none =>
      rw [Option.getD_none]
      rcases counts with few | ascending
      · omega
      · rw [List.map_cons, List.pairwise_cons] at ascending
        exact absurd (ascending.1 m.stop List.mem_cons_self) stalls

theorem replicate (room : most.all (count ≤ ·) = true) :
    CountsFurther least most count position (List.replicate (most.getD least - count) m) := by
  cases most with
  | some most =>
      simp only [Option.all_some, decide_eq_true_eq] at room
      simp only [CountsFurther, List.length_replicate, Option.getD_some]
      omega
  | none =>
      rcases Nat.lt_or_ge least count with full | few
      · rw [Option.getD_none, Nat.sub_eq_zero_of_le full.le]
        exact nil room
      · refine .inl ?_
        rw [List.length_replicate, Option.getD_none]
        omega

end CountsFurther

/-- The steps that are read are counted, and there is no longer chain of steps that is. -/
theorem readSteps_greatest {least fuel count : Nat} {most : Option Nat} {ms : List (Match RuleId)}
    (room : most.all (count ≤ ·) = true)
    (found : readSteps (readStep read repetition id) least most fuel start count =
      some (ms, stop)) :
    CountsFurther least most count start ms ∧
      ∀ others last, Chained (StepReads read repetition id) start others last →
        CountsFurther least most count start others → others.length ≤ ms.length := by
  induction fuel generalizing start count ms with
  | zero => cases found
  | succ fuel inductionHypothesis =>
      unfold readSteps at found
      split at found
      next more =>
        have moreRoom : most.all (count + 1 ≤ ·) = true := more
        split at found
        next => cases found
        next missed =>
          cases found
          refine ⟨.nil room, ?_⟩
          intro others last chain _
          cases chain with
          | nil => exact le_rfl
          | cons step _ =>
              rw [readStep_eq_some_iff.mpr step] at missed
              cases missed
        next next here =>
          have only : ∀ m, StepReads read repetition id start m → m = next := by
            intro m step
            rw [readStep_eq_some_iff.mpr step] at here
            cases here
            rfl
          split at found
          next advances =>
            split at found
            next => cases found
            next rest further =>
              cases found
              obtain ⟨counts, longest⟩ := inductionHypothesis moreRoom further
              refine ⟨(CountsFurther.cons_iff advances).mpr counts, ?_⟩
              intro others last chain counted
              cases chain with
              | nil => exact Nat.zero_le _
              | cons step later =>
                  obtain rfl := only _ step
                  exact Nat.succ_le_succ
                    (longest _ _ later ((CountsFurther.cons_iff advances).mp counted))
          next stalls =>
            cases found
            refine ⟨.replicate room, ?_⟩
            intro others last chain counted
            cases chain with
            | nil => exact Nat.zero_le _
            | cons step _ =>
                obtain rfl := only _ step
                rw [List.length_replicate]
                exact counted.length_le stalls
      next full =>
        cases found
        refine ⟨.nil room, ?_⟩
        intro others last _ counted
        cases most with
        | none => exact absurd rfl full
        | some most =>
            simp only [Option.all_some, decide_eq_true_eq] at full
            simp only [CountsFurther] at counted
            simp only [List.length_nil]
            omega

/-! ## What a repetition gives -/

namespace Repetition.Gives

theorem of_closed (closed : repetition.max = some 0) :
    repetition.Gives read id start (.emptyAt id start) where
  nothing _ := rfl
  accepts allowed := absurd closed allowed
  refuses failure := by cases failure
  empty _ _ := rfl
  lists allowed := absurd closed allowed

/-- Where the element fails, the lower bound decides. -/
theorem of_failure (allowed : repetition.max ≠ some 0) (here : read repetition.element start = some first)
    (failure : first.success = false) :
    repetition.Gives read id start
      (if repetition.min = 0 then .emptyAt id start else .fail id start) where
  nothing closed := absurd closed allowed
  accepts _ := by
    simp only [stepChain_iff_of_failure here failure, exists_eq_left, List.length_nil]
    by_cases least : repetition.min = 0
    · rw [if_pos least, least]
      exact iff_of_true rfl rfl
    · rw [if_neg least]
      exact iff_of_false Bool.false_ne_true (Ne.symm least)
  refuses := by
    split
    · intro failure
      cases failure
    · exact fun _ => rfl
  empty := by
    split
    · exact fun _ _ => rfl
    · intro success
      cases success
  lists _ _ first chain := by
    rw [stepChain_iff_of_failure here failure] at chain
    cases chain

/-- The longest chain is given if it meets the lower bound, and else nothing. -/
theorem of_steps (allowed : repetition.max ≠ some 0)
    (ordered : ∀ most, repetition.max = some most → repetition.min ≤ most)
    (here : read repetition.element start = some first) (success : first.success = true)
    (steps : Chained (StepReads read repetition id) first.stop others stop)
    (greatest : CountsFurther repetition.min repetition.max 1 first.stop others ∧
      ∀ others' last, Chained (StepReads read repetition id) first.stop others' last →
        CountsFurther repetition.min repetition.max 1 first.stop others' →
        others'.length ≤ others.length) :
    repetition.Gives read id start
      (if others.length + 1 < repetition.min then .fail id start
        else .succeed id ⟨start, stop⟩ (.list (first :: others))) := by
  have chain : StepChain read repetition id start (first :: others) := .steps here success steps
  have longest : ∀ items, StepChain read repetition id start items → repetition.Counts items →
      items.length ≤ others.length + 1 := by
    intro items chain counts
    cases items with
    | nil => exact Nat.zero_le _
    | cons m items =>
        obtain ⟨rfl, last, later⟩ := (stepChain_cons_iff here success).mp chain
        exact Nat.succ_le_succ (greatest.2 items last later (counts_cons_iff.mp counts))
  -- As many steps as the lower bound asks for are always counted.
  have required : ∀ items : List (Match RuleId), items.length = repetition.min →
      repetition.Counts items := by
    intro items length
    unfold Repetition.Counts
    split
    next most bounded => exact length ▸ ordered most bounded
    next => exact .inl length.le
  refine ⟨fun closed => absurd closed allowed, fun _ => ?_, ?_, ?_, fun _ success' => ?_⟩
  · constructor
    · intro success'
      split at success'
      next => cases success'
      next enough =>
        refine ⟨_, chain.take repetition.min, ?_⟩
        rw [List.length_take, List.length_cons, Nat.min_eq_left (by omega)]
    · rintro ⟨items, chain', length⟩
      have few := longest items chain' (required items length)
      rw [if_neg (by omega)]
      rfl
  · split
    · exact fun _ => rfl
    · intro failure
      cases failure
  · exact fun _ impossible => absurd (.steps here success .nil) (impossible first)
  · split at success'
    next => cases success'
    next enough =>
      intro _ _
      rw [if_neg enough]
      refine ⟨_, stop, chain, ?_, rfl, ⟨_, chain, counts_cons_iff.mpr greatest.1, rfl⟩, ?_⟩
      · rw [steps.stop_eq, List.getLast?_cons]
        cases others.getLast? <;> rfl
      · rintro count ⟨items, chain', counts, rfl⟩
        exact longest items chain' counts

end Repetition.Gives

theorem readRepetition_gives {fuel : Nat} (bounded : read.Bounded limit)
    (ordered : ∀ most, repetition.max = some most → repetition.min ≤ most)
    (listed : ¬ repetition.Collapses read start)
    (found : readRepetition read fuel id repetition start = some m) :
    repetition.Gives read id start m := by
  unfold readRepetition at found
  split at found
  next closed =>
    cases found
    exact .of_closed closed
  next allowed =>
    split at found
    next => cases found
    next first here =>
      split at found
      next failure =>
        cases found
        exact .of_failure allowed here (by simpa using failure)
      next success =>
        simp only [Bool.not_eq_true, Bool.not_eq_false'] at success
        split at found
        next single =>
          simp only [Bool.and_eq_true, beq_iff_eq] at single
          exact absurd ⟨single.1, single.2, first, here, success⟩ listed
        next =>
          split at found
          next => cases found
          next others stop further =>
            have room : repetition.max.all (1 ≤ ·) = true := by
              cases bound : repetition.max with
              | none => rfl
              | some most =>
                  have positive : most ≠ 0 := by
                    rintro rfl
                    exact allowed bound
                  simp only [Option.all_some, decide_eq_true_eq]
                  omega
            have gives := Repetition.Gives.of_steps allowed ordered here success
              (readSteps_chained bounded further) (readSteps_greatest room further)
            rw [← apply_ite Option.some, Option.some.injEq] at found
            exact found ▸ gives

theorem readRepetition_of_collapses {fuel : Nat} (collapses : repetition.Collapses read start)
    (found : readRepetition read fuel id repetition start = some m) :
    read repetition.element start = some m := by
  obtain ⟨single, one, first, here, success⟩ := collapses
  unfold readRepetition at found
  simpa [single, one, here, success] using found

end

namespace Registry

variable {registry : Registry} {input : String} {id : RuleId} {start : Nat} {m : Match RuleId}

/-- A repetition begins where its rule does and gives what the chains of its steps from there on say,
except that a single element may stand for itself. -/
theorem readRule_repetition {rules : List RuleDef} {rule : LinkedRule}
    {repetition : Repetition RuleId} (built : ofRules rules = .ok registry)
    (known : registry.rule? id = some rule) (repeats : rule.kind = .repetition repetition)
    (found : registry.readRule input start id = some m) :
    ∃ position, registry.BeginsAt input start id position ∧
      (repetition.Collapses (registry.reader input) position →
        registry.readRule input position repetition.element = some m) ∧
      (¬ repetition.Collapses (registry.reader input) position →
        repetition.Gives (registry.reader input) id position m) := by
  obtain ⟨rule', position, known', begins, body⟩ := readRule_iff.mp found
  rw [known, Option.some.injEq] at known'
  subst known'
  rw [repeats] at body
  refine ⟨position, ⟨rule, known, startOf_eq_some_iff.mp begins⟩, fun collapses => ?_,
    fun listed => ?_⟩
  · exact readRepetition_of_collapses collapses body
  · exact readRepetition_gives (registry.reader_bounded input)
      (fun most => ((wellFormed_of_ofRules built).fits known).bounds repetition most repeats)
      listed body

/-- At least three words, any of which may be missing. -/
def paddedWords : List RuleDef :=
  RuleDef.ofKind "main" (.repetition { element := "maybe", min := 3 }) :: optionalWords

/-- One word and two that are missing, the second of which has been counted and not read. -/
theorem readRule_repetition_paddedWords :
    ∃ registry m, ofRules paddedWords = .ok registry ∧
      registry.readRule "é" 0 ⟨8⟩ = some m ∧ m.stop = 2 ∧ m.items?.map List.length = some 3 ∧
      ({ element := ⟨9⟩, min := 3 } : Repetition RuleId).Gives (registry.reader "é") ⟨8⟩ 0 m := by
  obtain ⟨registry, built, known, read⟩ : ∃ registry, ofRules paddedWords = .ok registry ∧
      registry.rule? ⟨8⟩ = some ⟨"main", false, .repetition { element := ⟨9⟩, min := 3 }⟩ ∧
      (registry.readRule "é" 0 ⟨8⟩).map (fun m => (m.stop, m.items?.map List.length)) =
        some (2, some 3) :=
    exists_ok_of_any (by decide +kernel)
  obtain ⟨m, found, shown⟩ := Option.map_eq_some_iff.mp read
  rw [Prod.mk.injEq] at shown
  obtain ⟨position, ⟨rule, known', begins⟩, _, gives⟩ := readRule_repetition built known rfl found
  rw [known, Option.some.injEq] at known'
  subst known'
  rw [if_neg (by simp)] at begins
  subst begins
  exact ⟨registry, m, built, found, shown.1, shown.2,
    gives fun collapses => Bool.false_ne_true collapses.1⟩

end Registry

end RuleGrammar
