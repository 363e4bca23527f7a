import Mathlib.Data.Finset.Prod
import Mathlib.Order.Interval.Finset.Nat
import Mathlib.Order.Monotone.Basic
import RuleGrammar.Proofs.Reading.Outcome

/-!
Owns the depth of reading: how many rules have to be allowed inside one another.

Contract: more depth never changes a match, and the depth that `Registry.readRule` allows is always
enough (`readRule_eq_some_iff`). Along a chain of rules inside one another no rule comes back at the
same offset, or it would do so for ever, and there are only so many rules and offsets. Hence a read is
what its rule makes of the reads of its parts, with no depth in sight (`readRule_iff`).
-/

namespace RuleGrammar

/-! ## Extending a read -/

/-- `further` gives every match that `read` gives at the offsets of a set that `read` never leaves. -/
structure Read.ExtendedOn (inside : Nat → Prop) (read further : Read) : Prop where
  closed : ∀ ⦃id start m⦄, inside start → read id start = some m → inside m.stop
  agrees : ∀ ⦃id start m⦄, inside start → read id start = some m → further id start = some m

namespace Read.ExtendedOn

variable {inside : Nat → Prop} {read further : Read} {id : RuleId} {start : Nat}
  {m : Match RuleId}

theorem items {items : List RuleId} {outcome : Option (List (Match RuleId) × Nat)}
    (extended : read.ExtendedOn inside further) (here : inside start)
    (found : readItems read items start = some outcome) :
    readItems further items start = some outcome := by
  fun_induction readItems read items start generalizing outcome with
  | case1 => exact found
  | case2 => cases found
  | case3 => cases found
  | case4 item items position first read success broken inductionHypothesis =>
      have rest := inductionHypothesis (extended.closed here read) broken
      simpa [readItems, extended.agrees here read, success, rest] using found
  | case5 item items position first read success children stop reads inductionHypothesis =>
      have rest := inductionHypothesis (extended.closed here read) reads
      simpa [readItems, extended.agrees here read, success, rest] using found
  | case6 item items position first read failure =>
      simpa [readItems, extended.agrees here read, failure] using found

theorem sequence {items : List RuleId} {shape : Shape}
    (extended : read.ExtendedOn inside further) (here : inside start)
    (found : readSequence read id items shape start = some m) :
    readSequence further id items shape start = some m := by
  unfold readSequence at found ⊢
  cases reads : readItems read items start with
  | none => simp [reads] at found
  | some outcome => simpa [reads, extended.items here reads] using found

theorem choice {options : List RuleId} (extended : read.ExtendedOn inside further)
    (here : inside start) (found : readChoice read id options start = some m) :
    readChoice further id options start = some m := by
  fun_induction readChoice read id options start with
  | case1 => exact found
  | case2 => cases found
  | case3 option options start first read success =>
      simpa [readChoice, extended.agrees here read, success] using found
  | case4 option options start first read failure inductionHypothesis =>
      have rest := inductionHypothesis here found
      simpa [readChoice, extended.agrees here read, failure] using rest

theorem optional {inner : RuleId} (extended : read.ExtendedOn inside further)
    (here : inside start) (found : readOptional read id inner start = some m) :
    readOptional further id inner start = some m := by
  obtain ⟨first, read, rfl⟩ := Option.map_eq_some_iff.mp found
  simp [readOptional, extended.agrees here read]

theorem element {element : RuleId} {outcome : Option (Match RuleId)}
    (extended : read.ExtendedOn inside further) (here : inside start)
    (found : readElement read element start = some outcome) :
    readElement further element start = some outcome := by
  obtain ⟨first, read, rfl⟩ := Option.map_eq_some_iff.mp found
  simp [readElement, extended.agrees here read]

theorem step {repetition : Repetition RuleId} {outcome : Option (Match RuleId)}
    (extended : read.ExtendedOn inside further) (here : inside start)
    (found : readStep read repetition id start = some outcome) :
    readStep further repetition id start = some outcome := by
  unfold readStep at found ⊢
  cases between : repetition.separator with
  | none =>
      simp only [between] at found ⊢
      exact extended.element here found
  | some separator =>
      simp only [between] at found ⊢
      cases first : readElement read separator start with
      | none => simp [first] at found
      | some missed =>
          simp only [first, extended.element here first] at found ⊢
          cases missed with
          | none => exact found
          | some m =>
              obtain ⟨read, _⟩ := readElement_eq_some first
              obtain ⟨element, second, rfl⟩ := Option.map_eq_some_iff.mp found
              simp [extended.element (extended.closed here read) second]

theorem step_closed {repetition : Repetition RuleId} (extended : read.ExtendedOn inside further)
    (here : inside start) (step : StepReads read repetition id start m) : inside m.stop := by
  cases step with
  | element _ read _ => exact extended.closed here read
  | separated _ first _ second _ =>
      rw [Repetition.item_stop]
      exact extended.closed (extended.closed here first) second

theorem steps {repetition : Repetition RuleId} {min : Nat} {max : Option Nat}
    {fuel count : Nat} {outcome : List (Match RuleId) × Nat}
    (extended : read.ExtendedOn inside further) (here : inside start)
    (found : readSteps (readStep read repetition id) min max fuel start count =
      some outcome) :
    readSteps (readStep further repetition id) min max fuel start count =
      some outcome := by
  induction fuel generalizing start count outcome with
  | zero => cases found
  | succ fuel inductionHypothesis =>
      unfold readSteps at found ⊢
      split at found
      next more =>
        rw [if_pos more]
        cases first : readStep read repetition id start with
        | none => simp [first] at found
        | some next =>
            rw [extended.step here first]
            rw [first] at found
            cases next with
            | none => exact found
            | some next =>
                simp only at found ⊢
                split at found
                next advances =>
                  rw [if_pos advances]
                  cases rest : readSteps (readStep read repetition id) min
                      max fuel next.stop (count + 1) with
                  | none => simp [rest] at found
                  | some later =>
                      have inside' := extended.step_closed here (readStep_stepReads first)
                      rw [inductionHypothesis inside' rest]
                      rw [rest] at found
                      exact found
                next stalled =>
                  rw [if_neg stalled]
                  exact found
      next full =>
        rw [if_neg full]
        exact found

theorem repetition {repetition : Repetition RuleId} {fuel : Nat}
    (extended : read.ExtendedOn inside further) (here : inside start)
    (found : readRepetition read fuel id repetition start = some m) :
    readRepetition further fuel id repetition start = some m := by
  unfold readRepetition at found ⊢
  split at found
  next empty =>
    rw [if_pos empty]
    exact found
  next nonempty =>
    rw [if_neg nonempty]
    cases first : read repetition.element start with
    | none => simp [first] at found
    | some element =>
        rw [extended.agrees here first]
        simp only [first] at found ⊢
        cases steps : readSteps (readStep read repetition id)
            repetition.min repetition.max fuel element.stop 1 with
        | none =>
            simp only [steps] at found
            split at found
            next failure => rw [if_pos failure]; exact found
            next success =>
              rw [if_neg success]
              split at found
              next single => rw [if_pos single]; exact found
              next => cases found
        | some outcome =>
            rw [extended.steps (extended.closed here first) steps]
            simpa only [steps] using found

theorem kind {text : List Char} {kind : RuleKind RuleId}
    (extended : read.ExtendedOn inside further) (here : inside start)
    (found : readKind read text id start kind = some m) :
    readKind further text id start kind = some m := by
  cases kind with
  | literal literal => exact found
  | pattern pattern => exact found
  | sequence items shape => exact extended.sequence here found
  | choice options => exact extended.choice here found
  | optional inner => exact extended.optional here found
  | repetition repetition => exact extended.repetition here found

theorem startOf {registry : Registry} {rule : LinkedRule} {position : Nat}
    (extended : read.ExtendedOn inside further) (here : inside start)
    (found : registry.startOf read rule id start = some position) :
    registry.startOf further rule id start = some position := by
  rw [Registry.startOf_eq_some_iff] at found ⊢
  split at found
  next skips =>
    obtain ⟨skipped, read, stop⟩ := found
    rw [if_pos skips]
    exact ⟨skipped, extended.agrees here read, stop⟩
  next stays =>
    rw [if_neg stays]
    exact found

theorem startOf_closed {registry : Registry} {rule : LinkedRule} {position : Nat}
    (extended : read.ExtendedOn inside further) (here : inside start)
    (found : registry.startOf read rule id start = some position) : inside position := by
  rw [Registry.startOf_eq_some_iff] at found
  split at found
  next =>
    obtain ⟨skipped, read, rfl⟩ := found
    exact extended.closed here read
  next =>
    rw [found]
    exact here

end Read.ExtendedOn

namespace Registry

variable {registry : Registry} {text : List Char}

/-! ## More depth -/

/-- What carries over from one depth to another carries over to the depths above them. -/
theorem readWithin_succ_of_extended {inside : Nat → Prop} {depth other : Nat} {id : RuleId}
    {start : Nat} {m : Match RuleId}
    (extended : Read.ExtendedOn inside (registry.readWithin text depth)
      (registry.readWithin text other))
    (here : inside start) (found : registry.readWithin text (depth + 1) id start = some m) :
    registry.readWithin text (other + 1) id start = some m := by
  obtain ⟨rule, position, known, begins, body⟩ := readWithin_succ.mp found
  exact readWithin_succ.mpr ⟨rule, position, known, extended.startOf here begins,
    extended.kind (extended.startOf_closed here begins) body⟩

theorem readWithin_succ_of_readWithin {depth : Nat} {id : RuleId} {start : Nat}
    {m : Match RuleId} (found : registry.readWithin text depth id start = some m) :
    registry.readWithin text (depth + 1) id start = some m := by
  induction depth generalizing id start m with
  | zero => cases found
  | succ depth inductionHypothesis =>
      have extended : Read.ExtendedOn (fun _ => True) (registry.readWithin text depth)
          (registry.readWithin text (depth + 1)) :=
        ⟨fun _ _ _ _ _ => trivial, fun _ _ _ _ found => inductionHypothesis found⟩
      exact readWithin_succ_of_extended extended trivial found

theorem readWithin_mono {depth deeper : Nat} (more : depth ≤ deeper) {id : RuleId} {start : Nat}
    {m : Match RuleId} (found : registry.readWithin text depth id start = some m) :
    registry.readWithin text deeper id start = some m := by
  induction more with
  | refl => exact found
  | step _ inductionHypothesis => exact readWithin_succ_of_readWithin inductionHypothesis

/-! ## Enough depth -/

/-- The offsets that a read from `start` on can come to. -/
def offsetsFrom (text : List Char) (start : Nat) : Finset Nat :=
  Finset.Icc start (max (Text.byteLength text) start)

theorem stop_mem_offsetsFrom {depth base position : Nat} {id : RuleId} {m : Match RuleId}
    (here : position ∈ offsetsFrom text base)
    (found : registry.readWithin text depth id position = some m) :
    m.stop ∈ offsetsFrom text base := by
  have bounds := registry.readWithin_bounded depth found
  simp only [offsetsFrom, Finset.mem_Icc] at here ⊢
  omega

/-- The reads, by rule and offset, for which a depth is enough. -/
def answered (registry : Registry) (text : List Char) (base depth : Nat) : Finset (Nat × Nat) :=
  (Finset.range registry.rules.length ×ˢ offsetsFrom text base).filter fun read =>
    (registry.readWithin text depth ⟨read.1⟩ read.2).isSome

theorem mem_answered {base depth index position : Nat} :
    (index, position) ∈ registry.answered text base depth ↔
      position ∈ offsetsFrom text base ∧
        ∃ m, registry.readWithin text depth ⟨index⟩ position = some m := by
  simp only [answered, Finset.mem_filter, Finset.mem_product, Finset.mem_range,
    Option.isSome_iff_exists]
  constructor
  · rintro ⟨⟨_, here⟩, found⟩
    exact ⟨here, found⟩
  · rintro ⟨here, m, found⟩
    refine ⟨⟨?_, here⟩, m, found⟩
    cases depth with
    | zero => cases found
    | succ depth =>
        obtain ⟨rule, _, known, _⟩ := readWithin_succ.mp found
        exact (List.getElem?_eq_some_iff.mp known).1

theorem answered_mono (base : Nat) {depth deeper : Nat} (more : depth ≤ deeper) :
    registry.answered text base depth ⊆ registry.answered text base deeper := by
  rintro ⟨index, position⟩ member
  obtain ⟨here, m, found⟩ := mem_answered.mp member
  exact mem_answered.mpr ⟨here, m, readWithin_mono more found⟩

theorem card_answered_le (base depth : Nat) :
    (registry.answered text base depth).card ≤
      registry.rules.length * (Text.byteLength text + 1) := by
  refine (Finset.card_filter_le _ _).trans ?_
  rw [Finset.card_product, Finset.card_range, offsetsFrom, Nat.card_Icc]
  exact Nat.mul_le_mul_left _ (by omega)

/-- Once a depth adds nothing, no further one does. -/
theorem answered_settled {base depth : Nat}
    (settled : registry.answered text base depth = registry.answered text base (depth + 1)) :
    registry.answered text base (depth + 1) = registry.answered text base (depth + 2) := by
  have extended : Read.ExtendedOn (· ∈ offsetsFrom text base)
      (registry.readWithin text (depth + 1)) (registry.readWithin text depth) := by
    refine ⟨fun _ _ _ here found => stop_mem_offsetsFrom here found, ?_⟩
    intro id position m here found
    have member := mem_answered.mpr ⟨here, m, found⟩
    rw [← settled] at member
    obtain ⟨_, m', before⟩ := mem_answered.mp member
    have same := readWithin_succ_of_readWithin before
    rw [found] at same
    rw [before, same]
  refine (answered_mono base (Nat.le_succ _)).antisymm ?_
  rintro ⟨index, position⟩ member
  obtain ⟨here, m, found⟩ := mem_answered.mp member
  exact mem_answered.mpr
    ⟨here, m, readWithin_succ_of_extended extended here found⟩

theorem card_answered_settled (base depth : Nat)
    (settled : (registry.answered text base depth).card =
      (registry.answered text base (depth + 1)).card) :
    (registry.answered text base (depth + 1)).card =
      (registry.answered text base (depth + 2)).card := by
  have same := Finset.eq_of_subset_of_card_le (answered_mono base (Nat.le_succ depth)) settled.ge
  rw [answered_settled same]

/-- The depth that reading allows answers whatever some depth answers. -/
theorem readWithin_depthBound {depth : Nat} {id : RuleId} {start : Nat} {m : Match RuleId}
    (found : registry.readWithin text depth id start = some m) :
    registry.readWithin text (registry.depthBound text) id start = some m := by
  let bound := registry.rules.length * (Text.byteLength text + 1)
  have enough : bound ≤ registry.depthBound text := by
    simp only [bound, depthBound, Nat.mul_comm registry.rules.length]
    rw [Nat.mul_succ]
    omega
  rcases Nat.le_total depth bound with shallow | deep
  · exact readWithin_mono (shallow.trans enough) found
  · have size := Nat.stabilises_of_monotone
      (f := fun depth => (registry.answered text start depth).card)
      (fun _ _ more => Finset.card_le_card (answered_mono start more))
      (card_answered_le start) (card_answered_settled start) deep
    have same := Finset.eq_of_subset_of_card_le (answered_mono start deep) size.le
    have here : start ∈ offsetsFrom text start := by simp [offsetsFrom]
    have member := mem_answered.mpr ⟨here, m, found⟩
    rw [← same] at member
    obtain ⟨_, m', before⟩ := mem_answered.mp member
    have agreed := readWithin_mono deep before
    rw [found] at agreed
    rw [agreed]
    exact readWithin_mono enough before

/-! ## Reading without a depth -/

section

variable {input : String} {id : RuleId} {start : Nat} {m : Match RuleId}

/-- A read gives a match when some depth is enough for it, and that match. -/
theorem readRule_eq_some_iff :
    registry.readRule input start id = some m ↔
      ∃ depth, registry.readWithin input.toList depth id start = some m :=
  ⟨fun found => ⟨_, found⟩, fun ⟨_, found⟩ => readWithin_depthBound found⟩

/-- Reading an input, as the way in which a rule reads its parts. -/
def reader (registry : Registry) (input : String) : Read :=
  fun id start => registry.readRule input start id

theorem reader_bounded (registry : Registry) (input : String) :
    (registry.reader input).Bounded (Text.byteLength input.toList) :=
  registry.readWithin_bounded _

/-- The match of a rule is what its kind makes of the matches of its parts, behind skippable text. -/
theorem readRule_iff :
    registry.readRule input start id = some m ↔
      ∃ rule position, registry.rule? id = some rule ∧
        registry.startOf (registry.reader input) rule id start = some position ∧
        readKind (registry.reader input) input.toList id position rule.kind = some m := by
  constructor
  · intro found
    obtain ⟨rule, position, known, begins, body⟩ :=
      readWithin_succ.mp (readWithin_succ_of_readWithin found)
    exact ⟨rule, position, known, begins, body⟩
  · rintro ⟨rule, position, known, begins, body⟩
    exact readRule_eq_some_iff.mpr ⟨_, readWithin_succ.mpr ⟨rule, position, known, begins, body⟩⟩

/-- What passes from the parts of a rule to the rule holds of every match. -/
theorem readRule_induction {motive : RuleId → Nat → Match RuleId → Prop}
    (step : ∀ (read : Read) (id : RuleId) (rule : LinkedRule) (start position : Nat)
      (m : Match RuleId), read.Bounded (Text.byteLength input.toList) →
      (∀ id start m, read id start = some m → motive id start m) →
      registry.rule? id = some rule → registry.startOf read rule id start = some position →
      rule.kind.Reads read input.toList id position m → motive id start m)
    (found : registry.readRule input start id = some m) : motive id start m :=
  readWithin_induction step found

/-- The same, where the match itself is known to be that of its rule. -/
theorem readRule_inductionFound {motive : RuleId → Nat → Match RuleId → Prop}
    (step : ∀ (read : Read) (id : RuleId) (rule : LinkedRule) (start position : Nat)
      (m : Match RuleId), read.Bounded (Text.byteLength input.toList) →
      (∀ id start m, read id start = some m → motive id start m) →
      registry.readRule input start id = some m → registry.rule? id = some rule →
      registry.startOf read rule id start = some position →
      rule.kind.Reads read input.toList id position m → motive id start m)
    (found : registry.readRule input start id = some m) : motive id start m := by
  obtain ⟨depth, within⟩ := readRule_eq_some_iff.mp found
  clear found
  induction depth generalizing id start m with
  | zero => cases within
  | succ depth inductionHypothesis =>
      obtain ⟨rule, position, known, begins, here⟩ := readWithin_succ.mp within
      exact step _ id rule start position m (registry.readWithin_bounded depth)
        (fun _ _ _ part => inductionHypothesis part) (readRule_eq_some_iff.mpr ⟨_, within⟩) known
        begins (readKind_reads (registry.readWithin_bounded depth) here)

end

end Registry

end RuleGrammar
