import RuleGrammar.Proofs.Registration
import RuleGrammar.Proofs.Reading.Depth
import RuleGrammar.Proofs.Tree

/-!
Owns where the nodes of a match tree lie in the text.

Read at a boundary, every node covers text behind the start of the read, inside the node around it,
and in order with its neighbours where the node around it lists all that was read. Read anywhere
else, no node covers anything: all of them are at the start of the read.
-/

namespace RuleGrammar

/-- The children of a match of this rule are all that was read for it, in order. -/
def Registry.Collects (registry : Registry) (id : RuleId) : Prop :=
  ∃ rule, registry.rule? id = some rule ∧
    ((∃ items, rule.kind = .sequence items .all) ∨ ∃ repetition, rule.kind = .repetition repetition)

/-- Where a node lies that was read from `start` on, and how its children lie in it. -/
structure Match.Placed (registry : Registry) (text : List Char) (start : Nat)
    (node : Match RuleId) : Prop where
  behind : start ≤ node.start
  ordered : node.start ≤ node.stop
  within : node.stop ≤ Text.byteLength text
  startBoundary : Text.IsBoundary text node.start
  stopBoundary : Text.IsBoundary text node.stop
  covers : (Text.slice text node.span).isSome
  nested : ∀ child ∈ node.children, node.span.contains child.span
  arranged : registry.Collects node.rule →
    node.children.Pairwise fun child next => child.stop ≤ next.start

/-- A node that covers nothing, at the start of its read. -/
def Match.Still (start : Nat) (node : Match RuleId) : Prop :=
  node.span = Span.emptyAt start

section

variable {registry : Registry} {text : List Char} {start : Nat}

/-! ## Single nodes -/

namespace Match.Placed

theorem mono {base : Nat} {node : Match RuleId} (before : base ≤ start)
    (placed : node.Placed registry text start) : node.Placed registry text base :=
  { placed with behind := before.trans placed.behind }

/-- The ends of a node decide on its place. -/
theorem ofEnds {node : Match RuleId} (behind : start ≤ node.start)
    (ordered : node.start ≤ node.stop) (startBoundary : Text.IsBoundary text node.start)
    (stopBoundary : Text.IsBoundary text node.stop)
    (inside : ∀ child ∈ node.children, node.start ≤ child.start ∧ child.stop ≤ node.stop)
    (arranged : registry.Collects node.rule →
      node.children.Pairwise fun child next => child.stop ≤ next.start) :
    node.Placed registry text start where
  behind := behind
  ordered := ordered
  within := stopBoundary.le
  startBoundary := startBoundary
  stopBoundary := stopBoundary
  covers := Text.slice_isSome ordered startBoundary stopBoundary
  nested := fun child member => decide_eq_true (inside child member)
  arranged := arranged

end Match.Placed

theorem Match.Everywhere.placed_mono {base : Nat} {m : Match RuleId} (before : base ≤ start)
    (placed : m.Everywhere (Match.Placed registry text start)) :
    m.Everywhere (Match.Placed registry text base) :=
  placed.mono fun _ here => here.mono before

/-- A node around matches that are placed behind its start and end before its stop. -/
theorem everywhere_placed_succeed {id : RuleId} {stop : Nat} {payload : Payload (Match RuleId)}
    (ordered : start ≤ stop) (startBoundary : Text.IsBoundary text start)
    (stopBoundary : Text.IsBoundary text stop)
    (inside : ∀ child ∈ (Match.succeed id ⟨start, stop⟩ payload).children,
      child.Everywhere (Match.Placed registry text start) ∧ child.stop ≤ stop)
    (arranged : registry.Collects id → (Match.succeed id ⟨start, stop⟩ payload).children.Pairwise
      fun child next => child.stop ≤ next.start) :
    (Match.succeed id ⟨start, stop⟩ payload).Everywhere (Match.Placed registry text start) := by
  refine .node (.ofEnds le_rfl ordered startBoundary stopBoundary ?_ arranged) ?_
  · intro child member
    have placed := inside child member
    exact ⟨placed.1.root.behind, placed.2⟩
  · intro child member
    exact (inside child member).1

/-- A node that covers nothing and has nothing in it. -/
theorem everywhere_placed_emptyAt (id : RuleId) (boundary : Text.IsBoundary text start) :
    (Match.emptyAt id start).Everywhere (Match.Placed registry text start) :=
  .node (.ofEnds le_rfl le_rfl boundary boundary (by simp) (by simp)) (by simp)

theorem everywhere_placed_fail (id : RuleId) (boundary : Text.IsBoundary text start) :
    (Match.fail id start).Everywhere (Match.Placed registry text start) :=
  .node (.ofEnds le_rfl le_rfl boundary boundary (by simp) (by simp)) (by simp)

/-- A match stretched to a later boundary. -/
theorem everywhere_placed_copyWith {m : Match RuleId} {stop : Nat}
    (placed : m.Everywhere (Match.Placed registry text start)) (later : m.stop ≤ stop)
    (boundary : Text.IsBoundary text stop) :
    (m.copyWith ⟨m.start, stop⟩ true).Everywhere (Match.Placed registry text start) := by
  have here := placed.root
  refine placed.copyWith (.ofEnds here.behind (here.ordered.trans later) here.startBoundary
    boundary ?_ here.arranged)
  intro child member
  have contained := of_decide_eq_true (here.nested child member)
  exact ⟨contained.1, contained.2.trans later⟩

/-! ## Chains -/

/-- Matches read one after the other lie one after the other. -/
theorem Chained.placed {possible : Nat → Match RuleId → Prop} {stop : Nat}
    {ms : List (Match RuleId)}
    (sound : ∀ position m, possible position m → Text.IsBoundary text position →
      m.Everywhere (Match.Placed registry text position))
    (chain : Chained possible start ms stop) (boundary : Text.IsBoundary text start) :
    start ≤ stop ∧ Text.IsBoundary text stop ∧
      (∀ m ∈ ms, m.Everywhere (Match.Placed registry text start) ∧ m.stop ≤ stop) ∧
      ms.Pairwise fun m next => m.stop ≤ next.start := by
  induction chain with
  | nil => exact ⟨le_rfl, boundary, by simp, .nil⟩
  | cons first _ inductionHypothesis =>
      have here := sound _ _ first boundary
      have behind := here.root.behind.trans here.root.ordered
      obtain ⟨ordered, stopBoundary, inside, arranged⟩ :=
        inductionHypothesis here.root.stopBoundary
      refine ⟨behind.trans ordered, stopBoundary, ?_, .cons ?_ arranged⟩
      · intro m member
        rcases List.mem_cons.mp member with rfl | later
        · exact ⟨here, ordered⟩
        · exact ⟨(inside m later).1.placed_mono behind, (inside m later).2⟩
      · intro next later
        exact (inside next later).1.root.behind

theorem Chained.still {possible : Nat → Match RuleId → Prop} {stop : Nat}
    {ms : List (Match RuleId)}
    (sound : ∀ m, possible start m → m.Everywhere (Match.Still start))
    (chain : Chained possible start ms stop) :
    stop = start ∧ ∀ m ∈ ms, m.Everywhere (Match.Still start) := by
  induction chain with
  | nil => simp
  | @cons position stop m ms first _ inductionHypothesis =>
      have here := sound _ first
      have stays : m.stop = position := by rw [Match.stop, here.root]; rfl
      rw [stays] at inductionHypothesis
      obtain ⟨same, others⟩ := inductionHypothesis sound
      exact ⟨same, List.forall_mem_cons.mpr ⟨here, others⟩⟩

/-! ## Reads at a boundary -/

section

variable {read : Read}

theorem StepReads.placed {repetition : Repetition RuleId} {id : RuleId} {m : Match RuleId}
    (sound : ∀ id start m, read id start = some m → Text.IsBoundary text start →
      m.Everywhere (Match.Placed registry text start))
    (step : StepReads read repetition id start m) (boundary : Text.IsBoundary text start) :
    m.Everywhere (Match.Placed registry text start) := by
  cases step with
  | element _ here _ => exact sound _ _ _ here boundary
  | @separated separator m element _ here _ next _ =>
      have first := sound _ _ _ here boundary
      have before := first.root.behind.trans first.root.ordered
      have second := sound _ _ _ next first.root.stopBoundary
      have between := second.root.behind.trans second.root.ordered
      unfold Repetition.item
      split
      · refine everywhere_placed_succeed (before.trans between) boundary second.root.stopBoundary
          ?_ ?_
        · intro child member
          simp only [Match.children_list, List.mem_cons, List.not_mem_nil, or_false] at member
          rcases member with rfl | rfl
          · exact ⟨first, between⟩
          · exact ⟨second.placed_mono before, le_rfl⟩
        · intro _
          simpa using second.root.behind
      · exact second.placed_mono before

theorem RuleKind.Reads.placed {id : RuleId} {rule : LinkedRule} {m : Match RuleId}
    (sound : ∀ id start m, read id start = some m → Text.IsBoundary text start →
      m.Everywhere (Match.Placed registry text start))
    (known : registry.rule? id = some rule) (reads : rule.kind.Reads read text id start m)
    (boundary : Text.IsBoundary text start) :
    m.Everywhere (Match.Placed registry text start) := by
  generalize same : rule.kind = kind at reads
  cases reads with
  | literal found =>
      exact everywhere_placed_succeed (Nat.le_add_right _ _) boundary
        (Text.IsBoundary.of_suffixAt found) (by simp) (by simp)
  | pattern found pieces =>
      obtain ⟨matched, rest, rfl, rfl⟩ := Pattern.eq_append_of_read? pieces
      exact everywhere_placed_succeed (Nat.le_add_right _ _) boundary
        (Text.IsBoundary.of_suffixAt found) (by simp) (by simp)
  | @sequence items shape children stop itemsRead =>
      obtain ⟨ordered, stopBoundary, inside, arranged⟩ :=
        itemsRead.chained.placed (fun _ _ ⟨_, _, here⟩ => sound _ _ _ here) boundary
      rcases shape.build_spec id ⟨start, stop⟩ children with
        ⟨payload, built, drawn, _, whole⟩ | ⟨child, member, built⟩ | ⟨missed, _⟩
      · rw [built]
        refine everywhere_placed_succeed ordered boundary stopBoundary
          (fun child member => inside child (drawn child member)) ?_
        rintro ⟨rule', known', collects⟩
        -- Only the plain shape lists what was read.
        have all : shape = .all := by
          rw [known, Option.some.injEq] at known'
          subst known'
          simpa [same] using collects
        rw [whole all]
        exact arranged
      · rw [built]
        exact everywhere_placed_copyWith (inside child member).1 (inside child member).2
          stopBoundary
      · rw [missed]
        exact everywhere_placed_fail id boundary
  | choice _ here _ => exact sound _ _ _ here boundary
  | optional here _ => exact sound _ _ _ here boundary
  | @repetition repetition first others stop here success steps =>
      obtain ⟨ordered, stopBoundary, inside, arranged⟩ :=
        (chained_items here success steps).placed (fun _ _ possible boundary => possible.elim
          (fun ⟨here, _⟩ => sound _ _ _ here boundary)
          (fun step => step.placed sound boundary)) boundary
      exact everywhere_placed_succeed ordered boundary stopBoundary inside fun _ => arranged
  | repetitionSingle here _ => exact sound _ _ _ here boundary
  | optionalMissed | repetitionEmpty _ => exact everywhere_placed_emptyAt id boundary
  | literalMissed | patternMissed | sequenceMissed | choiceMissed | repetitionMissed =>
      exact everywhere_placed_fail id boundary

/-! ## Reads elsewhere -/

theorem StepReads.still {repetition : Repetition RuleId} {id : RuleId} {m : Match RuleId}
    (sound : ∀ id m, read id start = some m → m.Everywhere (Match.Still start))
    (step : StepReads read repetition id start m) : m.Everywhere (Match.Still start) := by
  cases step with
  | element _ here _ => exact sound _ _ here
  | @separated separator m element _ here _ next _ =>
      have first := sound _ _ here
      have stays : m.stop = start := by rw [Match.stop, first.root]; rfl
      rw [stays] at next
      have second := sound _ _ next
      have stays' : element.stop = start := by rw [Match.stop, second.root]; rfl
      unfold Repetition.item
      split
      · refine .node (by rw [stays']; rfl) ?_
        intro child member
        simp only [Match.children_list, List.mem_cons, List.not_mem_nil, or_false] at member
        rcases member with rfl | rfl
        · exact first
        · exact second
      · exact second

theorem RuleKind.Reads.still {id : RuleId} {kind : RuleKind RuleId} {m : Match RuleId}
    (sound : ∀ id m, read id start = some m → m.Everywhere (Match.Still start))
    (reads : kind.Reads read text id start m) (inside : ¬ Text.IsBoundary text start) :
    m.Everywhere (Match.Still start) := by
  have missed : Text.suffixAt text start = none := Text.not_isBoundary_iff.mp inside
  have empty : (Match.emptyAt id start).Everywhere (Match.Still start) := .node rfl (by simp)
  have failed : (Match.fail id start).Everywhere (Match.Still start) := .node rfl (by simp)
  cases reads with
  | literal found => rw [missed] at found; cases found
  | pattern found _ => rw [missed] at found; cases found
  | @sequence items shape children stop itemsRead =>
      obtain ⟨rfl, nodes⟩ := itemsRead.chained.still fun _ ⟨_, _, here⟩ => sound _ _ here
      rcases shape.build_spec id ⟨stop, stop⟩ children with
        ⟨payload, built, drawn, _⟩ | ⟨child, member, built⟩ | ⟨broken, _⟩
      · rw [built]
        exact .node rfl fun child member => nodes child (drawn child member)
      · rw [built]
        have here := nodes child member
        have begins : child.start = stop := by rw [Match.start, here.root]; rfl
        exact here.copyWith (by rw [begins]; rfl)
      · rw [broken]
        exact failed
  | choice _ here _ => exact sound _ _ here
  | optional here _ => exact sound _ _ here
  | @repetition repetition first others stop here success steps =>
      obtain ⟨rfl, nodes⟩ := (chained_items here success steps).still fun _ possible =>
        possible.elim (fun ⟨here, _⟩ => sound _ _ here) (fun step => step.still sound)
      exact .node rfl nodes
  | repetitionSingle here _ => exact sound _ _ here
  | optionalMissed | repetitionEmpty _ => exact empty
  | literalMissed | patternMissed | sequenceMissed | choiceMissed | repetitionMissed => exact failed

end

end

/-! ## Whole reads -/

namespace Registry

variable {registry : Registry} {input : String} {id : RuleId} {start : Nat} {m : Match RuleId}

theorem readRule_placed (found : registry.readRule input start id = some m)
    (boundary : Text.IsBoundary input.toList start) :
    m.Everywhere (Match.Placed registry input.toList start) := by
  revert boundary
  refine readRule_induction (motive := fun _ start m => Text.IsBoundary input.toList start →
    m.Everywhere (Match.Placed registry input.toList start)) ?_ found
  intro read id rule start position m _ sound known begins reads boundary
  rw [startOf_eq_some_iff] at begins
  split at begins
  next =>
    obtain ⟨skipped, here, rfl⟩ := begins
    have before := (sound _ _ _ here boundary).root
    have placed := reads.placed sound known before.stopBoundary
    exact placed.placed_mono (before.behind.trans before.ordered)
  next =>
    subst begins
    exact reads.placed sound known boundary

theorem readRule_still (found : registry.readRule input start id = some m)
    (inside : ¬ Text.IsBoundary input.toList start) : m.Everywhere (Match.Still start) := by
  revert inside
  refine readRule_induction (motive := fun _ start m => ¬ Text.IsBoundary input.toList start →
    m.Everywhere (Match.Still start)) ?_ found
  intro read id rule start position m _ sound _ begins reads inside
  have stays : position = start := by
    rw [startOf_eq_some_iff] at begins
    split at begins
    next =>
      obtain ⟨skipped, here, rfl⟩ := begins
      rw [Match.stop, (sound _ _ _ here inside).root]
      rfl
    next => exact begins
  subst stays
  exact reads.still (fun _ _ here => sound _ _ _ here inside) inside

theorem readRule_ordered (found : registry.readRule input start id = some m) : m.start ≤ m.stop := by
  by_cases boundary : Text.IsBoundary input.toList start
  · exact (readRule_placed found boundary).root.ordered
  · have still := (readRule_still found boundary).root
    rw [Match.start, Match.stop, still]
    exact Nat.le_refl _

/-- Read at a boundary, every node of a tree has text under it, behind the start of the read, inside
the node around it and in order with its neighbours; read elsewhere, none covers anything. -/
theorem readRule_spans (found : registry.readRule input start id = some m) :
    (Text.IsBoundary input.toList start →
      m.Everywhere (Match.Placed registry input.toList start)) ∧
    (¬ Text.IsBoundary input.toList start → m.Everywhere (Match.Still start)) :=
  ⟨readRule_placed found, readRule_still found⟩

/-- The two cases at a start of the text and inside a character of two bytes. -/
theorem readRule_spans_markedWords :
    ∃ registry m stuck, ofRules markedWords = .ok registry ∧
      registry.readRule " é !, é!" 0 ⟨8⟩ = some m ∧ m.success = true ∧ m.span = ⟨0, 10⟩ ∧
      m.Everywhere (Match.Placed registry " é !, é!".toList 0) ∧
      registry.readRule " é !, é!" 2 ⟨8⟩ = some stuck ∧ stuck.Everywhere (Match.Still 2) := by
  obtain ⟨baseTypes, index, size, built⟩ := ofRules_markedWords
  obtain ⟨m, found, success, span⟩ : ∃ m,
      (Registry.mk (baseTypes ++ linkedMarkedWords) index ⟨13⟩ ⟨8⟩).readRule " é !, é!" 0 ⟨8⟩ = some m ∧
        m.success = true ∧ m.span = ⟨0, 10⟩ := by
    match baseTypes, size with
    | [_, _, _, _, _, _, _, _], _ => exact ⟨_, rfl, rfl, rfl⟩
  obtain ⟨stuck, missed⟩ : ∃ m,
      (Registry.mk (baseTypes ++ linkedMarkedWords) index ⟨13⟩ ⟨8⟩).readRule " é !, é!" 2 ⟨8⟩ = some m := by
    match baseTypes, size with
    | [_, _, _, _, _, _, _, _], _ => exact ⟨_, rfl⟩
  exact ⟨_, m, stuck, built, found, success, span, (readRule_spans found).1 (by decide), missed,
    (readRule_spans missed).2 (by decide)⟩

end Registry

end RuleGrammar
