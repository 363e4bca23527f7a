import RuleGrammar.Proofs.Fields
import RuleGrammar.Registry.Reading

/-!
Owns statements about whole match trees: `Match.Everywhere` says something of a match and of all that
is nested in it. A shaped sequence has no nodes but those of its items.
-/

namespace RuleGrammar

/-! ## Nodes -/

namespace Match

variable {R : Type}

/-- The matches directly inside a match. -/
def children (m : Match R) : List (Match R) :=
  match m.payload with
  | .absent => []
  | .scalar _ => []
  | .list items => items
  | .object fields => fields.map Prod.snd

@[simp] theorem children_fail (rule : R) (position : Nat) : (fail rule position).children = [] :=
  rfl

@[simp] theorem children_emptyAt (rule : R) (position : Nat) :
    (emptyAt rule position).children = [] :=
  rfl

@[simp] theorem children_absent (rule : R) (span : Span) :
    (succeed rule span .absent).children = [] :=
  rfl

@[simp] theorem children_scalar (rule : R) (span : Span) (value : Value) :
    (succeed rule span (.scalar value)).children = [] :=
  rfl

@[simp] theorem children_list (rule : R) (span : Span) (items : List (Match R)) :
    (succeed rule span (.list items)).children = items :=
  rfl

@[simp] theorem children_object (rule : R) (span : Span) (fields : List (String × Match R)) :
    (succeed rule span (.object fields)).children = fields.map Prod.snd :=
  rfl

@[simp] theorem children_copyWith (m : Match R) (span : Span) (success : Bool) :
    (m.copyWith span success).children = m.children :=
  rfl

theorem sizeOf_lt_of_mem_children {m child : Match R} (member : child ∈ m.children) :
    sizeOf child < sizeOf m := by
  obtain ⟨success, span, rule, payload⟩ := m
  cases payload with
  | absent | scalar _ => cases member
  | list items =>
      have smaller : sizeOf child < sizeOf items := List.sizeOf_lt_of_mem member
      simp only [mk.sizeOf_spec, Payload.list.sizeOf_spec]
      omega
  | object fields =>
      obtain ⟨⟨field, item⟩, held, rfl⟩ := List.mem_map.mp member
      have smaller : sizeOf (field, item) < sizeOf fields := List.sizeOf_lt_of_mem held
      simp only [mk.sizeOf_spec, Payload.object.sizeOf_spec, Prod.mk.sizeOf_spec] at smaller ⊢
      omega

/-- A statement holds of all matches if it passes from the matches directly inside one to that one. -/
@[elab_as_elim]
theorem childrenInduction {motive : Match R → Prop}
    (step : ∀ m : Match R, (∀ child ∈ m.children, motive child) → motive m) (m : Match R) :
    motive m :=
  step m fun child member =>
    have := sizeOf_lt_of_mem_children member
    childrenInduction step child
termination_by sizeOf m

/-- A statement that holds of a match and of all matches nested in it. -/
inductive Everywhere (holds : Match R → Prop) : Match R → Prop where
  | node {m : Match R} :
      holds m → (∀ child ∈ m.children, Everywhere holds child) → Everywhere holds m

namespace Everywhere

variable {holds weaker : Match R → Prop} {m : Match R}

theorem root (everywhere : m.Everywhere holds) : holds m := by
  cases everywhere with
  | node here _ => exact here

theorem nested {child : Match R} (everywhere : m.Everywhere holds) (member : child ∈ m.children) :
    child.Everywhere holds := by
  cases everywhere with
  | node _ inside => exact inside child member

theorem mono (implied : ∀ m, holds m → weaker m) (everywhere : m.Everywhere holds) :
    m.Everywhere weaker := by
  induction everywhere with
  | node here _ inductionHypothesis => exact .node (implied _ here) inductionHypothesis

theorem and {other : Match R → Prop} (everywhere : m.Everywhere holds)
    (also : m.Everywhere other) : m.Everywhere fun m => holds m ∧ other m := by
  induction everywhere with
  | node here _ inductionHypothesis =>
      exact .node ⟨here, also.root⟩ fun child member =>
        inductionHypothesis child member (also.nested member)

/-- Another span and outcome at the root leave the rest as it is. -/
theorem copyWith {span : Span} {success : Bool} (everywhere : m.Everywhere holds)
    (here : holds (m.copyWith span success)) : (m.copyWith span success).Everywhere holds :=
  .node here fun _ member => everywhere.nested member

end Everywhere

end Match

/-! ## Shaped sequences -/

namespace Shape

variable {shape : Shape} {id : RuleId} {span : Span} {children : List (Match RuleId)}

/-- What a sequence makes of its items: a node of its own above some of them, above all for the plain
shape; or one of them, stretched, and no node of its own; or its failure, for want of that one. -/
theorem build_spec (shape : Shape) (id : RuleId) (span : Span) (children : List (Match RuleId)) :
    (∃ payload, shape.build id span children = .succeed id span payload ∧
      (∀ child ∈ (Match.succeed id span payload).children, child ∈ children) ∧
      (∀ index, shape ≠ .one index) ∧ (shape = .all → payload = .list children)) ∨
    (∃ child ∈ children, shape.build id span children =
      child.copyWith ⟨child.start, span.stop⟩ true) ∨
    (shape.build id span children = .fail id span.start ∧
      ∃ index ∈ shape.indices, children.length ≤ index) := by
  cases shape with
  | all => exact .inl ⟨.list children, rfl, fun _ member => member, by simp, fun _ => rfl⟩
  | one index =>
      simp only [build]
      cases addressed : children[index]? with
      | none =>
          have outside := List.getElem?_eq_none_iff.mp addressed
          exact .inr (.inr ⟨rfl, index, by simp [indices], outside⟩)
      | some child =>
          exact .inr (.inl ⟨child, List.mem_of_getElem? addressed, rfl⟩)
  | selection indices =>
      refine .inl ⟨_, rfl, ?_, by simp, by simp⟩
      intro child member
      obtain ⟨index, _, addressed⟩ := List.mem_filterMap.mp member
      exact List.mem_of_getElem? addressed
  | object fields =>
      refine .inl ⟨_, rfl, ?_, by simp, by simp⟩
      intro child member
      obtain ⟨⟨name, held⟩, entry, rfl⟩ := List.mem_map.mp member
      obtain ⟨⟨index, _⟩, _, bound⟩ := List.mem_filterMap.mp (Fields.mem_of_mem_ofBindings entry)
      obtain ⟨_, addressed, same⟩ := Option.map_eq_some_iff.mp bound
      cases same
      exact List.mem_of_getElem? addressed

/-- A shaped sequence ends where its items end. -/
theorem build_stop (shape : Shape) (id : RuleId) (span : Span) (children : List (Match RuleId)) :
    (shape.build id span children).stop = span.stop ∨
      shape.build id span children = .fail id span.start := by
  rcases shape.build_spec id span children with ⟨_, built, _⟩ | ⟨_, _, built⟩ | ⟨missed, _⟩
  · rw [built]
    exact .inl rfl
  · rw [built]
    exact .inl rfl
  · exact .inr missed

/-- A shape that addresses the items there are makes a success of them. -/
theorem build_success (addressed : ∀ index ∈ shape.indices, index < children.length) :
    (shape.build id span children).success = true := by
  rcases shape.build_spec id span children with
    ⟨_, built, _⟩ | ⟨_, _, built⟩ | ⟨_, index, member, outside⟩
  · rw [built]
    rfl
  · rw [built]
    rfl
  · exact absurd (addressed index member) (Nat.not_lt.mpr outside)

end Shape

end RuleGrammar
