import Mathlib.Data.Set.Card
import RuleGrammar.Dump
import RuleGrammar.Proofs.Registration
import RuleGrammar.Proofs.Shaping

/-!
Owns what a dump says of the match that it was made from.

Contract: nodes are addressed by the way down to them. At every address a dump has a node where the match
has one, and that node records it (`Registry.Records`), under the name of a rule that is there. Names tell
rules apart, so that dumps of matches that a registry produces are equal when the matches are.
-/

namespace RuleGrammar

/-! ## Nodes by address -/

namespace Match

variable {R S : Type}

/-- The node that one comes to from the root by taking, at each step, the child with that index. -/
def at? : Match R → List Nat → Option (Match R)
  | m, [] => some m
  | m, index :: address => m.children[index]?.bind fun child => child.at? address

theorem at?_cons (m : Match R) (index : Nat) (address : List Nat) :
    m.at? (index :: address) = m.children[index]?.bind fun child => child.at? address :=
  rfl

/-- What holds everywhere in a match holds of the node at an address. -/
theorem Everywhere.at? {holds : Match R → Prop} {m node : Match R} {address : List Nat}
    (everywhere : m.Everywhere holds) (found : m.at? address = some node) : holds node := by
  induction address generalizing m with
  | nil =>
      obtain rfl := Option.some.inj found
      exact everywhere.root
  | cons index address inductionHypothesis =>
      rw [at?_cons, Option.bind_eq_some_iff] at found
      obtain ⟨child, here, below⟩ := found
      exact inductionHypothesis (everywhere.nested (List.mem_of_getElem? here)) below

/-! ### Counting addresses -/

/-- The addresses of the nodes of a match. -/
def addresses (m : Match R) : Set (List Nat) :=
  {address | (m.at? address).isSome}

/-- The addresses of the nodes in a list of matches, where the first of them has a given index. -/
def addressesFrom (first : Nat) (ms : List (Match R)) : Set (List Nat) :=
  {address | ∃ index below m, address = (first + index) :: below ∧ ms[index]? = some m ∧
    below ∈ m.addresses}

theorem cons_mem_addresses_iff {m : Match R} {index : Nat} {below : List Nat} :
    index :: below ∈ m.addresses ↔ ∃ child, m.children[index]? = some child ∧
      below ∈ child.addresses := by
  show ((m.at? (index :: below)).isSome : Prop) ↔ _
  rw [at?_cons]
  cases m.children[index]? with
  | none => simp
  | some child => simp [addresses]

/-- The root is at the empty address, and every other node in a child. -/
theorem addresses_eq (m : Match R) : m.addresses = insert [] (addressesFrom 0 m.children) := by
  ext address
  rw [Set.mem_insert_iff]
  cases address with
  | nil => exact iff_of_true rfl (.inl rfl)
  | cons index below =>
      rw [cons_mem_addresses_iff]
      constructor
      · rintro ⟨child, here, inside⟩
        exact .inr ⟨index, below, child, by rw [Nat.zero_add], here, inside⟩
      · rintro (impossible | ⟨index', below', child, same, here, inside⟩)
        · cases impossible
        · rw [Nat.zero_add, List.cons.injEq] at same
          obtain ⟨rfl, rfl⟩ := same
          exact ⟨child, here, inside⟩

theorem addressesFrom_nil (first : Nat) : addressesFrom first ([] : List (Match R)) = ∅ := by
  apply Set.eq_empty_of_forall_notMem
  rintro _ ⟨index, _, _, _, here, _⟩
  cases here

/-- The root is in no list. -/
theorem nil_notMem_addressesFrom {first : Nat} {ms : List (Match R)} : [] ∉ addressesFrom first ms := by
  rintro ⟨_, _, _, impossible, _⟩
  cases impossible

theorem addressesFrom_cons (first : Nat) (m : Match R) (ms : List (Match R)) :
    addressesFrom first (m :: ms) =
      (first :: ·) '' m.addresses ∪ addressesFrom (first + 1) ms := by
  ext address
  rw [Set.mem_union, Set.mem_image]
  constructor
  · rintro ⟨index, below, child, rfl, here, inside⟩
    cases index with
    | zero =>
        obtain rfl := Option.some.inj here
        exact .inl ⟨below, inside, rfl⟩
    | succ index =>
        exact .inr ⟨index, below, child, by rw [Nat.add_right_comm, Nat.add_assoc], here, inside⟩
  · rintro (⟨below, inside, rfl⟩ | ⟨index, below, child, rfl, here, inside⟩)
    · exact ⟨0, below, m, rfl, rfl, inside⟩
    · exact ⟨index + 1, below, child, by rw [Nat.add_right_comm, Nat.add_assoc], here, inside⟩

/-- Where each of some matches has as many addresses as it counts nodes, so have they together. -/
theorem encard_addressesFrom {ms : List (Match R)}
    (counted : ∀ m ∈ ms, m.addresses.encard = m.nodeCount) (first : Nat) :
    (addressesFrom first ms).encard = (ms.map nodeCount).sum := by
  induction ms generalizing first with
  | nil =>
      rw [addressesFrom_nil, Set.encard_empty]
      rfl
  | cons m ms inductionHypothesis =>
      obtain ⟨here, others⟩ := List.forall_mem_cons.mp counted
      have apart : Disjoint ((first :: ·) '' m.addresses) (addressesFrom (first + 1) ms) := by
        rw [Set.disjoint_left]
        rintro _ ⟨below, _, rfl⟩ ⟨index, _, _, same, _⟩
        have heads := (List.cons.inj same).1
        omega
      calc (addressesFrom first (m :: ms)).encard
          = ((first :: ·) '' m.addresses).encard + (addressesFrom (first + 1) ms).encard := by
            rw [addressesFrom_cons, Set.encard_union_eq apart]
        _ = m.addresses.encard + (addressesFrom (first + 1) ms).encard := by
            rw [(List.cons_injective).encard_image]
        _ = ((m :: ms).map nodeCount).sum := by
            rw [here, inductionHypothesis others, List.map_cons, List.sum_cons, Nat.cast_add]

theorem nodeCountItems_eq_sum (items : List (Match R)) :
    nodeCountItems items = (items.map nodeCount).sum := by
  induction items with
  | nil => rfl
  | cons item items inductionHypothesis =>
      rw [nodeCountItems, inductionHypothesis, List.map_cons, List.sum_cons]

theorem nodeCountFields_eq_sum (fields : List (String × Match R)) :
    nodeCountFields fields = ((fields.map Prod.snd).map nodeCount).sum := by
  induction fields with
  | nil => rfl
  | cons field fields inductionHypothesis =>
      rw [nodeCountFields, inductionHypothesis, List.map_cons, List.map_cons, List.sum_cons]

theorem nodeCount_eq (m : Match R) : m.nodeCount = 1 + (m.children.map nodeCount).sum := by
  obtain ⟨success, span, rule, payload⟩ := m
  cases payload with
  | absent | scalar _ => rfl
  | list items => exact congrArg (1 + ·) (nodeCountItems_eq_sum items)
  | object fields => exact congrArg (1 + ·) (nodeCountFields_eq_sum fields)

/-- A match counts as many nodes as there are addresses. -/
theorem encard_addresses (m : Match R) : m.addresses.encard = m.nodeCount := by
  induction m using childrenInduction with
  | step m inductionHypothesis =>
      rw [addresses_eq, Set.encard_insert_of_notMem nil_notMem_addressesFrom,
        encard_addressesFrom inductionHypothesis, nodeCount_eq, Nat.cast_add, Nat.cast_one, add_comm]

/-! ### Naming the rules of a tree -/

section

variable (name : R → S)

theorem mapRuleItems_eq_map (items : List (Match R)) :
    mapRuleItems name items = items.map (mapRule name) := by
  induction items with
  | nil => rfl
  | cons item items inductionHypothesis => rw [mapRuleItems, inductionHypothesis, List.map_cons]

theorem map_snd_mapRuleFields (fields : List (String × Match R)) :
    (mapRuleFields name fields).map Prod.snd = (fields.map Prod.snd).map (mapRule name) := by
  induction fields with
  | nil => rfl
  | cons field fields inductionHypothesis =>
      rw [mapRuleFields, List.map_cons, inductionHypothesis, List.map_cons, List.map_cons]

theorem map_fst_mapRuleFields (fields : List (String × Match R)) :
    (mapRuleFields name fields).map Prod.fst = fields.map Prod.fst := by
  induction fields with
  | nil => rfl
  | cons field fields inductionHypothesis =>
      rw [mapRuleFields, List.map_cons, inductionHypothesis, List.map_cons]

theorem children_mapRule (m : Match R) :
    (m.mapRule name).children = m.children.map (mapRule name) := by
  obtain ⟨success, span, rule, payload⟩ := m
  cases payload with
  | absent | scalar _ => rfl
  | list items => exact mapRuleItems_eq_map name items
  | object fields => exact map_snd_mapRuleFields name fields

/-- Naming rules leaves every node at its address. -/
theorem at?_mapRule (m : Match R) (address : List Nat) :
    (m.mapRule name).at? address = (m.at? address).map (mapRule name) := by
  induction address generalizing m with
  | nil => rfl
  | cons index address inductionHypothesis =>
      rw [at?_cons, at?_cons, children_mapRule, List.getElem?_map]
      cases m.children[index]? with
      | none => rfl
      | some child => exact inductionHypothesis child

variable {name}

/-- An object of a named tree has the fields of an object of the tree. -/
theorem exists_object_of_mapRule {m : Match R} {fields : List (String × Match S)}
    (object : (m.mapRule name).payload = .object fields) :
    ∃ fields', m.payload = .object fields' ∧ fields.map Prod.fst = fields'.map Prod.fst := by
  obtain ⟨_, _, _, payload⟩ := m
  cases payload with
  | absent | scalar _ | list _ => cases object
  | object fields' =>
      cases object
      exact ⟨fields', rfl, map_fst_mapRuleFields name fields'⟩

/-- What the naming of a node takes over is taken over everywhere. -/
theorem Everywhere.mapRule {holds : Match R → Prop} {holds' : Match S → Prop} {m : Match R}
    (everywhere : m.Everywhere holds) (named : ∀ node, holds node → holds' (node.mapRule name)) :
    (m.mapRule name).Everywhere holds' := by
  induction everywhere with
  | node here _ inductionHypothesis =>
      refine .node (named _ here) fun child member => ?_
      rw [children_mapRule] at member
      obtain ⟨child', member', rfl⟩ := List.mem_map.mp member
      exact inductionHypothesis child' member'

end

/-! ### Equality of named trees -/

section

variable [BEq R] [BEq S] {name : R → S}

theorem beqItems_mapRule {items items' : List (Match R)}
    (same : ∀ item ∈ items, ∀ item' ∈ items',
      (item.mapRule name == item'.mapRule name) = (item == item')) :
    beqItems (mapRuleItems name items) (mapRuleItems name items') = beqItems items items' := by
  induction items generalizing items' with
  | nil => cases items' <;> simp only [mapRuleItems, beqItems]
  | cons item items inductionHypothesis =>
      cases items' with
      | nil => simp only [mapRuleItems, beqItems]
      | cons item' items' =>
          have first := same item List.mem_cons_self item' List.mem_cons_self
          have others := inductionHypothesis fun item member item' member' =>
            same item (List.mem_cons_of_mem _ member) item' (List.mem_cons_of_mem _ member')
          rw [mapRuleItems, mapRuleItems, beqItems, beqItems, others]
          exact congrArg (· && _) first

theorem beqFields_mapRule {fields fields' : List (String × Match R)}
    (same : ∀ item ∈ fields.map Prod.snd, ∀ item' ∈ fields'.map Prod.snd,
      (item.mapRule name == item'.mapRule name) = (item == item')) :
    beqFields (mapRuleFields name fields) (mapRuleFields name fields') =
      beqFields fields fields' := by
  induction fields generalizing fields' with
  | nil => cases fields' <;> simp only [mapRuleFields, beqFields]
  | cons field fields inductionHypothesis =>
      cases fields' with
      | nil => simp only [mapRuleFields, beqFields]
      | cons field' fields' =>
          rw [List.map_cons, List.map_cons] at same
          have first := same _ List.mem_cons_self _ List.mem_cons_self
          have others := inductionHypothesis fun item member item' member' =>
            same item (List.mem_cons_of_mem _ member) item' (List.mem_cons_of_mem _ member')
          rw [mapRuleFields, mapRuleFields, beqFields, beqFields, others]
          exact congrArg (fun same => (field.1 == field'.1 && same) && _) first

/-- Naming the rules of trees does not change whether they are equal, if the names tell the rules in
them apart. -/
theorem beq_mapRule {known : R → Prop}
    (apart : ∀ rule rule', known rule → known rule' → (name rule == name rule') = (rule == rule'))
    {m m' : Match R} (here : m.Everywhere fun node => known node.rule)
    (there : m'.Everywhere fun node => known node.rule) :
    (m.mapRule name == m'.mapRule name) = (m == m') := by
  induction m using childrenInduction generalizing m' with
  | step m inductionHypothesis =>
      have rules := apart m.rule m'.rule here.root there.root
      have nested : ∀ child ∈ m.children, ∀ child' ∈ m'.children,
          (child.mapRule name == child'.mapRule name) = (child == child') :=
        fun child member child' member' =>
          inductionHypothesis child member (here.nested member) (there.nested member')
      obtain ⟨success, span, rule, payload⟩ := m
      obtain ⟨success', span', rule', payload'⟩ := m'
      have payloads : beqPayload (mapRulePayload name payload) (mapRulePayload name payload') =
          beqPayload payload payload' := by
        cases payload with
        | absent | scalar _ => cases payload' <;> simp only [mapRulePayload, beqPayload]
        | list items =>
            cases payload' with
            | list items' =>
                rw [mapRulePayload, mapRulePayload, beqPayload, beqPayload]
                exact beqItems_mapRule nested
            | absent | scalar _ | object _ => simp only [mapRulePayload, beqPayload]
        | object fields =>
            cases payload' with
            | object fields' =>
                rw [mapRulePayload, mapRulePayload, beqPayload, beqPayload]
                exact beqFields_mapRule nested
            | absent | scalar _ | list _ => simp only [mapRulePayload, beqPayload]
      show beq (mapRule name _) (mapRule name _) = beq _ _
      rw [mapRule, mapRule, beq, beq, payloads]
      exact congrArg (fun same => same && span == span' && success == success' && _) rules

end

end Match

/-! ## Matches that a registry produces -/

namespace Registry

/-- The matches that come from reading with a registry: what a read gives, the same over another span or
with another outcome, and what is nested in such a match. -/
inductive Produces (registry : Registry) : Match RuleId → Prop where
  | read {input : String} {start : Nat} {id : RuleId} {m : Match RuleId} :
      registry.readRule input start id = some m → Produces registry m
  | copyWith {m : Match RuleId} (span : Span) (success : Bool) :
      Produces registry m → Produces registry (m.copyWith span success)
  | nested {m child : Match RuleId} :
      Produces registry m → child ∈ m.children → Produces registry child

/-- The node names a rule of the registry and carries what that rule can carry, or nothing where the rule
failed. An empty sequence does not fail. -/
def Sourced (registry : Registry) (node : Match RuleId) : Prop :=
  ∃ rule, registry.rule? node.rule = some rule ∧
    (rule.kind.Carries node.payload ∨
      node.payload = .absent ∧ ∀ shape, rule.kind ≠ .sequence [] shape)

/-- What an entry of a dump says of a node. -/
structure Records (registry : Registry) (node : Match RuleId) (entry : Match String) : Prop where
  success : entry.success = node.success
  span : entry.span = node.span
  /-- The entry has the name of a rule, and never a name for want of one. -/
  rule : registry.ruleName? node.rule = some entry.rule
  scalar : ∀ value, entry.payload = .scalar value ↔ node.payload = .scalar value
  absent : entry.payload = .absent ↔ node.payload = .absent
  /-- An option that is its own node has missed its part. -/
  option : ∀ rule inner, registry.rule? node.rule = some rule → rule.kind = .optional inner →
    entry.payload = .absent
  /-- A repetition has no result where it has no element. -/
  repetition : ∀ rule repetition, registry.rule? node.rule = some rule →
    rule.kind = .repetition repetition →
      entry.payload = .absent ∨ ∃ first others, entry.payload = .list (first :: others)
  /-- An empty sequence has an empty result. -/
  sequence : ∀ rule shape, registry.rule? node.rule = some rule → rule.kind = .sequence [] shape →
    entry.payload = .list [] ∨ entry.payload = .object []

variable {rules : List RuleDef} {registry : Registry} {node m m' : Match RuleId}

theorem readRule_sourced (wellFormed : registry.WellFormed) {input : String} {start : Nat}
    {id : RuleId} (found : registry.readRule input start id = some m) :
    m.Everywhere registry.Sourced := by
  cases success : m.success with
  | true =>
      apply (readRule_everywhere_typed wellFormed found success).mono
      intro node typed
      obtain ⟨rule, known, carries⟩ := typed.carries
      exact ⟨rule, known, .inl carries⟩
  | false =>
      obtain ⟨rule, position, known, _, body⟩ := readRule_iff.mp found
      have fits := wellFormed.fits known
      have missed : m = .fail id position :=
        (readKind_reads (registry.reader_bounded input) body).eq_fail fits success
      subst missed
      refine .node ⟨rule, known, .inr ⟨rfl, fun shape sequence => ?_⟩⟩ (by simp)
      -- There is no item that could fail.
      rw [sequence] at body
      have gives := Shape.gives (fits.indices [] shape sequence) (registry.reader input) id position
      cases gives.fails.mp body

theorem Produces.sourced (wellFormed : registry.WellFormed) (produces : registry.Produces m) :
    m.Everywhere registry.Sourced := by
  induction produces with
  | read found => exact readRule_sourced wellFormed found
  | copyWith span success _ inductionHypothesis =>
      exact inductionHypothesis.copyWith inductionHypothesis.root
  | nested _ member inductionHypothesis => exact inductionHypothesis.nested member

/-! ## Entries of a dump -/

theorem absent_mapRulePayload_iff {R S : Type} {name : R → S} {payload : Payload (Match R)} :
    Match.mapRulePayload name payload = .absent ↔ payload = .absent := by
  cases payload <;> simp [Match.mapRulePayload]

theorem scalar_mapRulePayload_iff {R S : Type} {name : R → S} {payload : Payload (Match R)}
    {value : Value} :
    Match.mapRulePayload name payload = .scalar value ↔ payload = .scalar value := by
  cases payload <;> simp [Match.mapRulePayload]

/-- A sequence of nothing carries nothing, be it a list or an object. -/
theorem carries_nothing {shape : Shape} {payload : Payload (Match RuleId)}
    (valid : ∀ index ∈ shape.indices, index < ([] : List RuleId).length)
    (carries : (RuleKind.sequence [] shape).Carries payload) :
    payload = .list [] ∨ payload = .object [] := by
  cases shape with
  | all =>
      obtain ⟨children, size, rfl⟩ := carries
      rw [List.length_eq_zero_iff.mp size]
      exact .inl rfl
  | one index => exact carries.elim
  | selection indices =>
      obtain rfl : indices = [] := List.eq_nil_iff_forall_not_mem.mpr fun index member =>
        Nat.not_lt_zero _ (valid index member)
      obtain ⟨children, size, rfl⟩ := carries
      rw [List.length_eq_zero_iff.mp size]
      exact .inl rfl
  | object fields =>
      have unnamed : fields.map Prod.fst = [] := List.eq_nil_iff_forall_not_mem.mpr
        fun index member => Nat.not_lt_zero _ (valid index member)
      obtain rfl := List.map_eq_nil_iff.mp unnamed
      obtain ⟨held, names, rfl⟩ := carries
      have nothing : held.map Prod.fst = [] := List.eq_nil_iff_forall_not_mem.mpr
        fun name member => List.not_mem_nil ((names name).mp member)
      rw [List.map_eq_nil_iff.mp nothing]
      exact .inr rfl

/-- The entry for a node that names a rule records it. -/
theorem Sourced.records (wellFormed : registry.WellFormed) (sourced : registry.Sourced node) :
    registry.Records node (registry.dump node) := by
  obtain ⟨rule, known, carried⟩ := sourced
  obtain ⟨success, span, id, payload⟩ := node
  have named : registry.ruleName? id = some rule.name := congrArg (Option.map Rule.name) known
  have only : ∀ {rule'}, registry.rule? id = some rule' → rule' = rule :=
    fun known' => Option.some.inj (known'.symm.trans known)
  refine ⟨rfl, rfl, ?_, fun _ => scalar_mapRulePayload_iff, absent_mapRulePayload_iff, ?_, ?_, ?_⟩
  · show _ = some ((registry.ruleName? id).getD unknownRuleName)
    rw [named, Option.getD_some]
  · intro rule' inner known' option
    obtain rfl := only known'
    apply absent_mapRulePayload_iff.mpr
    rcases carried with carries | ⟨absent, _⟩
    · rw [option] at carries
      exact carries
    · exact absent
  · intro rule' repetition known' repeats
    obtain rfl := only known'
    rcases carried with carries | ⟨absent, _⟩
    · rw [repeats] at carries
      rcases carries with absent | ⟨children, nonempty, list⟩
      · exact .inl (absent_mapRulePayload_iff.mpr absent)
      · obtain ⟨first, others, rfl⟩ := List.exists_cons_of_ne_nil nonempty
        obtain rfl := list
        exact .inr ⟨_, _, rfl⟩
    · exact .inl (absent_mapRulePayload_iff.mpr absent)
  · intro rule' shape known' sequence
    obtain rfl := only known'
    rcases carried with carries | ⟨_, nonempty⟩
    · rw [sequence] at carries
      have valid := (wellFormed.fits known).indices [] shape sequence
      rcases carries_nothing valid carries with rfl | rfl
      · exact .inl rfl
      · exact .inr rfl
    · exact absurd sequence (nonempty shape)

/-- Names tell the rules of a registry apart. -/
theorem nameOf_beq {all : List RuleDef} (linked : LinkedFrom all registry) (id id' : RuleId)
    (known : (registry.rule? id).isSome) (known' : (registry.rule? id').isSome) :
    ((registry.ruleName? id).getD unknownRuleName ==
      (registry.ruleName? id').getD unknownRuleName) = (id == id') := by
  obtain ⟨rule, here⟩ := Option.isSome_iff_exists.mp known
  obtain ⟨rule', there⟩ := Option.isSome_iff_exists.mp known'
  have named : registry.ruleName? id = some rule.name := congrArg (Option.map Rule.name) here
  have named' : registry.ruleName? id' = some rule'.name := congrArg (Option.map Rule.name) there
  rw [named, named', Option.getD_some, Option.getD_some, Bool.eq_iff_iff, beq_iff_eq, beq_iff_eq]
  constructor
  · intro same
    rw [← same] at named'
    have first := linked.find?_eq_some_iff.mpr named
    exact Option.some.inj (first.symm.trans (linked.find?_eq_some_iff.mpr named'))
  · rintro rfl
    exact Option.some.inj (named.symm.trans named')

/-- Two dumps are equal exactly when the matches are; a dump has an entry at each address where the
match has a node, and no others, and the entry records the node; so it counts as many nodes as there
are. -/
theorem dump_faithful (built : ofRules rules = .ok registry) (produces : registry.Produces m)
    (produces' : registry.Produces m') :
    (registry.dump m == registry.dump m') = (m == m') ∧
    (∀ address, Option.Rel registry.Records (m.at? address) ((registry.dump m).at? address)) ∧
    m.addresses.encard = (registry.dump m).nodeCount := by
  have wellFormed := wellFormed_of_ofRules built
  obtain ⟨all, comprises⟩ := exists_comprises rules
  have linked := linkedFrom_of_ofRules built comprises
  have known : ∀ {m}, registry.Produces m →
      m.Everywhere fun node => (registry.rule? node.rule).isSome := fun produces =>
    (produces.sourced wellFormed).mono fun node ⟨rule, known, _⟩ => by rw [known]; rfl
  have located : ∀ address, (registry.dump m).at? address = (m.at? address).map registry.dump :=
    Match.at?_mapRule _ m
  refine ⟨Match.beq_mapRule (nameOf_beq linked) (known produces) (known produces'), ?_, ?_⟩
  · intro address
    rw [located]
    cases found : m.at? address with
    | none => exact .none
    | some node => exact .some (((produces.sourced wellFormed).at? found).records wellFormed)
  · have same : (registry.dump m).addresses = m.addresses := by
      ext address
      show ((registry.dump m).at? address).isSome ↔ (m.at? address).isSome
      rw [located, Option.isSome_map]
    rw [← same, Match.encard_addresses]

/-- A word, and a comma with a word, as read and as if they had failed. -/
theorem dump_faithful_markedWords :
    ∃ registry m, ofRules markedWords = .ok registry ∧
      registry.readRule " é !, é!" 0 ⟨8⟩ = some m ∧ m.success = true ∧
      registry.Produces m ∧ registry.Produces (m.copyWith m.span false) ∧
      (registry.dump m == registry.dump (m.copyWith m.span false)) = false ∧
      (∀ address, Option.Rel registry.Records (m.at? address) ((registry.dump m).at? address)) ∧
      (m.at? [1, 1]).isSome ∧ m.addresses.encard = (registry.dump m).nodeCount := by
  obtain ⟨baseTypes, index, size, built⟩ := ofRules_markedWords
  obtain ⟨m, found, success, inner⟩ : ∃ m,
      (Registry.mk (baseTypes ++ linkedMarkedWords) index ⟨13⟩ ⟨8⟩).readRule " é !, é!" 0 ⟨8⟩ = some m ∧
        m.success = true ∧ (m.at? [1, 1]).isSome := by
    match baseTypes, size with
    | [_, _, _, _, _, _, _, _], _ => exact ⟨_, rfl, rfl, rfl⟩
  have produces := Produces.read found
  have failed := produces.copyWith m.span false
  obtain ⟨same, recorded, counted⟩ := dump_faithful built produces failed
  have different : (m == m.copyWith m.span false) = false := by
    obtain ⟨_, span, rule, payload⟩ := m
    obtain rfl := success
    show Match.beq _ (Match.mk _ _ _ _) = false
    rw [Match.beq, show (true == false) = false from rfl, Bool.and_false, Bool.false_and]
  exact ⟨_, m, built, found, success, produces, failed, same.trans different, recorded, inner,
    counted⟩

end Registry

end RuleGrammar
