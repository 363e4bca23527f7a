import RuleGrammar.Proofs.Naming
import RuleGrammar.Proofs.ShownValues
import RuleGrammar.Proofs.Spans
import RuleGrammar.Report

/-!
Owns what the text of a report shows of a match.

Contract: a value is shown without a line feed, whatever it is (`Value.unbroken_shown`). So where names
have none, the lines of the text are those that were written (`Registry.readRule_outline`): behind the
first ones stands one for each node of the tree, parents before their children and neighbours in order
(`Report.Outlines`), indented by the depth of the node, with its field, rule, span and value
(`Report.Shows`).
-/

namespace RuleGrammar

/-! ## Fields in the order of their names -/

/-- Numbers of four digits to the base 64 are compared digit by digit. -/
theorem sextets_lt {m n : Nat} (less : m < n) :
    m / 262144 < n / 262144 ∨ m / 262144 = n / 262144 ∧ (m / 4096 % 64 < n / 4096 % 64 ∨
      m / 4096 % 64 = n / 4096 % 64 ∧ (m / 64 % 64 < n / 64 % 64 ∨
        m / 64 % 64 = n / 64 % 64 ∧ m % 64 < n % 64)) := by
  omega

/-- The bytes of a lesser character come before those of a greater one, whatever follows. -/
theorem utf8EncodeChar_append_lt {c d : Char} (less : c < d) (after after' : List UInt8) :
    String.utf8EncodeChar c ++ after < String.utf8EncodeChar d ++ after' := by
  have order : c.val.toNat < d.val.toNat := UInt32.lt_iff_toNat_lt.mp (Char.lt_def.mp less)
  have bound : d.val.toNat < 0x110000 := by
    rcases d.valid with low | high <;> omega
  unfold String.utf8EncodeChar
  simp only
  generalize c.val.toNat = m at *
  generalize d.val.toNat = n at *
  have digits := sextets_lt order
  -- A longer form has a greater first byte; forms of one length are compared digit by digit.
  split_ifs <;>
    simp (disch := omega) only [List.cons_append, List.nil_append, List.cons_lt_cons_iff,
      UInt8.lt_iff_toNat_lt, ← UInt8.toNat_inj, UInt8.toNat_ofNat', Nat.mod_eq_of_lt] <;>
    omega

theorem flatMap_utf8EncodeChar_lt {text text' : List Char} (less : text < text') :
    text.flatMap String.utf8EncodeChar < text'.flatMap String.utf8EncodeChar := by
  induction text generalizing text' with
  | nil =>
      cases text' with
      | nil => exact absurd less (List.lt_irrefl [])
      | cons c text' =>
          have some : String.utf8EncodeChar c ≠ [] := String.utf8EncodeChar_ne_nil
          obtain ⟨byte, bytes, first⟩ := List.exists_cons_of_ne_nil some
          rw [List.flatMap_cons, first]
          exact List.nil_lt_cons _ _
  | cons c text inductionHypothesis =>
      cases text' with
      | nil => exact absurd less (List.not_lt_nil _)
      | cons c' text' =>
          rw [List.flatMap_cons, List.flatMap_cons]
          rcases List.cons_lt_cons_iff.mp less with first | ⟨rfl, later⟩
          · exact utf8EncodeChar_append_lt first _ _
          · exact List.append_left_lt (inductionHypothesis later)

def utf8Bytes (text : String) : List UInt8 :=
  text.toUTF8.data.toList

theorem utf8Bytes_eq (text : String) :
    utf8Bytes text = text.toList.flatMap String.utf8EncodeChar := by
  rw [utf8Bytes, String.toUTF8, ← String.utf8Encode_toList, List.utf8Encode, List.data_toByteArray]

/-- Texts are in the order of their bytes. -/
theorem utf8Bytes_lt {text text' : String} (less : text < text') :
    utf8Bytes text < utf8Bytes text' := by
  rw [utf8Bytes_eq, utf8Bytes_eq]
  exact flatMap_utf8EncodeChar_lt (String.lt_iff_toList_lt.mp less)

/-- The fields of the node are in the order of the bytes of their names. -/
def Match.Arranged {R : Type} (node : Match R) : Prop :=
  ∀ fields, node.payload = .object fields →
    (fields.map Prod.fst).Pairwise fun name name' => utf8Bytes name < utf8Bytes name'

section

variable {read : Read} {text : List Char} {id : RuleId} {start : Nat} {m : Match RuleId}

theorem arranged_of_children {R : Type} {node : Match R}
    (unnamed : ∀ fields, node.payload ≠ .object fields)
    (inside : ∀ child ∈ node.children, child.Everywhere Match.Arranged) :
    node.Everywhere Match.Arranged :=
  .node (fun fields object => absurd object (unnamed fields)) inside

theorem Shape.build_arranged {shape : Shape} {span : Span} {children : List (Match RuleId)}
    (inside : ∀ child ∈ children, child.Everywhere Match.Arranged) :
    (shape.build id span children).Everywhere Match.Arranged := by
  rcases shape.build_spec id span children with
    ⟨payload, built, drawn, own, _⟩ | ⟨child, member, built⟩ | ⟨built, _⟩
  · rw [built]
    refine .node (fun fields object => ?_) fun child member => inside child (drawn child member)
    cases shape with
    | all | selection _ =>
        cases built
        cases object
    | one index => exact absurd rfl (own index)
    | object _ =>
        cases built
        cases object
        exact (Fields.ascending_ofBindings _).imp utf8Bytes_lt
  · rw [built]
    have here := inside child member
    exact here.copyWith here.root
  · rw [built]
    exact arranged_of_children (fun _ => nofun) (by simp)

theorem StepReads.arranged {repetition : Repetition RuleId}
    (sound : ∀ id start m, read id start = some m → m.Everywhere Match.Arranged)
    (step : StepReads read repetition id start m) : m.Everywhere Match.Arranged := by
  cases step with
  | element _ here _ => exact sound _ _ _ here
  | separated _ here _ next _ =>
      unfold Repetition.item
      split
      · refine arranged_of_children (fun _ => nofun) ?_
        simp only [Match.children_list, List.forall_mem_cons]
        exact ⟨sound _ _ _ here, sound _ _ _ next, nofun⟩
      · exact sound _ _ _ next

theorem RuleKind.Reads.arranged {kind : RuleKind RuleId}
    (sound : ∀ id start m, read id start = some m → m.Everywhere Match.Arranged)
    (reads : kind.Reads read text id start m) : m.Everywhere Match.Arranged := by
  cases reads with
  | choice _ here _ => exact sound _ _ _ here
  | optional here _ => exact sound _ _ _ here
  | repetitionSingle here _ => exact sound _ _ _ here
  | sequence itemsRead =>
      refine Shape.build_arranged fun child member => ?_
      obtain ⟨_, _, _, here⟩ := itemsRead.chained.possible_of_mem member
      exact sound _ _ _ here
  | repetition here success steps =>
      refine arranged_of_children (fun _ => nofun) fun child member => ?_
      rcases (chained_items here success steps).possible_of_mem member with ⟨_, ⟨first, _⟩ | step⟩
      · exact sound _ _ _ first
      · exact step.arranged sound
  | literal _ | pattern _ _ | optionalMissed | repetitionEmpty _ | literalMissed | patternMissed
  | sequenceMissed | choiceMissed | repetitionMissed =>
      exact arranged_of_children (fun _ => nofun) (by simp)

end

namespace Registry

theorem readRule_arranged {registry : Registry} {input : String} {id : RuleId} {start : Nat}
    {m : Match RuleId} (found : registry.readRule input start id = some m) :
    m.Everywhere Match.Arranged := by
  refine readRule_induction (motive := fun _ _ m => m.Everywhere Match.Arranged) ?_ found
  intro read id rule start position m _ sound _ _ reads
  exact reads.arranged sound

end Registry

/-! ## Nodes in order -/

namespace Match

variable {R S : Type}

/-- The matches directly inside a match, each with the name of the field that holds it, if one does. -/
def entries (m : Match R) : List (Option String × Match R) :=
  match m.payload with
  | .absent => []
  | .scalar _ => []
  | .list items => items.map (none, ·)
  | .object fields => fields.map fun (name, item) => (some name, item)

theorem map_snd_entries (m : Match R) : m.entries.map Prod.snd = m.children := by
  obtain ⟨_, _, _, payload⟩ := m
  cases payload with
  | absent | scalar _ => rfl
  | list _ | object _ => simp [entries, children]

/-- The name of the field that holds the node at an address, if one does. -/
def fieldAt? : Match R → List Nat → Option String
  | _, [] => none
  | m, index :: address =>
      m.entries[index]?.bind fun (name, child) =>
        if address = [] then name else child.fieldAt? address

theorem fieldAt?_cons {m child : Match R} {index : Nat} {name : Option String}
    (here : m.entries[index]? = some (name, child)) (address : List Nat) :
    m.fieldAt? (index :: address) = if address = [] then name else child.fieldAt? address := by
  rw [fieldAt?, here, Option.bind_some]

theorem at?_cons_of_entries {m child : Match R} {index : Nat} {name : Option String}
    (here : m.entries[index]? = some (name, child)) (address : List Nat) :
    m.at? (index :: address) = child.at? address := by
  rw [at?_cons, ← map_snd_entries, List.getElem?_map, here, Option.map_some, Option.bind_some]

/-- The name of a field that holds a node is the name of a field of some node. -/
theorem exists_object_of_fieldAt? {m : Match R} {address : List Nat} {name : String}
    (found : m.fieldAt? address = some name) :
    ∃ above node fields, m.at? above = some node ∧ node.payload = .object fields ∧
      name ∈ fields.map Prod.fst := by
  induction address generalizing m with
  | nil => cases found
  | cons index address inductionHypothesis =>
      rw [fieldAt?, Option.bind_eq_some_iff] at found
      obtain ⟨⟨label, child⟩, here, below⟩ := found
      simp only at below
      split_ifs at below with last
      · subst below
        refine ⟨[], m, ?_⟩
        obtain ⟨_, _, _, payload⟩ := m
        cases payload with
        | absent | scalar _ => cases here
        | list items => simp [entries] at here
        | object fields =>
            rw [entries, List.getElem?_map, Option.map_eq_some_iff] at here
            obtain ⟨⟨field, item⟩, held, same⟩ := here
            cases same
            exact ⟨fields, rfl, rfl, List.mem_map_of_mem (List.mem_of_getElem? held)⟩
      · obtain ⟨above, node, fields, located, object, member⟩ := inductionHypothesis below
        exact ⟨index :: above, node, fields, (at?_cons_of_entries here above).trans located, object,
          member⟩

end Match

/-- The lines show one address each, all the addresses there are, in lexicographic order. -/
def Visits (addresses : Set (List Nat)) (shows : List Nat → String → Prop)
    (lines : List String) : Prop :=
  ∃ visited : List (List Nat), visited.Pairwise (· < ·) ∧
    (∀ address, address ∈ visited ↔ address ∈ addresses) ∧ List.Forall₂ shows visited lines

namespace Visits

variable {addresses addresses' : Set (List Nat)} {shows shows' : List Nat → String → Prop}
  {lines lines' : List String} {line : String}

theorem nil : Visits ∅ shows [] :=
  ⟨[], .nil, fun address => by simp, .nil⟩

theorem mono (visits : Visits addresses shows lines)
    (shown : ∀ address line, shows address line → shows' address line) :
    Visits addresses shows' lines := by
  obtain ⟨visited, ordered, all, each⟩ := visits
  exact ⟨visited, ordered, all, each.imp shown⟩

/-- The empty address is the first. -/
theorem root (visits : Visits addresses shows lines) (proper : [] ∉ addresses)
    (here : shows [] line) : Visits (insert [] addresses) shows (line :: lines) := by
  obtain ⟨visited, ordered, all, each⟩ := visits
  refine ⟨[] :: visited, List.pairwise_cons.mpr ⟨?_, ordered⟩, fun address => ?_, .cons here each⟩
  · intro address member
    cases address with
    | nil => exact absurd ((all []).mp member) proper
    | cons index below => exact List.nil_lt_cons index below
  · rw [List.mem_cons, Set.mem_insert_iff, all]

/-- Addresses below one index are in the order of what is below it. -/
theorem below (index : Nat)
    (visits : Visits addresses (fun below => shows (index :: below)) lines) :
    Visits ((index :: ·) '' addresses) shows lines := by
  obtain ⟨visited, ordered, all, each⟩ := visits
  refine ⟨visited.map (index :: ·), ?_, fun address => ?_, List.forall₂_map_left_iff.mpr each⟩
  · exact ordered.map _ fun below below' less => List.cons_lt_cons_iff.mpr (.inr ⟨rfl, less⟩)
  · simp [all]

theorem append (visits : Visits addresses shows lines) (visits' : Visits addresses' shows lines')
    (before : ∀ address ∈ addresses, ∀ address' ∈ addresses', address < address') :
    Visits (addresses ∪ addresses') shows (lines ++ lines') := by
  obtain ⟨visited, ordered, all, each⟩ := visits
  obtain ⟨visited', ordered', all', each'⟩ := visits'
  refine ⟨visited ++ visited', List.pairwise_append.mpr ⟨ordered, ordered', ?_⟩, fun address => ?_,
    List.rel_append each each'⟩
  · intro address member address' member'
    exact before address ((all address).mp member) address' ((all' address').mp member')
  · rw [List.mem_append, Set.mem_union, all, all']

theorem encard_eq (visits : Visits addresses shows lines) : addresses.encard = lines.length := by
  obtain ⟨visited, ordered, all, each⟩ := visits
  have same : addresses = ↑visited.toFinset := by
    ext address
    simp [all]
  have distinct : visited.Nodup := ordered.imp fun less => by
    rintro rfl
    exact List.lt_irrefl _ less
  rw [same, Set.encard_coe_eq_coe_finsetCard, List.toFinset_card_of_nodup distinct, each.length_eq]

end Visits

/-! ## One line for each node -/

namespace Report

/-- The line of a node in a tree that stands at some depth under some label. -/
def ShowsUnder (depth : Nat) (label : Option String) (m : Match String) (address : List Nat)
    (line : String) : Prop :=
  ∃ node, m.at? address = some node ∧
    line = nodeLine false (depth + address.length)
      (if address = [] then label else m.fieldAt? address) node.rule node.span node.payload

theorem payloadLines_eq (color : Bool) (depth : Nat) (m : Match String) :
    payloadLines color depth m.payload =
      m.entries.flatMap fun (name, child) => treeLines color depth name child := by
  obtain ⟨_, _, _, payload⟩ := m
  cases payload with
  | absent | scalar _ => rfl
  | list items =>
      rw [Match.entries, payloadLines, List.flatMap_map]
      induction items with
      | nil => rfl
      | cons item items inductionHypothesis => rw [itemLines, inductionHypothesis, List.flatMap_cons]
  | object fields =>
      rw [Match.entries, payloadLines, List.flatMap_map]
      induction fields with
      | nil => rfl
      | cons field fields inductionHypothesis =>
          rw [fieldLines, inductionHypothesis, List.flatMap_cons]

theorem treeLines_eq (color : Bool) (depth : Nat) (label : Option String) (m : Match String) :
    treeLines color depth label m = nodeLine color depth label m.rule m.span m.payload ::
      m.entries.flatMap fun (name, child) => treeLines color (depth + 1) name child := by
  rw [← payloadLines_eq]
  obtain ⟨_, _, _, _⟩ := m
  rfl

/-- The line of a node in a child is the line of that node in the whole. -/
theorem ShowsUnder.below {depth index : Nat} {label name : Option String} {m child : Match String}
    (here : m.entries[index]? = some (name, child)) {address : List Nat} {line : String}
    (shows : ShowsUnder (depth + 1) name child address line) :
    ShowsUnder depth label m (index :: address) line := by
  obtain ⟨node, found, rfl⟩ := shows
  refine ⟨node, (Match.at?_cons_of_entries here address).trans found, ?_⟩
  rw [if_neg (List.cons_ne_nil _ _), Match.fieldAt?_cons here, List.length_cons,
    Nat.add_right_comm, Nat.add_assoc]

theorem visits_entries {depth : Nat} {label : Option String} {m : Match String}
    (inside : ∀ child ∈ m.children, ∀ depth name,
      Visits child.addresses (ShowsUnder depth name child) (treeLines false depth name child))
    {entries : List (Option String × Match String)} {first : Nat}
    (here : ∀ index, m.entries[first + index]? = entries[index]?) :
    Visits (Match.addressesFrom first (entries.map Prod.snd)) (ShowsUnder depth label m)
      (entries.flatMap fun (name, child) => treeLines false (depth + 1) name child) := by
  induction entries generalizing first with
  | nil =>
      rw [List.map_nil, Match.addressesFrom_nil]
      exact .nil
  | cons entry entries inductionHypothesis =>
      obtain ⟨name, child⟩ := entry
      have entry : m.entries[first]? = some (name, child) := here 0
      have member : child ∈ m.children := by
        rw [← Match.map_snd_entries]
        exact List.mem_map_of_mem (List.mem_of_getElem? entry)
      have others : ∀ index, m.entries[first + 1 + index]? = entries[index]? := fun index => by
        rw [Nat.add_right_comm, Nat.add_assoc]
        exact here (index + 1)
      rw [List.map_cons, Match.addressesFrom_cons, List.flatMap_cons]
      refine .append (.below first ?_) (inductionHypothesis others) ?_
      · exact (inside child member (depth + 1) name).mono fun _ _ => ShowsUnder.below entry
      · rintro _ ⟨below, _, rfl⟩ _ ⟨index, below', _, rfl, _, _⟩
        exact List.cons_lt_cons_iff.mpr (.inl (by omega))

theorem visits_treeLines (m : Match String) (depth : Nat) (label : Option String) :
    Visits m.addresses (ShowsUnder depth label m) (treeLines false depth label m) := by
  induction m using Match.childrenInduction generalizing depth label with
  | step m inductionHypothesis =>
      rw [treeLines_eq, Match.addresses_eq, ← Match.map_snd_entries]
      refine .root (visits_entries inductionHypothesis fun index => ?_)
        Match.nil_notMem_addressesFrom ⟨m, rfl, rfl⟩
      rw [Nat.zero_add]

end Report

/-! ## Nothing breaks a line -/

/-- The text has no line feed. -/
def Unbroken (text : String) : Prop :=
  '\n' ∉ text.toList

instance (text : String) : Decidable (Unbroken text) :=
  inferInstanceAs (Decidable (¬ '\n' ∈ text.toList))

@[simp] theorem unbroken_append_iff {text text' : String} :
    Unbroken (text ++ text') ↔ Unbroken text ∧ Unbroken text' := by
  simp [Unbroken, not_or]

theorem notMem_toDigits {base : Nat} (large : 1 < base) (small : base ≤ 16) (n : Nat) :
    '\n' ∉ Nat.toDigits base n := by
  have digits : ∀ d < 16, Nat.digitChar d ≠ '\n' := by decide
  have other : ∀ c ∈ Nat.toDigits base n, c ≠ '\n' :=
    forall_mem_toDigits large (fun d less => digits d (less.trans_le small)) n
  exact fun member => other _ member rfl

theorem notMem_digitChars (n : Nat) : '\n' ∉ Decimal.digitChars n :=
  notMem_toDigits (by decide) (by decide) n

@[simp] theorem unbroken_repr (n : Nat) : Unbroken n.repr := by
  change '\n' ∉ (String.ofList (Nat.toDigits 10 n)).toList
  rw [String.toList_ofList]
  exact notMem_toDigits (by decide) (by decide) n

theorem Span.text_eq (span : Span) :
    span.text = toString span.start ++ ".." ++ toString span.stop :=
  rfl

theorem Span.unbroken_text (span : Span) : Unbroken span.text := by
  have points : Unbroken ".." := by decide
  simp [Span.text_eq, points]

namespace Value

theorem notMem_quotedChar (c : Char) : '\n' ∉ Text.quotedChar c := by
  unfold Text.quotedChar
  split
  any_goals decide
  next unbroken _ =>
    split_ifs
    · simp [Text.hexDigits, notMem_toDigits]
    · simpa [eq_comm] using unbroken

theorem notMem_positionalChars (scaled : Decimal.Scaled) :
    '\n' ∉ Decimal.positionalChars false scaled := by
  have digits := notMem_digitChars scaled.digits
  have padded : ∀ count, '\n' ∉ List.replicate count '0' ++ Decimal.digitChars scaled.digits := by
    simp [digits]
  unfold Decimal.positionalChars
  simp only [Bool.false_eq_true, if_false, List.append_nil]
  split
  · simp [digits]
  · simp only [List.mem_append, List.mem_cons, not_or]
    exact ⟨mt List.mem_of_mem_take (padded _), by decide, mt List.mem_of_mem_drop (padded _)⟩

theorem unbroken_shown_float (x : Float) : Unbroken (Value.float x).shown := by
  show Unbroken (Decimal.plainText x)
  unfold Decimal.plainText
  split
  next => decide
  next negative _ => cases negative <;> decide
  next negative significand exponent _ =>
    have body :=
      notMem_positionalChars (Decimal.shortest Decimal.Layout.plain.tie significand exponent)
    rw [Unbroken, String.toList_ofList, Decimal.Layout.finiteChars]
    simp only [Decimal.Layout.plain, if_true] at body ⊢
    split_ifs
    · simp [body]
    · exact body

theorem unbroken_shown (value : Value) : Unbroken value.shown := by
  cases value with
  | bool b => cases b <;> decide
  | int n =>
      rw [Unbroken, Numeral.toList_shown_int, Json.intChars]
      split_ifs <;> simp [notMem_digitChars]
  | float x => exact unbroken_shown_float x
  | text s =>
      rw [Unbroken, Quotation.toList_shown]
      simp [notMem_quotedChar]

end Value

/-! ## Dumps -/

/-- The names of the fields that a rule makes. -/
def RuleKind.fieldNames {R : Type} : RuleKind R → List String
  | .sequence _ (.object fields) => fields.map Prod.snd
  | _ => []

/-- No rule of the registry and no field has a line feed in its name. -/
def Registry.NamesUnbroken (registry : Registry) : Prop :=
  ∀ rule ∈ registry.rules, ∀ name ∈ rule.name :: rule.kind.fieldNames, Unbroken name

instance (registry : Registry) : Decidable registry.NamesUnbroken :=
  inferInstanceAs (Decidable (∀ rule ∈ registry.rules, _))

/-- No name at the node has a line feed. -/
structure Match.NamesUnbroken (node : Match String) : Prop where
  rule : Unbroken node.rule
  fields : ∀ fields, node.payload = .object fields →
    ∀ name ∈ fields.map Prod.fst, Unbroken name

theorem Match.Arranged.mapRule {R S : Type} {name : R → S} {node : Match R}
    (arranged : node.Arranged) : (node.mapRule name).Arranged := by
  intro fields object
  obtain ⟨fields', object', same⟩ := Match.exists_object_of_mapRule object
  rw [same]
  exact arranged fields' object'

/-- A rule carries objects of its own fields only. -/
theorem RuleKind.mem_fieldNames_of_carries {kind : RuleKind RuleId}
    {fields : List (String × Match RuleId)} (carries : kind.Carries (.object fields)) {name : String}
    (member : name ∈ fields.map Prod.fst) : name ∈ kind.fieldNames := by
  cases kind with
  | literal _ | optional _ => cases carries
  | pattern _ =>
      obtain ⟨_, _, impossible⟩ := carries
      cases impossible
  | choice _ => exact carries.elim
  | repetition _ => rcases carries with impossible | ⟨_, _, impossible⟩ <;> cases impossible
  | sequence items shape =>
      cases shape with
      | all | selection _ =>
          obtain ⟨_, _, impossible⟩ := carries
          cases impossible
      | one _ => exact carries.elim
      | object declared =>
          obtain ⟨held, names, same⟩ := carries
          cases same
          exact (names name).mp member

namespace Registry

variable {registry : Registry} {node m : Match RuleId}

theorem unbroken_dump (names : registry.NamesUnbroken) (typed : node.Typed registry) :
    (registry.dump node).NamesUnbroken := by
  obtain ⟨rule, known, carries⟩ := typed.carries
  have named := List.forall_mem_cons.mp (names rule (List.mem_of_getElem? known))
  refine ⟨?_, fun fields object name member => ?_⟩
  · have same : (registry.dump node).rule = rule.name := by
      obtain ⟨_, _, id, _⟩ := node
      have ruleName : registry.ruleName? id = some rule.name := congrArg (Option.map Rule.name) known
      show (registry.ruleName? id).getD unknownRuleName = rule.name
      rw [ruleName, Option.getD_some]
    rw [same]
    exact named.1
  · obtain ⟨fields', object', same⟩ := Match.exists_object_of_mapRule object
    rw [same] at member
    rw [object'] at carries
    exact named.2 name (RuleKind.mem_fieldNames_of_carries carries member)

end Registry

/-! ## The whole text -/

namespace Report

theorem toList_joinLines (lines : List String) :
    (joinLines lines).toList = ['\n'].intercalate (lines.map String.toList ++ [[]]) := by
  rw [joinLines, String.toList_join, List.flatMap_map]
  induction lines with
  | nil => rfl
  | cons line lines inductionHypothesis =>
      rw [List.flatMap_cons, inductionHypothesis, List.map_cons, List.cons_append,
        List.intercalate_cons_of_ne_nil (by simp), String.toList_append]
      rfl

/-- A text is divided into the lines that it was made of, and nothing behind the last. -/
theorem splitOn_joinLines {lines : List String} (unbroken : ∀ line ∈ lines, Unbroken line) :
    (joinLines lines).toList.splitOn '\n' = (lines ++ [""]).map String.toList := by
  have whole : ∀ line ∈ (lines ++ [""]).map String.toList, '\n' ∉ line := by
    rw [List.forall_mem_map, List.forall_mem_append, List.forall_mem_singleton]
    exact ⟨unbroken, by decide⟩
  rw [toList_joinLines, ← List.splitOn_intercalate '\n' whole (by simp), List.map_append]
  rfl

/-- The line of a tree for the node at an address: two blanks for each step down to it, the name of its
field if it has one, its rule, its span, and its value exactly where it holds one. -/
def Shows (tree : Match String) (address : List Nat) (line : String) : Prop :=
  ∃ node value, tree.at? address = some node ∧
    line = String.ofList (List.replicate (2 * address.length) ' ') ++
      (tree.fieldAt? address).elim "" (· ++ ": ") ++ node.rule ++
      " [" ++ toString node.start ++ ".." ++ toString node.stop ++ "]" ++ value ∧
    (∀ scalar, node.payload = .scalar scalar → value = " = " ++ scalar.shown) ∧
    ((∀ scalar, node.payload ≠ .scalar scalar) → value = "")

/-- One line for each node of a tree, as many as there are, in the order of the addresses. -/
structure Outlines (tree : Match String) (lines : List String) : Prop where
  visits : Visits tree.addresses (Shows tree) lines
  count : lines.length = tree.nodeCount

theorem ShowsUnder.shows {m : Match String} {address : List Nat} {line : String}
    (shows : ShowsUnder 0 none m address line) : Shows m address line := by
  obtain ⟨node, found, rfl⟩ := shows
  have label : (if address = [] then none else m.fieldAt? address) = m.fieldAt? address := by
    cases address <;> rfl
  refine ⟨node, valueText node.payload, found, ?_, ?_, ?_⟩
  · rw [label, Nat.zero_add]
    have field : labelText false (m.fieldAt? address) = (m.fieldAt? address).elim "" (· ++ ": ") := by
      cases m.fieldAt? address <;> rfl
    rw [nodeLine, field, indent, Span.text_eq]
    simp only [emphasize, Bool.false_eq_true, if_false, String.append_assoc]
    rfl
  · intro scalar holds
    rw [holds, valueText]
  · intro other
    cases payload : node.payload with
    | scalar value => exact absurd payload (other value)
    | absent | list _ | object _ => rfl

/-- A line shows no line feed if no name has one. -/
theorem Shows.unbroken {tree : Match String} {address : List Nat} {line : String}
    (names : tree.Everywhere Match.NamesUnbroken) (shows : Shows tree address line) :
    Unbroken line := by
  obtain ⟨node, value, found, rfl, scalar, other⟩ := shows
  have rule : Unbroken node.rule := (names.at? found).rule
  have field : Unbroken ((tree.fieldAt? address).elim "" (· ++ ": ")) := by
    cases named : tree.fieldAt? address with
    | none => decide
    | some name =>
        obtain ⟨above, parent, fields, here, object, member⟩ :=
          Match.exists_object_of_fieldAt? named
        have plain := (names.at? here).fields fields object name member
        have colon : Unbroken ": " := by decide
        simp [plain, colon]
  have value : Unbroken value := by
    by_cases holds : ∃ held, node.payload = .scalar held
    · obtain ⟨held, holds⟩ := holds
      have equals : Unbroken " = " := by decide
      simp [scalar held holds, equals, Value.unbroken_shown]
    · rw [other fun held same => holds ⟨held, same⟩]
      decide
  have blanks : Unbroken (String.ofList (List.replicate (2 * address.length) ' ')) := by
    simp [Unbroken]
  have marks : Unbroken " [" ∧ Unbroken ".." ∧ Unbroken "]" := by decide
  simp [blanks, field, rule, marks, value]

/-- The first line: what was read and how many bytes it covers. -/
def header (entry input : String) (span : Span) (covered : Nat) : String :=
  "OK " ++ entry ++ " matched " ++ span.text ++
    (" (" ++ toString covered ++ " of " ++ toString input.utf8ByteSize ++ " bytes)")

/-- A warning stands where the match does not end where the input ends. -/
def warnings (input : String) (stop : Nat) : List String :=
  if stop = input.utf8ByteSize then [] else ["warning: input not fully consumed"]

theorem unbroken_header {entry input : String} (named : Unbroken entry) (span : Span) (covered : Nat) :
    Unbroken (header entry input span covered) := by
  have marks : Unbroken "OK " ∧ Unbroken " matched " ∧ Unbroken " (" ∧ Unbroken " of " ∧
      Unbroken " bytes)" := by decide
  simp [header, named, span.unbroken_text, marks]

theorem unbroken_warnings (input : String) (stop : Nat) :
    ∀ line ∈ warnings input stop, Unbroken line := by
  unfold warnings
  split
  · exact nofun
  · rw [List.forall_mem_singleton]
    decide

/-- The lines of a success. -/
theorem lines_ofMatch {registry : Registry} {entry input : String} {m : Match RuleId}
    (success : m.success = true) :
    (ofMatch registry entry input m).lines false =
      header entry input m.span m.span.length :: (warnings input m.stop ++
        "" :: treeLines false 0 none (registry.dump m)) := by
  have succeeds : (ofMatch registry entry input m).success = true := by
    rw [← success]
    obtain ⟨_, _, _, _⟩ := m
    rfl
  have span : (ofMatch registry entry input m).tree.span = m.span := by
    obtain ⟨_, _, _, _⟩ := m
    rfl
  have first : successLine false (ofMatch registry entry input m) =
      header entry input m.span m.span.length := by
    rw [successLine, span, header, show "OK " = "OK" ++ " " by decide]
    simp only [emphasize, Bool.false_eq_true, if_false, String.append_assoc]
    rfl
  have warned : warningLines false (ofMatch registry entry input m) = warnings input m.stop := by
    rw [warningLines, complete, succeeds, Match.stop, span, Bool.true_and]
    by_cases whole : m.span.stop = input.utf8ByteSize <;>
      simp [warnings, emphasize, ofMatch, Match.stop, whole]
  rw [lines, if_pos succeeds, first, warned]
  rfl

theorem outlines_treeLines (tree : Match String) : Outlines tree (treeLines false 0 none tree) := by
  have visits := (visits_treeLines tree 0 none).mono fun _ _ => ShowsUnder.shows
  have count := tree.encard_addresses.symm.trans visits.encard_eq
  exact ⟨visits, (Nat.cast_inj.mp count).symm⟩

theorem Outlines.unbroken {tree : Match String} {lines : List String}
    (outlines : Outlines tree lines) (names : tree.Everywhere Match.NamesUnbroken) :
    ∀ line ∈ lines, Unbroken line := by
  obtain ⟨visited, _, _, each⟩ := outlines.visits
  intro line member
  obtain ⟨address, _, shows⟩ := exists_related_of_mem each member
  exact shows.unbroken names

end Report

namespace Registry

variable {rules : List RuleDef} {registry : Registry} {entry input : String} {id : RuleId}
  {start : Nat} {m : Match RuleId}

/-- Where no name has a line feed, the text of a success is divided into a first line, a warning unless
the whole input was read, an empty line, and one line for each node of the tree, whatever the values in it
are. Children are in order, and those of an object by the bytes of their names. -/
theorem readRule_outline (built : ofRules rules = .ok registry) (names : registry.NamesUnbroken)
    (named : Unbroken entry) (found : registry.readRule input start id = some m)
    (success : m.success = true) :
    ∃ covered lines, m.start + covered = m.stop ∧ Report.Outlines (registry.dump m) lines ∧
      (registry.dump m).Everywhere Match.Arranged ∧
      ((Report.ofMatch registry entry input m).text false).toList.splitOn '\n' =
        (Report.header entry input m.span covered :: (Report.warnings input m.stop ++
          "" :: lines ++ [""])).map String.toList := by
  have typed := readRule_everywhere_typed (wellFormed_of_ofRules built) found success
  have unbroken : (registry.dump m).Everywhere Match.NamesUnbroken :=
    typed.mapRule fun _ => unbroken_dump names
  have arranged : (registry.dump m).Everywhere Match.Arranged :=
    (readRule_arranged found).mapRule fun _ => Match.Arranged.mapRule
  have outlines := Report.outlines_treeLines (registry.dump m)
  refine ⟨m.span.length, _, Nat.add_sub_of_le (readRule_ordered found), outlines, arranged, ?_⟩
  rw [Report.text, Report.splitOn_joinLines, Report.lines_ofMatch success]
  · simp
  · rw [Report.lines_ofMatch success, List.forall_mem_cons, List.forall_mem_append,
      List.forall_mem_cons]
    exact ⟨Report.unbroken_header named _ _, Report.unbroken_warnings _ _, by decide,
      outlines.unbroken unbroken⟩

/-- A line break and a mark behind it, under names that are listed the other way round. -/
def markedBreak : List RuleDef :=
  [RuleDef.ofKind "main" (.sequence ["break", "mark"] (.object [(0, "text"), (1, "mark")])),
    RuleDef.ofKind "break" (.literal "\n"),
    RuleDef.ofKind "mark" (.literal "!"),
    RuleDef.ofKind "skip" (.literal " ") (some false)]

/-- The break has a line of its own, and only one. -/
theorem readRule_outline_markedBreak :
    ∃ registry m, ofRules markedBreak = .ok registry ∧ registry.NamesUnbroken ∧ Unbroken "main" ∧
      registry.readRule "\n!?" 0 ⟨8⟩ = some m ∧ m.success = true ∧ (registry.dump m).nodeCount = 3 ∧
      ∃ covered lines, m.start + covered = m.stop ∧ Report.Outlines (registry.dump m) lines ∧
        (registry.dump m).Everywhere Match.Arranged ∧
        ((Report.ofMatch registry "main" "\n!?" m).text false).toList.splitOn '\n' =
          (Report.header "main" "\n!?" m.span covered :: (Report.warnings "\n!?" m.stop ++
            "" :: lines ++ [""])).map String.toList := by
  obtain ⟨registry, built, names, read⟩ : ∃ registry, ofRules markedBreak = .ok registry ∧
      registry.NamesUnbroken ∧
      (registry.readRule "\n!?" 0 ⟨8⟩).map (fun m => (m.success, (registry.dump m).nodeCount)) =
        some (true, 3) :=
    exists_ok_of_any (by decide +kernel)
  obtain ⟨m, found, shown⟩ := Option.map_eq_some_iff.mp read
  rw [Prod.mk.injEq] at shown
  have named : Unbroken "main" := by decide
  exact ⟨registry, m, built, names, named, found, shown.1, shown.2,
    readRule_outline built names named found shown.1⟩

end Registry

end RuleGrammar
