import Mathlib.Data.String.Basic
import RuleGrammar.Dump
import RuleGrammar.Proofs.Traversal
import RuleGrammar.Proofs.Tree
import RuleGrammar.Proofs.Json.Reading

/-!
Owns dumps read back from their own JSON texts.

Contract: a dump that can be stored (`Match.Storable`) and is nested no deeper than a text may be is what
its text holds, and every dump that a text holds is one of these. Of the floats in a dump it is
assumed that they are read back from their own texts (`Match.Reproduces`); not all floats are.
-/

namespace RuleGrammar

/-! ## Scalars -/

theorem Decimal.int64?_toInt (n : Int64) : int64? n.toInt = some n := by
  have low := Int64.le_toInt n
  have high := Int64.toInt_lt n
  rw [int64?, if_pos ⟨low, high⟩, Int64.ofInt_toInt]

namespace Value

variable {value : Value} {depth : Nat}

@[simp] theorem ofJson?_toJson (value : Value) : ofJson? value.toJson = some value := by
  cases value with
  | bool b => rfl
  | int n => simp only [toJson, ofJson?, Decimal.int64?_toInt]
  | float x => rfl
  | text s => rfl

@[simp] theorem nesting_toJson (value : Value) : value.toJson.nesting = 0 := by
  cases value <;> rfl

theorem fits_toJson {good : Float → Prop} (floats : ∀ x, value = .float x → good x) :
    value.toJson.Fits good depth := by
  cases value with
  | bool b => exact .bool
  | int n =>
      have low := Int64.le_toInt n
      have high := Int64.toInt_lt n
      exact .int low (by simp only [UInt64.size]; omega)
  | float x => exact .float (floats x rfl)
  | text s => exact .string

/-- An integer beyond the signed ones becomes a number all the same. -/
theorem finite_of_ofJson? {json : Json} {x : Float} (fits : json.Fits Json.Finite depth)
    (read : ofJson? json = some (.float x)) : Json.Finite x := by
  cases fits with
  | @int _ n low high =>
      simp only [ofJson?] at read
      split at read
      next => cases read
      next beyond =>
        cases read
        rw [Decimal.int64?, ite_eq_right_iff] at beyond
        lift n to Nat using by
          by_contra negative
          exact absurd (beyond ⟨low, by omega⟩) (by simp)
        exact Binary64.isFinite_ofNat (by omega)
  | float finite => cases read; exact finite
  | _ => cases read

end Value

namespace Match

variable {good : Float → Prop} {m : Match String} {fuel depth : Nat}

/-! ## Written dumps -/

theorem itemsToJson_eq_map (items : List (Match String)) : itemsToJson items = items.map toJson := by
  induction items with
  | nil => rfl
  | cons item items inductionHypothesis => rw [itemsToJson, inductionHypothesis, List.map_cons]

theorem fieldsToJson_eq_map (fields : List (String × Match String)) :
    fieldsToJson fields = fields.map (Prod.map id toJson) := by
  induction fields with
  | nil => rfl
  | cons field fields inductionHypothesis =>
      rw [fieldsToJson, inductionHypothesis, List.map_cons]
      rfl

/-- The members of a dump. -/
theorem toJson_eq (m : Match String) :
    m.toJson = .object [("success", .bool m.success), ("rule", .string m.rule),
      ("start", .int m.start), ("end", .int m.stop), ("result", payloadToJson m.payload)] := by
  cases m
  rfl

theorem nesting_toJson (m : Match String) :
    m.toJson.nesting = (payloadToJson m.payload).nesting + 1 := by
  simp [toJson_eq, Json.nesting, Json.nestingMembers]

/-- The nesting of a payload is one more than that of the matches in it. -/
theorem nesting_payloadToJson_le_iff :
    (payloadToJson m.payload).nesting ≤ depth + 1 ↔
      ∀ child ∈ m.children, child.toJson.nesting ≤ depth := by
  obtain ⟨success, span, rule, payload⟩ := m
  cases payload with
  | absent => simp [payloadToJson, Json.nesting, children]
  | scalar value => simp [payloadToJson, children]
  | list items =>
      rw [payloadToJson, itemsToJson_eq_map, Json.nesting, Nat.succ_le_succ_iff,
        Json.nestingItems_le_iff, List.forall_mem_map]
      rfl
  | object fields =>
      rw [payloadToJson, fieldsToJson_eq_map, Json.nesting, Nat.succ_le_succ_iff,
        Json.nestingMembers_le_iff, List.forall_mem_map, children, List.forall_mem_map]
      rfl

/-- A match in a dump is nested two deeper: in the members of the dump, and among its likes. -/
theorem nesting_child {child : Match String} (member : child ∈ m.children) :
    child.toJson.nesting + 2 ≤ m.toJson.nesting := by
  have within : child.toJson.nesting ≤ (payloadToJson m.payload).nesting - 1 :=
    nesting_payloadToJson_le_iff.mp (by omega) child member
  have positive := nesting_toJson child
  rw [nesting_toJson m]
  omega

/-! ## Dumps that can be stored -/

/-- What of a match does not get lost in a text: offsets of 64 bits, fields in the order of their names,
and a float that is `good`. -/
structure Storable (good : Float → Prop) (m : Match String) : Prop where
  start : m.start < UInt64.size
  stop : m.stop < UInt64.size
  fields : ∀ fields, m.payload = .object fields → Fields.Ascending fields
  float : ∀ x, m.payload = .scalar (.float x) → good x

theorem fits_payloadToJson (storable : m.Storable good)
    (nested : (payloadToJson m.payload).nesting ≤ depth)
    (inside : ∀ child ∈ m.children, child.toJson.Fits good (depth - 1)) :
    (payloadToJson m.payload).Fits good depth := by
  obtain ⟨success, span, rule, payload⟩ := m
  cases payload with
  | absent => exact .null
  | scalar value => exact Value.fits_toJson fun x carried => storable.float x (by rw [carried])
  | list items =>
      rw [payloadToJson, itemsToJson_eq_map] at nested ⊢
      exact Json.fits_array_iff.mpr ⟨Nat.zero_lt_of_lt nested, List.forall_mem_map.mpr inside⟩
  | object fields =>
      rw [payloadToJson, fieldsToJson_eq_map] at nested ⊢
      exact Json.fits_object_iff.mpr ⟨Nat.zero_lt_of_lt nested,
        List.forall_mem_map.mpr fun field member => inside field.2 (List.mem_map_of_mem member)⟩

/-- A dump is written as a value that fits. -/
theorem fits_toJson (storable : m.Everywhere (Storable good)) (nested : m.toJson.nesting ≤ depth) :
    m.toJson.Fits good depth := by
  induction storable generalizing depth with
  | @node m here _ inductionHypothesis =>
      have offset : ∀ n : Nat, n < UInt64.size → Json.Fits good (depth - 1) (.int n) :=
        fun n small => .int (by omega) (by omega)
      have result : (payloadToJson m.payload).Fits good (depth - 1) := by
        rw [nesting_toJson] at nested
        refine fits_payloadToJson here (by omega) fun child member => ?_
        have inside := nesting_child member
        rw [nesting_toJson m] at inside
        exact inductionHypothesis child member (by omega)
      rw [nesting_toJson] at nested
      rw [toJson_eq, Json.fits_object_iff]
      refine ⟨by omega, ?_⟩
      simp only [List.forall_mem_cons]
      exact ⟨.bool, .string, offset _ here.start, offset _ here.stop, result, by simp⟩

/-! ## Read dumps -/

/-- The reading of a result. -/
def payloadOfJson? (fuel : Nat) : Json → Option (Payload (Match String))
  | .null => some .absent
  | .array items => (items.mapM (ofJson? fuel)).map .list
  | .object members =>
      (members.mapM fun (member : String × Json) =>
          (ofJson? fuel member.2).map (member.1, ·)).map
        fun fields => .object (Fields.ofBindings fields)
  | json => (Value.ofJson? json).map .scalar

theorem ofJson?_succ (fuel : Nat) (json : Json) :
    ofJson? (fuel + 1) json =
      match json with
      | .array [success, rule, start, stop] => ofParts? success rule start stop (some .absent)
      | .array [success, rule, start, stop, result] =>
          ofParts? success rule start stop (payloadOfJson? fuel result)
      | .object members => do
          ofParts? (← required? "success" members) (← required? "rule" members)
            (← required? "start" members) (← required? "end" members)
            (payloadOfJson? fuel (← resultMember? members))
      | _ => none :=
  rfl

/-- The members that are looked for are those that are written. -/
theorem ofJson?_members (fuel : Nat) (success rule start stop result : Json) :
    ofJson? (fuel + 1) (.object [("success", success), ("rule", rule), ("start", start),
      ("end", stop), ("result", result)]) =
      ofParts? success rule start stop (payloadOfJson? fuel result) :=
  rfl

theorem offsetOfJson?_ofNat {n : Nat} (small : n < UInt64.size) :
    offsetOfJson? (.int n) = some n := by
  rw [offsetOfJson?, if_pos ⟨Int.natCast_nonneg n, by exact_mod_cast small⟩, Int.toNat_natCast]

theorem ofParts?_toJson (storable : m.Storable good) :
    ofParts? (.bool m.success) (.string m.rule) (.int m.start) (.int m.stop) (some m.payload) =
      some m := by
  obtain ⟨success, ⟨start, stop⟩, rule, payload⟩ := m
  have start := offsetOfJson?_ofNat storable.start
  have stop := offsetOfJson?_ofNat storable.stop
  simp only [ofParts?, start, stop, successOfJson?, ruleOfJson?]
  rfl

theorem payloadOfJson?_toJson (storable : m.Storable good)
    (inside : ∀ child ∈ m.children, ofJson? fuel child.toJson = some child) :
    payloadOfJson? fuel (payloadToJson m.payload) = some m.payload := by
  obtain ⟨success, span, rule, payload⟩ := m
  cases payload with
  | absent => rfl
  | scalar value =>
      have read : (Value.ofJson? value.toJson).map (Payload.scalar (M := Match String)) =
          some (.scalar value) := by rw [Value.ofJson?_toJson, Option.map_some]
      cases value <;> exact read
  | list items =>
      have read : (items.map toJson).mapM (ofJson? fuel) = some items := by
        rw [mapM_eq_some_iff, List.map_map]
        exact List.map_congr_left inside
      rw [payloadToJson, itemsToJson_eq_map, payloadOfJson?, read, Option.map_some]
  | object fields =>
      have read : (fields.map (Prod.map id toJson)).mapM (fun member =>
          (ofJson? fuel member.2).map (member.1, ·)) = some fields := by
        rw [mapM_eq_some_iff, List.map_map]
        refine List.map_congr_left fun field member => ?_
        have back := inside field.2 (List.mem_map_of_mem member)
        simp only [Function.comp_apply, Prod.map, back, Option.map_some, id_eq]
      have ascending := storable.fields fields rfl
      rw [payloadToJson, fieldsToJson_eq_map, payloadOfJson?, read, Option.map_some,
        ascending.ofBindings_eq]

/-- A dump is read back from the value that it is written as. -/
theorem ofJson?_toJson (storable : m.Everywhere (Storable good)) (enough : m.toJson.nesting ≤ fuel) :
    ofJson? fuel m.toJson = some m := by
  induction storable generalizing fuel with
  | @node m here _ inductionHypothesis =>
      have root := nesting_toJson m
      obtain ⟨fuel, rfl⟩ : ∃ further, fuel = further + 1 := ⟨fuel - 1, by omega⟩
      have result : payloadOfJson? fuel (payloadToJson m.payload) = some m.payload :=
        payloadOfJson?_toJson here fun child member => by
          have inside := nesting_child member
          exact inductionHypothesis child member (by omega)
      rw [toJson_eq, ofJson?_members, result, ofParts?_toJson here]

theorem offsetOfJson?_lt {json : Json} {n : Nat} (read : offsetOfJson? json = some n) :
    n < UInt64.size := by
  unfold offsetOfJson? at read
  split at read
  next number =>
    rw [Option.ite_none_right_eq_some, Option.some.injEq] at read
    omega
  next => cases read

theorem ofParts?_eq_some {success rule start stop : Json} {payload : Option (Payload (Match String))}
    (read : ofParts? success rule start stop payload = some m) :
    m.start < UInt64.size ∧ m.stop < UInt64.size ∧ payload = some m.payload := by
  simp only [ofParts?, Option.bind_eq_bind, Option.bind_eq_some_iff, Option.some.injEq] at read
  obtain ⟨_, _, _, start, _, stop, _, _, payload, known, rfl⟩ := read
  exact ⟨offsetOfJson?_lt start, offsetOfJson?_lt stop, known⟩

theorem mem_of_mem_valuesOf {name : String} {members : List (String × Json)} {value : Json}
    (member : value ∈ valuesOf name members) : (name, value) ∈ members := by
  obtain ⟨⟨other, value⟩, held, rfl⟩ := List.mem_map.mp member
  obtain ⟨held, same⟩ := List.mem_filter.mp held
  exact (beq_iff_eq.mp same) ▸ held

/-- The part of a value that is read for the result of a dump; `null` where it is left out. -/
inductive HasResult : Json → Json → Prop where
  | item {items : List Json} {result : Json} :
      result = .null ∨ result ∈ items → HasResult (.array items) result
  | member {members : List (String × Json)} {result : Json} :
      result = .null ∨ ("result", result) ∈ members → HasResult (.object members) result

theorem exists_hasResult {json : Json} (read : ofJson? (fuel + 1) json = some m) :
    m.start < UInt64.size ∧ m.stop < UInt64.size ∧
      ∃ result, HasResult json result ∧ payloadOfJson? fuel result = some m.payload := by
  rw [ofJson?_succ] at read
  split at read
  next =>
    obtain ⟨start, stop, known⟩ := ofParts?_eq_some read
    exact ⟨start, stop, .null, .item (.inl rfl), known⟩
  next result =>
    obtain ⟨start, stop, known⟩ := ofParts?_eq_some read
    exact ⟨start, stop, result, .item (.inr (by simp)), known⟩
  next members =>
    simp only [Option.bind_eq_bind, Option.bind_eq_some_iff] at read
    obtain ⟨_, _, _, _, _, _, _, _, result, found, read⟩ := read
    obtain ⟨start, stop, known⟩ := ofParts?_eq_some read
    refine ⟨start, stop, result, .member ?_, known⟩
    unfold resultMember? at found
    split at found
    next => cases found; exact .inl rfl
    next value only =>
      cases found
      exact .inr (mem_of_mem_valuesOf (only ▸ List.mem_singleton_self _))
    next => cases found
  next => cases read

theorem HasResult.fits {json result : Json} (has : HasResult json result)
    (fits : json.Fits good depth) : 0 < depth ∧ result.Fits good (depth - 1) := by
  cases has with
  | item origin =>
      obtain ⟨room, items⟩ := Json.fits_array_iff.mp fits
      rcases origin with rfl | held
      · exact ⟨room, .null⟩
      · exact ⟨room, items _ held⟩
  | member origin =>
      obtain ⟨room, members⟩ := Json.fits_object_iff.mp fits
      rcases origin with rfl | held
      · exact ⟨room, .null⟩
      · exact ⟨room, members _ held⟩

/-! ## Dumps that a text holds -/

/-- A dump that can be stored where `depth` levels of nesting are left. -/
structure Holdable (depth : Nat) (m : Match String) : Prop where
  storable : m.Everywhere (Storable Json.Finite)
  nested : m.toJson.nesting ≤ depth

theorem Holdable.of_children (here : m.Storable Json.Finite)
    (inside : ∀ child ∈ m.children, child.Holdable depth) : m.Holdable (depth + 2) where
  storable := .node here fun child member => (inside child member).storable
  nested := by
    rw [nesting_toJson, Nat.succ_le_succ_iff, nesting_payloadToJson_le_iff]
    exact fun child member => (inside child member).nested

/-- What is read of a result that fits can be stored, if that is so of all matches in it. -/
theorem holdable_of_payloadOfJson? {result : Json} (start : m.start < UInt64.size)
    (stop : m.stop < UInt64.size)
    (inside : ∀ depth json child, json.Fits Json.Finite depth → ofJson? fuel json = some child →
      child.Holdable depth)
    (fits : result.Fits Json.Finite depth) (read : payloadOfJson? fuel result = some m.payload) :
    m.Holdable (depth + 1) := by
  obtain ⟨success, span, rule, payload⟩ := m
  have scalar : (Value.ofJson? result).map .scalar = some payload →
      Holdable (depth + 1) ⟨success, span, rule, payload⟩ := by
    intro known
    obtain ⟨value, valued, rfl⟩ := Option.map_eq_some_iff.mp known
    refine ⟨.node ⟨start, stop, nofun, fun x carried => ?_⟩ nofun, ?_⟩
    · cases carried
      exact Value.finite_of_ofJson? fits valued
    · simp [nesting_toJson, payloadToJson]
  cases fits with
  | null =>
      cases read
      refine ⟨.node ⟨start, stop, nofun, nofun⟩ nofun, ?_⟩
      simp [nesting_toJson, payloadToJson, Json.nesting]
  | @array depth items fits =>
      obtain ⟨children, traversed, rfl⟩ := Option.map_eq_some_iff.mp read
      refine .of_children ⟨start, stop, nofun, nofun⟩ fun child member => ?_
      obtain ⟨item, held, known⟩ := exists_of_mem_mapM traversed member
      exact inside depth item child (fits item held) known
  | @object depth members fits =>
      obtain ⟨fields, traversed, rfl⟩ := Option.map_eq_some_iff.mp read
      refine .of_children ⟨start, stop, ?_, nofun⟩ fun child member => ?_
      · rintro _ ⟨rfl⟩
        exact Fields.ascending_ofBindings fields
      · obtain ⟨⟨name, child⟩, entry, rfl⟩ := List.mem_map.mp member
        obtain ⟨⟨key, json⟩, held, bound⟩ :=
          exists_of_mem_mapM traversed (Fields.mem_of_mem_ofBindings entry)
        obtain ⟨_, known, same⟩ := Option.map_eq_some_iff.mp bound
        cases same
        exact inside depth json child (fits _ held) known
  | bool => exact scalar read
  | int => exact scalar read
  | float => exact scalar read
  | string => exact scalar read

theorem holdable_of_ofJson? (fuel : Nat) :
    ∀ depth json m, json.Fits Json.Finite depth → ofJson? fuel json = some m → m.Holdable depth := by
  induction fuel with
  | zero =>
      intro depth json m fits read
      cases read
  | succ fuel inductionHypothesis =>
      intro depth json m fits read
      obtain ⟨start, stop, result, has, known⟩ := exists_hasResult read
      obtain ⟨room, fits⟩ := has.fits fits
      obtain ⟨depth, rfl⟩ := Nat.exists_eq_add_one.mpr room
      exact holdable_of_payloadOfJson? start stop inductionHypothesis fits known

/-- Only dumps that can be stored are read from texts. -/
theorem holdable_of_parse? {text : String} (parsed : parse? text = some m) :
    m.Holdable Json.nestingLimit := by
  obtain ⟨json, outermost, read⟩ := Option.bind_eq_some_iff.mp parsed
  rcases Json.fits_of_parse? outermost with fits | ⟨members, rfl, fits⟩
  · exact holdable_of_ofJson? _ _ _ _ fits read
  · obtain ⟨start, stop, result, has, known⟩ := exists_hasResult read
    have heeded : result.Fits Json.Finite (Json.nestingLimit - 1) := by
      cases has with
      | member origin =>
          rcases origin with rfl | held
          · exact .null
          · exact fits _ held rfl
    exact holdable_of_payloadOfJson? start stop (holdable_of_ofJson? _) heeded known

/-! ## Round trips -/

/-- A float of the match is read back from its own text, as a float, if it stands for a number. -/
def Reproduces (m : Match String) : Prop :=
  ∀ x, m.payload = .scalar (.float x) → Json.Finite x → Json.Reproduced x

theorem Holdable.parse?_pretty (holdable : m.Holdable Json.nestingLimit)
    (reproduces : m.Everywhere Reproduces) : parse? (Json.pretty m.toJson) = some m := by
  have storable : m.Everywhere (Storable Json.Reproduced) :=
    (holdable.storable.and reproduces).mono fun m ⟨storable, reproduced⟩ =>
      { storable with float := fun x carried => reproduced x carried (storable.float x carried) }
  have fits := fits_toJson storable holdable.nested
  have outermost : Json.parse? memberNames.contains (Json.pretty m.toJson) = some m.toJson := by
    rw [toJson_eq] at fits ⊢
    refine Json.parse?_pretty fits ?_
    simp [memberNames]
  rw [parse?, outermost]
  exact ofJson?_toJson storable (Nat.le_succ_of_le holdable.nested)

/-- A dump that can be stored is read back from its text; and what is read from any text is read
again from its own. -/
theorem parse?_pretty_toJson :
    (∀ m : Match String, m.Everywhere (Storable Json.Finite) → m.toJson.nesting ≤ Json.nestingLimit →
      m.Everywhere Reproduces → parse? (Json.pretty m.toJson) = some m) ∧
    (∀ (text : String) (m : Match String), parse? text = some m → m.Everywhere Reproduces →
      parse? (Json.pretty m.toJson) = some m) :=
  ⟨fun _ storable nested reproduces => Holdable.parse?_pretty ⟨storable, nested⟩ reproduces,
    fun _ _ parsed reproduces => (holdable_of_parse? parsed).parse?_pretty reproduces⟩

/-- The float that a match carries. -/
def float? (m : Match String) : Option Float :=
  match m.payload with
  | .scalar (.float x) => some x
  | _ => none

theorem payload_of_float? {x : Float} (carried : m.float? = some x) :
    m.payload = .scalar (.float x) := by
  unfold float? at carried
  split at carried
  next same => rw [same, Option.some.inj carried]
  next => cases carried

/-- A dump with each kind of payload; its fields are called like members of a dump. -/
def nestedDump : Match String :=
  ⟨true, ⟨0, UInt64.size - 1⟩, "\"rule\"\n", .object
    [("result", ⟨true, ⟨0, 2⟩, "list", .list
        [⟨true, ⟨0, 1⟩, "zero", .scalar (.float (-0.0))⟩,
          ⟨true, ⟨1, 2⟩, "int", .scalar (.int (-1))⟩]⟩),
      ("success", ⟨false, ⟨3, 3⟩, "é", .absent⟩)]⟩

theorem nestedDump_everywhere :
    nestedDump.Everywhere fun m => m.Storable Json.Finite ∧ m.Reproduces := by
  refine .node ⟨⟨by decide, by decide, ?_, nofun⟩, nofun⟩ ?_
  · rintro _ ⟨rfl⟩
    unfold Fields.Ascending
    decide
  refine List.forall_mem_cons.mpr ⟨?list, List.forall_mem_singleton.mpr ?absent⟩
  case list =>
    refine .node ⟨⟨by decide, by decide, nofun, nofun⟩, nofun⟩ ?_
    refine List.forall_mem_cons.mpr ⟨?float, List.forall_mem_singleton.mpr ?int⟩
    case float =>
      refine .node ⟨⟨by decide, by decide, nofun, ?_⟩, ?_⟩ nofun
      · rintro _ ⟨rfl⟩
        rfl
      · rintro _ ⟨rfl⟩ _
        rfl
    case int => exact .node ⟨⟨by decide, by decide, nofun, nofun⟩, nofun⟩ nofun
  case absent => exact .node ⟨⟨by decide, by decide, nofun, nofun⟩, nofun⟩ nofun

set_option maxRecDepth 10000 in
/-- An object out of objects, and an array with an integer beyond the signed ones. -/
theorem parse?_pretty_toJson_nestedDump :
    parse? (Json.pretty nestedDump.toJson) = some nestedDump ∧
      ∃ m, parse? "[true,\"int\",0,1,9223372036854775808]" = some m ∧
        m.payload = .scalar (.float 9223372036854775808.0) ∧
        parse? (Json.pretty m.toJson) = some m := by
  obtain ⟨m, parsed, carried⟩ : ∃ m, parse? "[true,\"int\",0,1,9223372036854775808]" = some m ∧
      m.float? = some 9223372036854775808.0 :=
    Option.bind_eq_some_iff.mp (by decide +kernel)
  have float := payload_of_float? carried
  have reproduces : m.Everywhere Reproduces := by
    refine .node (fun x held _ => ?_) ?_
    · rw [float] at held
      cases held
      rfl
    · rw [children, float]
      nofun
  exact ⟨parse?_pretty_toJson.1 nestedDump (nestedDump_everywhere.mono fun _ => And.left)
      (by decide) (nestedDump_everywhere.mono fun _ => And.right),
    m, parsed, float, parse?_pretty_toJson.2 _ m parsed reproduces⟩

end Match

end RuleGrammar
