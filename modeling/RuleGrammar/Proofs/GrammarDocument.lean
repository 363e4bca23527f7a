import RuleGrammar.Grammar.Document
import RuleGrammar.Proofs.Fields
import RuleGrammar.Proofs.Traversal

/-!
Owns what a grammar is written as: the tables of its document, and what is read from them.

Contract: reading what a grammar is written as gives the grammar (`Grammar.decode_document`), with the
keys that are written always and those that are written only when they are set. So a grammar that was read
from a document is read again from what it is written as, whatever was left out there or stood there
besides.
-/

namespace RuleGrammar

/-! ## Documents as trees -/

namespace Toml

mutual

/-- The value as a document holds it: the entries of its tables in ascending order of their keys. -/
def sorted : Toml → Toml
  | .array items => .array (sortedItems items)
  | .table entries => .table (Fields.ofBindings (sortedEntries entries))
  | value => value

def sortedItems : List Toml → List Toml
  | [] => []
  | item :: items => item.sorted :: sortedItems items

def sortedEntries : Entries → Entries
  | [] => []
  | (key, value) :: entries => (key, value.sorted) :: sortedEntries entries

end

theorem sortedItems_eq_map (items : List Toml) : sortedItems items = items.map sorted := by
  induction items with
  | nil => rfl
  | cons item items inductionHypothesis => rw [sortedItems, inductionHypothesis, List.map_cons]

theorem sortedEntries_eq_map (entries : Entries) :
    sortedEntries entries = entries.map (Prod.map id sorted) := by
  induction entries with
  | nil => rfl
  | cons entry entries inductionHypothesis =>
      rw [sortedEntries, inductionHypothesis, List.map_cons]
      rfl

/-- Integers of a document have 64 bits, one of them for the sign. -/
def integerLimit : Nat :=
  2 ^ 63

end Toml

/-- The document that a grammar is written as. -/
def Grammar.document (grammar : Grammar) : Entries :=
  Fields.ofBindings (Toml.sortedEntries grammar.encode)

/-! ## Grammars that can be written -/

namespace RuleSpec

/-- The indices and bounds of a rule. -/
def numbers : RuleSpec → List Nat
  | .sequence _ extract extractSome fields =>
      extract.toList ++ extractSome.getD [] ++ (fields.getD []).map Prod.snd
  | .repetition rep => rep.min :: rep.max.toList
  | _ => []

/-- Every number is an integer that a document can hold. -/
def NumbersFit (spec : RuleSpec) : Prop :=
  ∀ n ∈ spec.numbers, n < Toml.integerLimit

/-- Fields stand in the order of their names, each name once. -/
def FieldsAscend (spec : RuleSpec) : Prop :=
  ∀ items extract extractSome fields,
    spec = .sequence items extract extractSome (some fields) → Fields.Ascending fields

/-- The kind of rule that settings are for. -/
def kind : RuleSpec → SpecKind
  | .literal _ => .literal
  | .pattern _ _ => .pattern
  | .sequence _ _ _ _ => .sequence
  | .choice _ => .choice
  | .optional _ => .optional
  | .repetition _ => .repetition

end RuleSpec

namespace Grammar

def NumbersFit (grammar : Grammar) : Prop :=
  ∀ entry ∈ grammar.rules, entry.spec.NumbersFit

def FieldsAscend (grammar : Grammar) : Prop :=
  ∀ entry ∈ grammar.rules, entry.spec.FieldsAscend

end Grammar

/-! ## Keys -/

section

variable {α : Type} {key : String} {write : α → Toml} {value : Option α} {read : Toml → Option α}

theorem forall_mem_entryOf {holds : String × Toml → Prop} :
    (∀ entry ∈ entryOf key write value, holds entry) ↔ ∀ held ∈ value, holds (key, write held) := by
  simp [entryOf]

theorem names_entryOf : ((entryOf key write value).map Prod.fst).Sublist [key] := by
  cases value with
  | none => exact List.nil_sublist _
  | some held => exact List.Sublist.refl _

theorem lookup_entryOf (other : String) :
    (entryOf key write value).lookup other = if other = key then value.map write else none := by
  cases value with
  | none => simp [entryOf]
  | some held =>
      by_cases same : other = key
      · subst same
        simp [entryOf]
      · simp [entryOf, List.lookup_cons, beq_false_of_ne same, if_neg same]

/-- What a key was written as is read back, and nothing if it was left out. -/
theorem bind_map_eq_self (back : ∀ held ∈ value, read (write held) = some held) :
    (value.map write).bind read = value := by
  cases value with
  | none => rfl
  | some held => exact back held rfl

theorem firstFault_eq_none_iff {keyFaults : List (String × (Toml → Option DocumentFault))}
    {otherFault : Toml → Option DocumentFault} {entries : Entries} :
    firstFault keyFaults otherFault entries = none ↔
      ∀ entry ∈ entries, ((keyFaults.lookup entry.1).getD otherFault) entry.2 = none :=
  List.findSome?_eq_none_iff

/-- A value that is read back has no fault under a key that is read so. -/
theorem faultless_of_read {kind : SpecKind} {written : Toml} {held : α}
    (known : kind.keyFaults.lookup key = some (typeFault read)) (back : read written = some held) :
    ((kind.keyFaults.lookup key).getD fun _ => none) written = none := by
  rw [known, Option.getD_some, typeFault, back, Option.isSome_some, if_pos rfl]

theorem faultless_of_unknown {kind : SpecKind} {written : Toml}
    (unknown : kind.keyFaults.lookup key = none) :
    ((kind.keyFaults.lookup key).getD fun _ => none) written = none := by
  rw [unknown, Option.getD_none]

/-- The keys of a kind are not those that every rule has. -/
theorem SpecKind.ne_of_mem_keys (kind : SpecKind) :
    ∀ key ∈ "kind" :: kind.keyFaults.map Prod.fst, key ≠ "name" ∧ key ≠ "skip" := by
  cases kind <;> decide

end

/-! ## Values -/

namespace Toml

theorem asNat?_ofNat {n : Nat} (small : n < integerLimit) : (ofNat n).asNat? = some n := by
  have limit : n < UInt64.size := Nat.lt_trans small (by decide)
  rw [ofNat, asNat?, if_pos ⟨Int.natCast_nonneg n, Int.ofNat_lt.mpr limit⟩, Int.toNat_natCast]

theorem asStrings?_ofStrings (strings : List String) :
    (ofStrings strings).asStrings? = some strings := by
  rw [ofStrings, asStrings?, asArray?, Option.bind_eq_bind, Option.bind_some, mapM_eq_some_iff,
    List.map_map]
  rfl

theorem asNats?_array {indices : List Nat} (small : ∀ n ∈ indices, n < integerLimit) :
    (array (indices.map ofNat)).asNats? = some indices := by
  rw [asNats?, asArray?, Option.bind_eq_bind, Option.bind_some, mapM_eq_some_iff, List.map_map]
  refine List.map_congr_left fun n member => ?_
  rw [Function.comp_apply, asNat?_ofNat (small n member)]

theorem asFields?_table {fields : List (String × Nat)} (ascending : Fields.Ascending fields)
    (small : ∀ n ∈ fields.map Prod.snd, n < integerLimit) :
    (table (fields.map fun field => (field.1, ofNat field.2))).asFields? = some fields := by
  have read : (fields.map fun field => (field.1, ofNat field.2)).mapM
      (fun field => field.2.asNat?.map (field.1, ·)) = some fields := by
    rw [mapM_eq_some_iff, List.map_map]
    refine List.map_congr_left fun field member => ?_
    have back := asNat?_ofNat (small field.2 (List.mem_map_of_mem member))
    rw [Function.comp_apply, back, Option.map_some]
  rw [asFields?, asTable?, Option.bind_eq_bind, Option.bind_some, read, Option.bind_eq_bind,
    Option.bind_some, ascending.ofBindings_eq]

theorem asValueKind?_name (kind : ValueKind) : (string kind.name).asValueKind? = some kind := by
  cases kind <;> rfl

theorem valueKindFault_name (kind : ValueKind) : valueKindFault (.string kind.name) = none := by
  cases kind <;> rfl

theorem ascending_of_asFields? {value : Toml} {fields : List (String × Nat)}
    (read : value.asFields? = some fields) : Fields.Ascending fields := by
  simp only [asFields?, Option.bind_eq_bind, Option.bind_eq_some_iff] at read
  obtain ⟨_, _, bindings, _, same⟩ := read
  obtain rfl := Option.some.inj same
  exact Fields.ascending_ofBindings bindings

/-! ### Numbers and order -/

theorem allIntegersOfItems_eq_all (test : Int → Bool) (items : List Toml) :
    allIntegersOfItems test items = items.all (allIntegers test) := by
  induction items with
  | nil => rfl
  | cons item items inductionHypothesis =>
      rw [allIntegersOfItems, inductionHypothesis, List.all_cons]

theorem allIntegersOfEntries_eq_all (test : Int → Bool) (entries : Entries) :
    allIntegersOfEntries test entries = entries.all fun entry => entry.2.allIntegers test := by
  induction entries with
  | nil => rfl
  | cons entry entries inductionHypothesis =>
      rw [allIntegersOfEntries, inductionHypothesis, List.all_cons]

theorem allIntegers_ofNat {n : Nat} (small : n < integerLimit) :
    (ofNat n).allIntegers (fun n => decide (-(Nat.pow 2 63) ≤ n ∧ n < UInt64.size)) = true := by
  have limit : n < UInt64.size := Nat.lt_trans small (by decide)
  rw [ofNat, allIntegers]
  exact decide_eq_true ⟨by omega, Int.ofNat_lt.mpr limit⟩

/-- The values that stand at the keys of a written rule. -/
inductive Simple : Toml → Prop where
  | string (s : String) : Simple (.string s)
  | boolean (b : Bool) : Simple (.boolean b)
  | strings (strings : List String) : Simple (.ofStrings strings)
  | number {n : Nat} : n < integerLimit → Simple (.ofNat n)
  | numbers {indices : List Nat} : (∀ n ∈ indices, n < integerLimit) →
      Simple (.array (indices.map .ofNat))
  | fields {fields : List (String × Nat)} : Fields.Ascending fields →
      (∀ n ∈ fields.map Prod.snd, n < integerLimit) →
      Simple (.table (fields.map fun field => (field.1, .ofNat field.2)))

variable {value : Toml}

/-- The numbers of a written rule are no fault where they count for nothing. -/
theorem Simple.fitsWords (simple : value.Simple) : value.fitsWords = true := by
  cases simple with
  | string | boolean => rfl
  | strings strings =>
      rw [Toml.fitsWords, ofStrings, allIntegers, allIntegersOfItems_eq_all, List.all_map]
      exact List.all_eq_true.mpr fun _ _ => rfl
  | number small => exact allIntegers_ofNat small
  | numbers small =>
      rw [Toml.fitsWords, allIntegers, allIntegersOfItems_eq_all, List.all_map]
      refine List.all_eq_true.mpr fun n member => ?_
      rw [Function.comp_apply, allIntegers_ofNat (small n member)]
  | fields _ small =>
      rw [Toml.fitsWords, allIntegers, allIntegersOfEntries_eq_all, List.all_map]
      refine List.all_eq_true.mpr fun field member => ?_
      rw [Function.comp_apply, allIntegers_ofNat (small field.2 (List.mem_map_of_mem member))]

/-- The values of a written rule stand in a document as they are written. -/
theorem Simple.sorted_eq (simple : value.Simple) : value.sorted = value := by
  cases simple with
  | string | boolean | number => rfl
  | strings strings =>
      rw [ofStrings, sorted, sortedItems_eq_map, List.map_map]
      rfl
  | numbers =>
      rw [sorted, sortedItems_eq_map, List.map_map]
      rfl
  | @fields fields ascending =>
      have names : Fields.Ascending (fields.map fun field => (field.1, ofNat field.2)) := by
        rw [Fields.Ascending, List.map_map]
        exact ascending
      have same : (fields.map fun field => (field.1, ofNat field.2)).map (Prod.map id sorted) =
          fields.map fun field => (field.1, ofNat field.2) := by
        rw [List.map_map]
        rfl
      rw [sorted, sortedEntries_eq_map, same, names.ofBindings_eq]

end Toml

/-! ## Settings -/

namespace RuleSpec

open Toml (asNat?_ofNat asStrings?_ofStrings asNats?_array asFields?_table)

variable {spec : RuleSpec} {entries : Entries}

/-- Only the keys of its kind are written, each once. -/
theorem names_encode (spec : RuleSpec) :
    (spec.encode.map Prod.fst).Sublist ("kind" :: spec.kind.keyFaults.map Prod.fst) := by
  cases spec with
  | literal | pattern | choice | optional => exact List.Sublist.refl _
  | sequence items extract extractSome fields =>
      simp only [encode, List.map_cons, List.map_append]
      exact (((names_entryOf.append names_entryOf).append names_entryOf).cons_cons _).cons_cons _
  | repetition rep =>
      have truths := List.Sublist.refl ["collapse_single", "retain_separators"]
      simp only [encode, List.map_cons, List.map_append, List.map_nil]
      exact ((names_entryOf.append ((names_entryOf.append truths).cons_cons _)).cons_cons _).cons_cons _

theorem simple_encode (fit : spec.NumbersFit) (ascend : spec.FieldsAscend) :
    ∀ entry ∈ spec.encode, entry.2.Simple := by
  cases spec with
  | literal | optional =>
      simp only [encode, List.forall_mem_cons]
      exact ⟨.string _, .string _, nofun⟩
  | choice =>
      simp only [encode, List.forall_mem_cons]
      exact ⟨.string _, .strings _, nofun⟩
  | pattern =>
      simp only [encode, List.forall_mem_cons]
      exact ⟨.string _, .string _, .string _, nofun⟩
  | sequence items extract extractSome fields =>
      simp only [encode, List.forall_mem_cons, List.forall_mem_append, forall_mem_entryOf]
      refine ⟨.string _, .strings _, ⟨?extract, ?extractSome⟩, ?fields⟩
      case extract =>
        rintro index ⟨⟩
        exact .number (fit index (by simp [numbers]))
      case extractSome =>
        rintro indices ⟨⟩
        exact .numbers fun n member => fit n (by simp [numbers, member])
      case fields =>
        rintro fields ⟨⟩
        exact .fields (ascend _ _ _ _ rfl) fun n member => fit n (List.mem_append_right _ member)
  | repetition rep =>
      simp only [encode, List.forall_mem_cons, List.forall_mem_append, forall_mem_entryOf]
      refine ⟨.string _, .string _, fun _ _ => .string _, .number (fit _ (by simp [numbers])), ?max,
        .boolean _, .boolean _, nofun⟩
      intro max set
      exact .number (fit max (by simp [numbers, Option.mem_def.mp set]))

theorem faultless_encode (fit : spec.NumbersFit) (ascend : spec.FieldsAscend) :
    ∀ entry ∈ spec.encode,
      ((spec.kind.keyFaults.lookup entry.1).getD fun _ => none) entry.2 = none := by
  have number : ∀ n ∈ spec.numbers, (Toml.ofNat n).asNat? = some n :=
    fun n member => asNat?_ofNat (fit n member)
  cases spec with
  | literal | optional =>
      simp only [encode, List.forall_mem_cons]
      exact ⟨faultless_of_unknown rfl, faultless_of_read rfl rfl, nofun⟩
  | pattern regex value =>
      simp only [encode, List.forall_mem_cons]
      exact ⟨faultless_of_unknown rfl, faultless_of_read rfl rfl, Toml.valueKindFault_name value, nofun⟩
  | choice options =>
      simp only [encode, List.forall_mem_cons]
      exact ⟨faultless_of_unknown rfl, faultless_of_read rfl (asStrings?_ofStrings options), nofun⟩
  | sequence items extract extractSome fields =>
      simp only [encode, List.forall_mem_cons, List.forall_mem_append, forall_mem_entryOf]
      refine ⟨faultless_of_unknown rfl, faultless_of_read rfl (asStrings?_ofStrings items),
        ⟨?extract, ?extractSome⟩, ?fields⟩
      case extract =>
        rintro index ⟨⟩
        exact faultless_of_read rfl (number index (by simp [numbers]))
      case extractSome =>
        rintro indices ⟨⟩
        exact faultless_of_read rfl (asNats?_array fun n member => fit n (by simp [numbers, member]))
      case fields =>
        rintro fields ⟨⟩
        refine faultless_of_read rfl (asFields?_table (ascend _ _ _ _ rfl) fun n member => ?_)
        exact fit n (List.mem_append_right _ member)
  | repetition rep =>
      simp only [encode, List.forall_mem_cons, List.forall_mem_append, forall_mem_entryOf]
      refine ⟨faultless_of_unknown rfl, faultless_of_read rfl rfl, fun _ _ => faultless_of_read rfl rfl,
        faultless_of_read rfl (number rep.min (by simp [numbers])), ?max, faultless_of_read rfl rfl,
        faultless_of_read rfl rfl, nofun⟩
      intro max set
      exact faultless_of_read rfl (number max (by simp [numbers, Option.mem_def.mp set]))

/-- From entries that hold what was written of a rule besides its name, its settings are read back. -/
theorem ofEntries_encode (fit : spec.NumbersFit) (ascend : spec.FieldsAscend)
    (same : ∀ key, key ≠ "name" → key ≠ "skip" → entries.lookup key = spec.encode.lookup key) :
    ofEntries spec.kind entries = .ok spec := by
  have number : ∀ n ∈ spec.numbers, (Toml.ofNat n).asNat? = some n :=
    fun n member => asNat?_ofNat (fit n member)
  have reads {α : Type} {read : Toml → Option α} {key : String} (write : α → Toml) {value : Option α}
      (other : key ≠ "name" ∧ key ≠ "skip") (written : spec.encode.lookup key = value.map write)
      (back : ∀ held ∈ value, read (write held) = some held) :
      optionalKey read key entries = value := by
    rw [optionalKey, same key other.1 other.2, written, bind_map_eq_self back]
  cases spec with
  | literal text =>
      have content : optionalKey Toml.asString? "text" entries = some text :=
        reads Toml.string (by decide) rfl fun _ _ => rfl
      rw [kind, ofEntries, requiredKey, content]
      rfl
  | pattern regex value =>
      have source : optionalKey Toml.asString? "regex" entries = some regex :=
        reads Toml.string (by decide) rfl fun _ _ => rfl
      have converts : optionalKey Toml.asValueKind? "value" entries = some value :=
        reads (fun kind => .string kind.name) (by decide) rfl fun _ _ => Toml.asValueKind?_name _
      rw [kind, ofEntries, requiredKey, source, converts]
      rfl
  | choice options =>
      have listed : optionalKey Toml.asStrings? "options" entries = some options :=
        reads Toml.ofStrings (by decide) rfl fun _ _ => asStrings?_ofStrings _
      rw [kind, ofEntries, requiredKey, listed]
      rfl
  | optional inner =>
      have content : optionalKey Toml.asString? "inner" entries = some inner :=
        reads Toml.string (by decide) rfl fun _ _ => rfl
      rw [kind, ofEntries, requiredKey, content]
      rfl
  | sequence items extract extractSome fields =>
      have listed : optionalKey Toml.asStrings? "items" entries = some items :=
        reads Toml.ofStrings (by decide) rfl fun _ _ => asStrings?_ofStrings _
      have one : optionalKey Toml.asNat? "extract" entries = extract := by
        refine reads Toml.ofNat (by decide)
          (by simp [encode, List.lookup_cons, List.lookup_append, lookup_entryOf]) ?_
        rintro index ⟨⟩
        exact number index (by simp [numbers])
      have selected : optionalKey Toml.asNats? "extract_some" entries = extractSome := by
        refine reads (fun indices => .array (indices.map Toml.ofNat)) (by decide)
          (by simp [encode, List.lookup_cons, List.lookup_append, lookup_entryOf]) ?_
        rintro indices ⟨⟩
        exact asNats?_array fun n member => fit n (by simp [numbers, member])
      have named : optionalKey Toml.asFields? "fields" entries = fields := by
        refine reads (fun fields => .table (fields.map fun field => (field.1, Toml.ofNat field.2)))
          (by decide) (by simp [encode, List.lookup_cons, List.lookup_append, lookup_entryOf]) ?_
        rintro fields ⟨⟩
        exact asFields?_table (ascend _ _ _ _ rfl) fun n member =>
          fit n (List.mem_append_right _ member)
      rw [kind, ofEntries, requiredKey, listed, one, selected, named]
      rfl
  | repetition rep =>
      have element : optionalKey Toml.asString? "element" entries = some rep.element :=
        reads Toml.string (by decide) rfl fun _ _ => rfl
      have separator : optionalKey Toml.asString? "separator" entries = rep.separator :=
        reads Toml.string (by decide)
          (by simp [encode, List.lookup_cons, List.lookup_append, lookup_entryOf]) fun _ _ => rfl
      have least : optionalKey Toml.asNat? "min" entries = some rep.min := by
        refine reads Toml.ofNat (by decide)
          (by simp [encode, List.lookup_cons, List.lookup_append, lookup_entryOf]) ?_
        rintro min ⟨⟩
        exact number rep.min (by simp [numbers])
      have most : optionalKey Toml.asNat? "max" entries = rep.max := by
        refine reads Toml.ofNat (by decide)
          (by simp [encode, List.lookup_cons, List.lookup_append, lookup_entryOf]) ?_
        intro max set
        exact number max (by simp [numbers, Option.mem_def.mp set])
      have collapses : optionalKey Toml.asBool? "collapse_single" entries = some rep.collapseSingle :=
        reads Toml.boolean (by decide)
          (by simp [encode, List.lookup_cons, List.lookup_append, lookup_entryOf]) fun _ _ => rfl
      have retains : optionalKey Toml.asBool? "retain_separators" entries = some rep.retainSeparators :=
        reads Toml.boolean (by decide)
          (by simp [encode, List.lookup_cons, List.lookup_append, lookup_entryOf]) fun _ _ => rfl
      rw [kind, ofEntries, requiredKey, element, separator, least, most, collapses, retains]
      rfl

theorem decode_encode (fit : spec.NumbersFit) (ascend : spec.FieldsAscend)
    (same : ∀ key, key ≠ "name" → key ≠ "skip" → entries.lookup key = spec.encode.lookup key)
    (held : ∀ entry ∈ entries, entry.1 ≠ "name" → entry.1 ≠ "skip" → entry ∈ spec.encode) :
    decode entries = .ok spec := by
  have known : kindOfEntries entries = .ok spec.kind := by
    rw [kindOfEntries, same "kind" (by decide) (by decide)]
    cases spec <;> rfl
  have faultless : firstFault spec.kind.keyFaults (fun _ => none) entries = none := by
    rw [firstFault_eq_none_iff]
    intro entry member
    by_cases name : entry.1 = "name"
    · rw [name]
      cases spec <;> exact faultless_of_unknown rfl
    by_cases skip : entry.1 = "skip"
    · rw [skip]
      cases spec <;> exact faultless_of_unknown rfl
    exact faultless_encode fit ascend entry (held entry member name skip)
  simp only [decode, known, faultless, ofEntries_encode fit ascend same]

/-- Fields that are read from a document are in order. -/
theorem fieldsAscend_of_decode (decoded : decode entries = .ok spec) : spec.FieldsAscend := by
  rintro items extract extractSome fields rfl
  simp only [decode] at decoded
  split at decoded
  next => cases decoded
  next kind _ =>
    split at decoded
    next => cases decoded
    next =>
      cases kind with
      | sequence =>
          obtain ⟨_, _, same⟩ := map_eq_ok_iff.mp decoded
          simp only [sequence.injEq] at same
          obtain ⟨value, _, read⟩ := Option.bind_eq_some_iff.mp same.2.2.2
          exact Toml.ascending_of_asFields? read
      | literal | pattern | choice | optional | repetition =>
          obtain ⟨_, _, same⟩ := map_eq_ok_iff.mp decoded
          cases same

end RuleSpec

/-! ## Rules -/

namespace RuleEntry

variable {entry : RuleEntry}

/-- What is written of a rule, in the order in which it is written. -/
def entries (entry : RuleEntry) : Entries :=
  ("name", .string entry.name) :: (entryOf "skip" Toml.boolean entry.skip ++ entry.spec.encode)

theorem ne_of_mem_encode {written : String × Toml} (member : written ∈ entry.spec.encode) :
    written.1 ≠ "name" ∧ written.1 ≠ "skip" :=
  entry.spec.kind.ne_of_mem_keys written.1
    (entry.spec.names_encode.subset (List.mem_map_of_mem member))

theorem names_entries (entry : RuleEntry) : (entry.entries.map Prod.fst).Nodup := by
  have names : (entry.entries.map Prod.fst).Sublist
      ("name" :: "skip" :: "kind" :: entry.spec.kind.keyFaults.map Prod.fst) := by
    rw [entries, List.map_cons, List.map_append]
    exact (names_entryOf.append entry.spec.names_encode).cons_cons _
  refine names.nodup ?_
  cases entry.spec.kind <;> decide

theorem lookup_entries (entry : RuleEntry) {key : String} (notName : key ≠ "name")
    (notSkip : key ≠ "skip") : entry.entries.lookup key = entry.spec.encode.lookup key := by
  have behind : (key == "name") = false := beq_false_of_ne notName
  simp [entries, List.lookup_cons, List.lookup_append, lookup_entryOf, behind, notSkip]

theorem lookup_entries_skip (entry : RuleEntry) :
    entry.entries.lookup "skip" = entry.skip.map Toml.boolean := by
  have other : entry.spec.encode.lookup "skip" = none := by
    refine List.lookup_eq_none_iff.mpr fun written member => bne_iff_ne.mpr ?_
    exact (ne_of_mem_encode member).2.symm
  simp [entries, List.lookup_cons, List.lookup_append, lookup_entryOf, other]

theorem mem_encode_of_mem_entries {written : String × Toml} (member : written ∈ entry.entries)
    (notName : written.1 ≠ "name") (notSkip : written.1 ≠ "skip") :
    written ∈ entry.spec.encode := by
  revert written
  rw [entries, List.forall_mem_cons, List.forall_mem_append, forall_mem_entryOf]
  exact ⟨fun notName _ => absurd rfl notName, fun _ _ _ notSkip => absurd rfl notSkip,
    fun _ member _ _ => member⟩

theorem faultless_entries (fit : entry.spec.NumbersFit) (ascend : entry.spec.FieldsAscend) :
    ∀ written ∈ entry.entries,
      ((keyFaults.lookup written.1).getD (ignoredFault Toml.fitsWords)) written.2 = none := by
  rw [entries, List.forall_mem_cons, List.forall_mem_append, forall_mem_entryOf]
  refine ⟨rfl, fun _ _ => rfl, fun written member => ?_⟩
  obtain ⟨notName, notSkip⟩ := ne_of_mem_encode member
  have ignored : keyFaults.lookup written.1 = none := by simp [keyFaults, notName, notSkip]
  rw [ignored, Option.getD_none, ignoredFault,
    if_pos (RuleSpec.simple_encode fit ascend written member).fitsWords]

theorem sorted_encode (fit : entry.spec.NumbersFit) (ascend : entry.spec.FieldsAscend) :
    entry.encode.sorted = .table (Fields.ofBindings entry.entries) := by
  have simple : ∀ written ∈ entry.entries, written.2.Simple := by
    rw [entries, List.forall_mem_cons, List.forall_mem_append, forall_mem_entryOf]
    exact ⟨.string _, fun skip _ => .boolean skip, RuleSpec.simple_encode fit ascend⟩
  have same : entry.entries.map (Prod.map id Toml.sorted) = entry.entries := by
    refine (List.map_congr_left fun written member => ?_).trans (List.map_id _)
    exact Prod.ext rfl (simple written member).sorted_eq
  change Toml.sorted (.table entry.entries) = _
  rw [Toml.sorted, Toml.sortedEntries_eq_map, same]

/-- A rule is read back from what it is written as. -/
theorem decode_sorted_encode (fit : entry.spec.NumbersFit) (ascend : entry.spec.FieldsAscend) :
    decode entry.encode.sorted = .ok entry := by
  rw [sorted_encode fit ascend]
  have found := Fields.lookup_ofBindings_eq entry.names_entries
  have held {written : String × Toml} :
      written ∈ Fields.ofBindings entry.entries → written ∈ entry.entries :=
    Fields.mem_of_mem_ofBindings
  -- That the keys have been put in order makes no difference from here on.
  generalize Fields.ofBindings entry.entries = document at found held
  have faultless : firstFault keyFaults (ignoredFault Toml.fitsWords) document = none :=
    firstFault_eq_none_iff.mpr fun written member => faultless_entries fit ascend written (held member)
  have name : requiredKey Toml.asString? "name" document = .ok entry.name := by
    rw [requiredKey, optionalKey, found]
    rfl
  have skip : optionalKey Toml.asBool? "skip" document = entry.skip := by
    rw [optionalKey, found, lookup_entries_skip]
    exact bind_map_eq_self fun _ _ => rfl
  have spec : RuleSpec.decode document = .ok entry.spec :=
    RuleSpec.decode_encode fit ascend
      (fun key notName notSkip => (found key).trans (entry.lookup_entries notName notSkip))
      (fun written member => mem_encode_of_mem_entries (held member))
  simp only [decode, Toml.asTable?, faultless, name, spec, skip]
  rfl

theorem spec_of_decode {value : Toml} (decoded : decode value = .ok entry) :
    ∃ entries, RuleSpec.decode entries = .ok entry.spec := by
  simp only [decode] at decoded
  split at decoded
  next => cases decoded
  next entries _ =>
    split at decoded
    next => cases decoded
    next =>
      split at decoded
      next => cases decoded
      next =>
        obtain ⟨spec, read, rfl⟩ := map_eq_ok_iff.mp decoded
        exact ⟨entries, read⟩

end RuleEntry

/-! ## Grammars -/

namespace Grammar

variable {grammar : Grammar}

/-- The entries of a grammar's document, before they are put in order. -/
def sortedEntries (grammar : Grammar) : Entries :=
  entryOf "entry" Toml.string grammar.entry ++
    [("rule", .array (grammar.rules.map fun entry => entry.encode.sorted))]

theorem document_eq (grammar : Grammar) :
    grammar.document = Fields.ofBindings grammar.sortedEntries := by
  have entry : (entryOf "entry" Toml.string grammar.entry).map (Prod.map id Toml.sorted) =
      entryOf "entry" Toml.string grammar.entry := by
    cases grammar.entry <;> rfl
  rw [document, encode, Toml.sortedEntries_eq_map, List.map_append, entry, List.map_singleton,
    Prod.map, Toml.sorted, Toml.sortedItems_eq_map, List.map_map]
  rfl

theorem names_sortedEntries (grammar : Grammar) : (grammar.sortedEntries.map Prod.fst).Nodup := by
  have names : (grammar.sortedEntries.map Prod.fst).Sublist ["entry", "rule"] := by
    rw [sortedEntries, List.map_append]
    exact names_entryOf.append (List.Sublist.refl ["rule"])
  exact names.nodup (by decide)

theorem decode_document_eq (fit : grammar.NumbersFit) (ascend : grammar.FieldsAscend) :
    decode grammar.document = .ok grammar := by
  have rules : decodeRules (.array (grammar.rules.map fun entry => entry.encode.sorted)) =
      .ok grammar.rules := by
    simp only [decodeRules, Toml.asArray?]
    rw [mapM_eq_ok_iff, List.forall₂_map_left_iff, List.forall₂_same]
    exact fun entry member => entry.decode_sorted_encode (fit entry member) (ascend entry member)
  have found := Fields.lookup_ofBindings_eq grammar.names_sortedEntries
  have faultless : firstFault keyFaults (ignoredFault Toml.isReadable) grammar.document = none := by
    have known : ∀ written ∈ grammar.sortedEntries,
        ((keyFaults.lookup written.1).getD (ignoredFault Toml.isReadable)) written.2 = none := by
      rw [sortedEntries, List.forall_mem_append, forall_mem_entryOf, List.forall_mem_singleton]
      refine ⟨fun _ _ => rfl, ?_⟩
      change rulesFault _ = none
      rw [rulesFault, rules]
    rw [firstFault_eq_none_iff, document_eq]
    exact fun written member => known written (Fields.mem_of_mem_ofBindings member)
  have listed : rulesOf grammar.document = .ok grammar.rules := by
    have written : grammar.sortedEntries.lookup "rule" =
        some (.array (grammar.rules.map fun entry => entry.encode.sorted)) := by
      simp [sortedEntries, List.lookup_append, lookup_entryOf]
    rw [rulesOf, document_eq, found, written]
    exact rules
  have entry : optionalKey Toml.asString? "entry" grammar.document = grammar.entry := by
    have written : grammar.sortedEntries.lookup "entry" = grammar.entry.map Toml.string := by
      simp [sortedEntries, List.lookup_cons, List.lookup_append, lookup_entryOf]
    rw [optionalKey, document_eq, found, written]
    exact bind_map_eq_self fun _ _ => rfl
  simp only [decode, faultless, listed, entry]
  rfl

theorem fieldsAscend_of_decode {entries : Entries} (decoded : decode entries = .ok grammar) :
    grammar.FieldsAscend := by
  simp only [decode] at decoded
  split at decoded
  next => cases decoded
  next =>
    obtain ⟨rules, read, rfl⟩ := map_eq_ok_iff.mp decoded
    rw [rulesOf] at read
    split at read
    next =>
      cases read
      exact nofun
    next value _ =>
      rw [decodeRules] at read
      split at read
      next => cases read
      next items _ =>
        intro entry member
        obtain ⟨item, _, here⟩ := exists_related_of_mem (mapM_eq_ok_iff.mp read) member
        obtain ⟨written, spec⟩ := RuleEntry.spec_of_decode here
        exact RuleSpec.fieldsAscend_of_decode spec

/-- A grammar whose numbers a document can hold is read back from what it is written as. So a grammar
that was read from some document is read again from what it is written as, and gives the same registry
or is refused for the same reason. -/
theorem decode_document (fit : grammar.NumbersFit) :
    (grammar.FieldsAscend → decode grammar.document = .ok grammar) ∧
    ∀ entries, decode entries = .ok grammar →
      ∃ again, decode grammar.document = .ok again ∧ again = grammar ∧
        ∀ properties, again.toRegistry properties = grammar.toRegistry properties :=
  ⟨decode_document_eq fit, fun _ decoded =>
    ⟨grammar, decode_document_eq fit (fieldsAscend_of_decode decoded), rfl, fun _ => rfl⟩⟩

/-- Marked words with up to three of them in a list, in which each kind of key occurs. -/
def wordLists : Grammar :=
  { entry := some "list"
    rules :=
      [⟨"list", none, .repetition
          { element := "marked", separator := some "comma", min := 1, max := some 3,
            retainSeparators := true }⟩,
        ⟨"marked", some true, .sequence ["ID", "mark"] none none (some [("mark", 1), ("word", 0)])⟩,
        ⟨"mark", none, .pattern "[0-9]+" .int⟩,
        ⟨"comma", some false, .literal ","⟩] }

/-- A document of the same grammar that leaves out what is the default, and has other keys besides. -/
def wordListsDocument : Entries :=
  [("entry", .string "list"), ("note", .float 0.5),
    ("rule", .array
      [.table [("element", .string "marked"), ("inner", .integer (-1)), ("kind", .string "repeat"),
          ("max", .integer 3), ("min", .integer 1), ("name", .string "list"),
          ("retain_separators", .boolean true), ("separator", .string "comma")],
        .table [("fields", .table [("mark", .integer 1), ("word", .integer 0)]),
          ("items", .array [.string "ID", .string "mark"]), ("kind", .string "sequence"),
          ("name", .string "marked"), ("skip", .boolean true)],
        .table [("kind", .string "pattern"), ("name", .string "mark"), ("regex", .string "[0-9]+"),
          ("value", .table [("int", .table [])])],
        .table [("kind", .string "literal"), ("name", .string "comma"), ("skip", .boolean false),
          ("text", .string ",")]])]

theorem decode_document_wordLists :
    wordLists.NumbersFit ∧ wordLists.FieldsAscend ∧ decode wordLists.document = .ok wordLists ∧
      decode wordListsDocument = .ok wordLists ∧
      ∃ again, decode wordLists.document = .ok again ∧ again = wordLists ∧
        ∀ properties, again.toRegistry properties = wordLists.toRegistry properties := by
  have fit : wordLists.NumbersFit := by
    unfold NumbersFit RuleSpec.NumbersFit
    decide
  have ascend : wordLists.FieldsAscend := by
    intro entry member items extract extractSome fields held
    simp only [wordLists, List.mem_cons, List.not_mem_nil, or_false] at member
    rcases member with rfl | rfl | rfl | rfl <;> cases held
    unfold Fields.Ascending
    decide
  have decoded : decode wordListsDocument = .ok wordLists := rfl
  exact ⟨fit, ascend, (decode_document fit).1 ascend, decoded, (decode_document fit).2 _ decoded⟩

end Grammar

end RuleGrammar
