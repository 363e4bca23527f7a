import RuleGrammar.Fields
import RuleGrammar.Grammar.Basic
import RuleGrammar.Toml.Parser

/-!
Owns the form of grammars as documents: an optional `entry` and tables `rule`, each with `name`, `kind`,
an optional `skip` and the keys of its kind. Other keys count for nothing.

Contract: faults are reported in this order. The keys of a table are looked at in ascending order, and
the rules one after the other. In a rule come first the types of `name` and `skip` and the numbers at all
other keys, which must fit in 64 bits; then whether `name` and `kind` are there and the kind is known, then
the values of the kind's keys, and last whether a key that the kind needs is missing. Outside of rules
numbers that count for nothing must be readable.
-/

namespace RuleGrammar

abbrev Entries := List (String × Toml)

/-! ## Typed values -/

def Toml.asStrings? (value : Toml) : Option (List String) := do
  (← value.asArray?).mapM Toml.asString?

def Toml.asNats? (value : Toml) : Option (List Nat) := do
  (← value.asArray?).mapM Toml.asNat?

/-- A table of indices, in ascending order of the names. -/
def Toml.asFields? (value : Toml) : Option (List (String × Nat)) := do
  let fields ← (← value.asTable?).mapM fun (field : String × Toml) =>
    field.2.asNat?.map (field.1, ·)
  some (Fields.ofBindings fields)

/-- The name of a variant, with what comes with it: a string alone, or the only key of a table. -/
def Toml.asVariant? (value : Toml) : Option (String × Toml) :=
  match value.asString?, value.asTable? with
  | some name, _ => some (name, .table [])
  | none, some [variant] => some variant
  | none, _ => none

/-- A kind of value has a name and nothing that comes with it. -/
def Toml.asValueKind? (value : Toml) : Option ValueKind :=
  match value.asVariant? with
  | some (name, .table []) => ValueKind.ofName? name
  | _ => none

/-- The fault of a value that should have a certain type. -/
def typeFault {α : Type} (read : Toml → Option α) (value : Toml) : Option DocumentFault :=
  if (read value).isSome then none else some .malformed

/-- The fault of a name that should be one of some. -/
def nameFault (expected : List String) (found : String) : Option DocumentFault :=
  if expected.contains found then none else some (.unknownVariant found expected)

/-- The fault of a value that should be a kind of value: an unknown name comes before what is wrong with
the value otherwise. -/
def valueKindFault (value : Toml) : Option DocumentFault :=
  match value.asVariant? with
  | none => some .malformed
  | some (name, _) =>
      (nameFault (ValueKind.all.map ValueKind.name) name).or (typeFault Toml.asValueKind? value)

/-- The value of a key that may be left out. -/
def optionalKey {α : Type} (read : Toml → Option α) (key : String) (entries : Entries) : Option α :=
  (entries.lookup key).bind read

/-- The value of a key that must be there; its type has been looked at before. -/
def requiredKey {α : Type} (read : Toml → Option α) (key : String) (entries : Entries) :
    Except DocumentFault α :=
  match optionalKey read key entries with
  | some value => .ok value
  | none => .error (.missingField key)

/-! ## Kinds -/

inductive SpecKind where
  | literal
  | pattern
  | sequence
  | choice
  | optional
  | repetition
deriving DecidableEq, Repr

namespace SpecKind

def all : List SpecKind :=
  [.literal, .pattern, .sequence, .choice, .optional, .repetition]

def name : SpecKind → String
  | .literal => "literal"
  | .pattern => "pattern"
  | .sequence => "sequence"
  | .choice => "choice"
  | .optional => "optional"
  | .repetition => "repeat"

def ofName? (name : String) : Option SpecKind :=
  all.find? (·.name == name)

/-- The keys of a kind, and what is wrong with a value there. -/
def keyFaults : SpecKind → List (String × (Toml → Option DocumentFault))
  | .literal => [("text", typeFault Toml.asString?)]
  | .pattern =>
      [("regex", typeFault Toml.asString?), ("value", valueKindFault)]
  | .sequence =>
      [("items", typeFault Toml.asStrings?), ("extract", typeFault Toml.asNat?),
        ("extract_some", typeFault Toml.asNats?), ("fields", typeFault Toml.asFields?)]
  | .choice => [("options", typeFault Toml.asStrings?)]
  | .optional => [("inner", typeFault Toml.asString?)]
  | .repetition =>
      [("element", typeFault Toml.asString?), ("separator", typeFault Toml.asString?),
        ("min", typeFault Toml.asNat?), ("max", typeFault Toml.asNat?),
        ("collapse_single", typeFault Toml.asBool?), ("retain_separators", typeFault Toml.asBool?)]

end SpecKind

/-- The fault of a value that counts for nothing, given whether it may stand there. -/
def ignoredFault (test : Toml → Bool) (value : Toml) : Option DocumentFault :=
  if test value then none else some .malformed

/-- The first fault among the entries of a table, given what is wrong with a value at a key, and with one
at any other. -/
def firstFault (keyFaults : List (String × (Toml → Option DocumentFault)))
    (otherFault : Toml → Option DocumentFault) (entries : Entries) : Option DocumentFault :=
  entries.findSome? fun (entry : String × Toml) =>
    ((keyFaults.lookup entry.1).getD otherFault) entry.2

/-! ## Decoding -/

/-- The settings of a kind from the keys of its table, whose values are of the right types. -/
def RuleSpec.ofEntries (kind : SpecKind) (entries : Entries) : Except DocumentFault RuleSpec :=
  match kind with
  | .literal => (requiredKey Toml.asString? "text" entries).map .literal
  | .pattern =>
      (requiredKey Toml.asString? "regex" entries).map fun regex =>
        .pattern regex ((optionalKey Toml.asValueKind? "value" entries).getD .text)
  | .sequence =>
      (requiredKey Toml.asStrings? "items" entries).map fun items =>
        .sequence items (optionalKey Toml.asNat? "extract" entries)
          (optionalKey Toml.asNats? "extract_some" entries)
          (optionalKey Toml.asFields? "fields" entries)
  | .choice => (requiredKey Toml.asStrings? "options" entries).map .choice
  | .optional => (requiredKey Toml.asString? "inner" entries).map .optional
  | .repetition =>
      (requiredKey Toml.asString? "element" entries).map fun element =>
        .repetition
          { element := element
            separator := optionalKey Toml.asString? "separator" entries
            min := (optionalKey Toml.asNat? "min" entries).getD 0
            max := optionalKey Toml.asNat? "max" entries
            collapseSingle := (optionalKey Toml.asBool? "collapse_single" entries).getD false
            retainSeparators := (optionalKey Toml.asBool? "retain_separators" entries).getD false }

def kindOfEntries (entries : Entries) : Except DocumentFault SpecKind :=
  match entries.lookup "kind" with
  | none => .error (.missingField "kind")
  | some value =>
      match value.asString? with
      | none => .error .malformed
      | some name =>
          match SpecKind.ofName? name with
          | some kind => .ok kind
          | none => .error (.unknownVariant name (SpecKind.all.map SpecKind.name))

def RuleSpec.decode (entries : Entries) : Except DocumentFault RuleSpec :=
  match kindOfEntries entries with
  | .error fault => .error fault
  | .ok kind =>
      match firstFault kind.keyFaults (fun _ => none) entries with
      | some fault => .error fault
      | none => RuleSpec.ofEntries kind entries

def RuleEntry.keyFaults : List (String × (Toml → Option DocumentFault)) :=
  [("name", typeFault Toml.asString?), ("skip", typeFault Toml.asBool?)]

def RuleEntry.decode (value : Toml) : Except DocumentFault RuleEntry :=
  match value.asTable? with
  | none => .error .malformed
  | some entries =>
      match firstFault RuleEntry.keyFaults (ignoredFault Toml.fitsWords) entries with
      | some fault => .error fault
      | none =>
          match requiredKey Toml.asString? "name" entries with
          | .error fault => .error fault
          | .ok name =>
              (RuleSpec.decode entries).map fun spec =>
                ⟨name, optionalKey Toml.asBool? "skip" entries, spec⟩

def decodeRules (value : Toml) : Except DocumentFault (List RuleEntry) :=
  match value.asArray? with
  | none => .error .malformed
  | some items => items.mapM RuleEntry.decode

def rulesOf (entries : Entries) : Except DocumentFault (List RuleEntry) :=
  match entries.lookup "rule" with
  | none => .ok []
  | some value => decodeRules value

def rulesFault (value : Toml) : Option DocumentFault :=
  match decodeRules value with
  | .error fault => some fault
  | .ok _ => none

namespace Grammar

def keyFaults : List (String × (Toml → Option DocumentFault)) :=
  [("entry", typeFault Toml.asString?), ("rule", rulesFault)]

def decode (entries : Entries) : Except DocumentFault Grammar :=
  match firstFault keyFaults (ignoredFault Toml.isReadable) entries with
  | some fault => .error fault
  | none =>
      (rulesOf entries).map fun rules => ⟨optionalKey Toml.asString? "entry" entries, rules⟩

/-- The grammar that a document holds. -/
def parse (text : String) : Except ConfigError Grammar :=
  match Toml.parse? text with
  | none => .error (.document .malformed)
  | some entries => (decode entries).mapError .document

end Grammar

/-! ## Encoding

Keys with a default are written always, keys without one only when they are set. -/

def Toml.ofNat (n : Nat) : Toml :=
  .integer n

def Toml.ofStrings (strings : List String) : Toml :=
  .array (strings.map .string)

/-- The entry of a key that may be left out. -/
def entryOf {α : Type} (key : String) (write : α → Toml) (value : Option α) : Entries :=
  (value.map fun value => (key, write value)).toList

def RuleSpec.encode : RuleSpec → Entries
  | .literal text => [("kind", .string "literal"), ("text", .string text)]
  | .pattern regex value =>
      [("kind", .string "pattern"), ("regex", .string regex), ("value", .string value.name)]
  | .sequence items extract extractSome fields =>
      ("kind", .string "sequence") :: ("items", Toml.ofStrings items) ::
        (entryOf "extract" Toml.ofNat extract ++
          entryOf "extract_some" (fun indices => .array (indices.map Toml.ofNat)) extractSome ++
          entryOf "fields"
            (fun fields => .table (fields.map fun (name, index) => (name, Toml.ofNat index))) fields)
  | .choice options => [("kind", .string "choice"), ("options", Toml.ofStrings options)]
  | .optional inner => [("kind", .string "optional"), ("inner", .string inner)]
  | .repetition rep =>
      ("kind", .string "repeat") :: ("element", .string rep.element) ::
        (entryOf "separator" Toml.string rep.separator ++ ("min", Toml.ofNat rep.min) ::
          (entryOf "max" Toml.ofNat rep.max ++
            [("collapse_single", .boolean rep.collapseSingle),
              ("retain_separators", .boolean rep.retainSeparators)]))

def RuleEntry.encode (entry : RuleEntry) : Toml :=
  .table (("name", .string entry.name) :: (entryOf "skip" Toml.boolean entry.skip ++ entry.spec.encode))

def Grammar.encode (grammar : Grammar) : Entries :=
  entryOf "entry" Toml.string grammar.entry ++ [("rule", .array (grammar.rules.map RuleEntry.encode))]

end RuleGrammar
