import RuleGrammar.Grammar.Error
import RuleGrammar.Registry.Basic

/-!
Owns grammars as they are written in grammar files, and the way from there to a registry.

Contract: entries become rule definitions in order. An entry whose sequence is shaped in more than one
way, or whose pattern is no regular expression, is reported before anything is put into a registry. A
grammar may name its entry rule, which is set last.
-/

namespace RuleGrammar

/-- The settings of one kind of rule, as written. -/
inductive RuleSpec where
  | literal (text : String)
  | pattern (regex : String) (value : ValueKind)
  /-- At most one of the last three may be set. Fields are in ascending order of their names. -/
  | sequence (items : List String) (extract : Option Nat) (extractSome : Option (List Nat))
      (fields : Option (List (String × Nat)))
  | choice (options : List String)
  | optional (inner : String)
  | repetition (repetition : Repetition String)
deriving DecidableEq, Repr

structure RuleEntry where
  name : String
  /-- The default of the kind when absent. -/
  skip : Option Bool
  spec : RuleSpec
deriving DecidableEq, Repr

structure Grammar where
  entry : Option String
  rules : List RuleEntry
deriving DecidableEq, Repr

namespace RuleEntry

/-- The shape that a sequence asks for, unless it asks for more than one. -/
def shape? (extract : Option Nat) (extractSome : Option (List Nat))
    (fields : Option (List (String × Nat))) : Option Shape :=
  match extract, extractSome, fields with
  | none, none, none => some .all
  | some index, none, none => some (.one index)
  | none, some indices, none => some (.selection indices)
  | none, none, some fields => some (.object (fields.map fun (name, index) => (index, name)))
  | _, _, _ => none

def toDef (properties : Regex.PropertyTable) (entry : RuleEntry) : Except ConfigError RuleDef :=
  match entry.spec with
  | .literal text => .ok (RuleDef.ofKind entry.name (.literal text) entry.skip)
  | .pattern regex value =>
      (RuleDef.pattern entry.name regex value entry.skip properties).mapError .grammar
  | .sequence items extract extractSome fields =>
      match shape? extract extractSome fields with
      | some shape => .ok (RuleDef.ofKind entry.name (.sequence items shape) entry.skip)
      | none => .error (.conflictingShape entry.name)
  | .choice options => .ok (RuleDef.ofKind entry.name (.choice options) entry.skip)
  | .optional inner => .ok (RuleDef.ofKind entry.name (.optional inner) entry.skip)
  | .repetition repetition =>
      .ok (RuleDef.ofKind entry.name (.repetition repetition) entry.skip)

end RuleEntry

namespace Grammar

def toDefs (grammar : Grammar) (properties : Regex.PropertyTable := .known) :
    Except ConfigError (List RuleDef) :=
  grammar.rules.mapM (RuleEntry.toDef properties)

/-- The registry with the entry that the grammar names, if it names one. -/
def withEntry (entry : Option String) (registry : Registry) : Except GrammarError Registry :=
  match entry with
  | none => .ok registry
  | some name => registry.setEntry name

def toRegistry (grammar : Grammar) (properties : Regex.PropertyTable := .known) :
    Except ConfigError Registry :=
  match grammar.toDefs properties with
  | .error e => .error e
  | .ok rules =>
      match Registry.ofRules rules with
      | .error e => .error (.grammar e)
      | .ok registry => (withEntry grammar.entry registry).mapError .grammar

end Grammar

end RuleGrammar
