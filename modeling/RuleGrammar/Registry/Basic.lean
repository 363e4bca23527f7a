import RuleGrammar.BaseType
import Std.Data.TreeMap

/-!
Owns registries: the linked rules of a grammar with an index of their names, the rule that reads skippable
text, and the entry.

Contract: `Registry.ofRules` enters the base types first, then the rules as declared, and last a rule for
skippable text if none is declared. The index grows with each rule that is entered; declared names are
checked against it, references are linked through it, and it stays with the registry for look-up. Names are
checked before anything is linked, and rules are linked in order, so the first fault in that order is the
one reported.
-/

namespace RuleGrammar

/-- The place of each rule, by name. -/
abbrev NameIndex := Std.TreeMap String RuleId

structure Registry where
  rules : List LinkedRule
  index : NameIndex
  skip : RuleId
  entry : RuleId
deriving Repr

namespace Registry

def mainName : String := "main"

def skipName : String := "skip"

/-- Blanks, as many as there are. -/
def defaultSkipSource : String := "\\s*"

/-! ## Look-up -/

def names (registry : Registry) : List String :=
  registry.rules.map Rule.name

def find? (registry : Registry) (name : String) : Option RuleId :=
  registry.index[name]?

def contains (registry : Registry) (name : String) : Bool :=
  registry.index.contains name

/-- The rule of a name; a name that is not in the index is an error that no rule is blamed for. -/
def lookup (registry : Registry) (name : String) : Except GrammarError RuleId :=
  match registry.find? name with
  | some id => .ok id
  | none => .error (.unknownRule name none)

def rule? (registry : Registry) (id : RuleId) : Option LinkedRule :=
  registry.rules[id.index]?

def ruleName? (registry : Registry) (id : RuleId) : Option String :=
  (registry.rule? id).map Rule.name

def entryName (registry : Registry) : String :=
  (registry.ruleName? registry.entry).getD ""

def setEntry (registry : Registry) (name : String) : Except GrammarError Registry :=
  (registry.lookup name).map fun id => { registry with entry := id }

/-- The rule for skippable text of a grammar that declares none: it does not skip anything itself. -/
def defaultSkip : Except GrammarError RuleDef :=
  RuleDef.pattern skipName defaultSkipSource .text (some false)

end Registry

/-! ## Construction -/

/-- Rules on their way into a registry: those entered so far, in order, and the index of their names. -/
structure Registration where
  pending : List RuleDef
  index : NameIndex

namespace Registration

def empty : Registration :=
  ⟨[], ∅⟩

/-- Enters a rule behind the others, and its place under its name. -/
def enter (registration : Registration) (rule : RuleDef) : Registration :=
  { pending := registration.pending ++ [rule]
    index := registration.index.insert rule.name ⟨registration.pending.length⟩ }

/-- Enters a declared rule. Its name must not be that of a base type, nor be taken. -/
def declare (registration : Registration) (rule : RuleDef) : Except GrammarError Registration :=
  if BaseType.isReserved rule.name then .error (.reservedName rule.name)
  else if registration.index.contains rule.name then .error (.duplicateName rule.name)
  else .ok (registration.enter rule)

def declareAll : Registration → List RuleDef → Except GrammarError Registration
  | registration, [] => .ok registration
  | registration, rule :: rules =>
      match registration.declare rule with
      | .error e => .error e
      | .ok registration => declareAll registration rules

/-- The rule for skippable text; the default one is entered if none is declared. -/
def withSkip (registration : Registration) : Except GrammarError (RuleId × Registration) :=
  match registration.index[Registry.skipName]? with
  | some id => .ok (id, registration)
  | none =>
      Registry.defaultSkip.map fun skip =>
        (⟨registration.pending.length⟩, registration.enter skip)

/-- Links all rules through the index. -/
def link (registration : Registration) (skip entry : RuleId) : Except GrammarError Registry :=
  (registration.pending.mapM (RuleDef.link fun name => registration.index[name]?)).map fun rules =>
    { rules := rules, index := registration.index, skip := skip, entry := entry }

end Registration

/-- The registry of some declared rules. The entry is `main`, or else the first of them. -/
def Registry.ofRules (rules : List RuleDef) : Except GrammarError Registry :=
  match BaseType.definitions with
  | .error e => .error e
  | .ok baseTypes =>
      match (baseTypes.foldl Registration.enter .empty).declareAll rules with
      | .error e => .error e
      | .ok declared =>
          if declared.pending.length = baseTypes.length then
            .error .emptyGrammar
          else
            let entry := declared.index[mainName]?.getD ⟨baseTypes.length⟩
            match declared.withSkip with
            | .error e => .error e
            | .ok (skip, complete) => complete.link skip entry

end RuleGrammar
