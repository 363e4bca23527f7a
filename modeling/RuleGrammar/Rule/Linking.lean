import RuleGrammar.GrammarError
import RuleGrammar.Rule

/-!
Owns the step from a rule as written to a linked rule: its own settings are checked first, then its
references are looked up in order, and the first fault is reported.
-/

namespace RuleGrammar

/-- A rule that reads a pattern; its text has to be a regular expression, by some table of the properties
that it may name. -/
def RuleDef.pattern (name source : String) (value : ValueKind := .text) (skip : Option Bool := none)
    (properties : Regex.PropertyTable := .known) : Except GrammarError RuleDef :=
  match Pattern.compile? properties source value with
  | some pattern => .ok (RuleDef.ofKind name (.pattern pattern) skip)
  | none => .error (.invalidPattern name)

namespace RuleKind

variable {R S : Type} {ε : Type}

/-- The same kind of rule with its references resolved, from left to right and element before
separator; the first error counts. -/
def resolve (resolve : R → Except ε S) : RuleKind R → Except ε (RuleKind S)
  | .literal text => .ok (.literal text)
  | .pattern source => .ok (.pattern source)
  | .sequence items shape => (items.mapM resolve).map (.sequence · shape)
  | .choice options => (options.mapM resolve).map .choice
  | .optional inner => (resolve inner).map .optional
  | .repetition rep =>
      match resolve rep.element with
      | .error e => .error e
      | .ok element =>
          (rep.separator.mapM resolve).map fun separator =>
            .repetition { rep with element := element, separator := separator }

end RuleKind

namespace RuleDef

/-- The fault in a rule's own settings, if there is one: bounds in the wrong order, or the first
index that does not address an item. -/
def fault? (rule : RuleDef) : Option GrammarError :=
  match rule.kind with
  | .sequence items shape =>
      (shape.indices.find? (items.length ≤ ·)).map
        (.shapeIndexOutOfRange rule.name · items.length)
  | .repetition repetition =>
      match repetition.max with
      | some max =>
          if max < repetition.min then some (.invalidBounds rule.name repetition.min max) else none
      | none => none
  | _ => none

def link (find : String → Option RuleId) (rule : RuleDef) : Except GrammarError LinkedRule :=
  match rule.fault? with
  | some error => .error error
  | none =>
      let lookup := fun name =>
        match find name with
        | some id => .ok id
        | none => .error (.unknownRule name (some rule.name))
      (rule.kind.resolve lookup).map (⟨rule.name, rule.appliesSkip, ·⟩)

end RuleDef

end RuleGrammar
