import RuleGrammar.Text.Quoted

/-!
Owns the reasons for which rules do not form a grammar. They arise while a grammar is put together,
never while text is read.
-/

namespace RuleGrammar

inductive GrammarError where
  | emptyGrammar
  | reservedName (name : String)
  | duplicateName (name : String)
  | unknownRule (rule : String) (referencedBy : Option String)
  | invalidPattern (rule : String)
  | invalidBounds (rule : String) (min max : Nat)
  | shapeIndexOutOfRange (rule : String) (index length : Nat)
deriving DecidableEq, Repr

namespace GrammarError

def referenceNote : Option String → String
  | none => ""
  | some name => " (referenced by " ++ Text.quoted name ++ ")"

def message : GrammarError → String
  | .emptyGrammar => "a grammar requires at least one rule"
  | .reservedName name =>
      "rule name " ++ Text.quoted name ++ " is reserved for a built-in base type"
  | .duplicateName name => "rule name " ++ Text.quoted name ++ " is declared more than once"
  | .unknownRule rule referencedBy =>
      "unknown rule " ++ Text.quoted rule ++ referenceNote referencedBy
  | .invalidPattern rule =>
      "invalid pattern for rule " ++ Text.quoted rule ++ ": not a regular expression"
  | .invalidBounds rule min max =>
      "invalid bounds for rule " ++ Text.quoted rule ++ s!": min {min} > max {max}"
  | .shapeIndexOutOfRange rule index length =>
      "rule " ++ Text.quoted rule ++
        s!" extracts item {index}, but the sequence has {length} item(s)"

end GrammarError

end RuleGrammar
