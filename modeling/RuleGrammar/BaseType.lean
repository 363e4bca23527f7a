import RuleGrammar.Rule.Linking

/-!
Owns the base types: leaf rules for truth values, numbers, names and quoted texts, and two choices
among them. Every grammar has them, under names that it cannot give to rules of its own.
-/

namespace RuleGrammar

inductive BaseType where
  | baseType
  | bool
  | float
  | strictFloat
  | id
  | int
  | number
  | string
deriving DecidableEq, Repr

namespace BaseType

/-- The base types in the order in which they stand in every grammar. -/
def all : List BaseType :=
  [.baseType, .bool, .float, .strictFloat, .id, .int, .number, .string]

def name : BaseType → String
  | .baseType => "BASETYPE"
  | .bool => "BOOL"
  | .float => "FLOAT"
  | .strictFloat => "STRICTFLOAT"
  | .id => "ID"
  | .int => "INT"
  | .number => "NUMBER"
  | .string => "STRING"

def names : List String :=
  all.map name

def isReserved (name : String) : Bool :=
  names.contains name

/-- A sign, digits with an optional fraction or a fraction alone, and an exponent. -/
def floatSource : String :=
  "[-+]?(?:\\d+(?:\\.\\d*)?|\\.\\d+)(?:[eE][-+]?\\d+)?"

/-- The floats that have a point or an exponent. -/
def strictFloatSource : String :=
  "[-+]?\\d+[eE][-+]?\\d+|[-+]?\\.\\d+(?:[eE][-+]?\\d+)?|[-+]?\\d+\\.\\d*(?:[eE][-+]?\\d+)?"

def definition : BaseType → Except GrammarError RuleDef
  | .baseType => .ok (RuleDef.ofKind "BASETYPE" (.choice ["BOOL", "ID", "STRING", "NUMBER"]))
  | .bool => RuleDef.pattern "BOOL" "(true)|(false)" .bool
  | .float => RuleDef.pattern "FLOAT" floatSource .float
  | .strictFloat => RuleDef.pattern "STRICTFLOAT" strictFloatSource .float
  | .id => RuleDef.pattern "ID" "[a-zA-Z_$][a-zA-Z0-9_$]*"
  | .int => RuleDef.pattern "INT" "[+-]?[0-9]+" .int
  | .number => .ok (RuleDef.ofKind "NUMBER" (.choice ["STRICTFLOAT", "INT"]))
  | .string => RuleDef.pattern "STRING" "\"(?:[^\"\\\\]|\\\\.)*\""

def definitions : Except GrammarError (List RuleDef) :=
  all.mapM definition

end BaseType

end RuleGrammar
