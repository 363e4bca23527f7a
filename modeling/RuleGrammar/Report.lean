import RuleGrammar.Dump

/-!
Owns what is shown to a reader: the report of one reading and the list of a grammar's rules, each as
text and as JSON.

The text of a report has one line for each node of the tree, indented by its depth. Parts of it are
marked for emphasis; where colours are on, a mark is a terminal colour, and otherwise it is nothing.
-/

namespace RuleGrammar

/-! ## Emphasis -/

inductive Emphasis where
  | good
  | bad
  | warning
  | label
  | strong
deriving DecidableEq, Repr

def Emphasis.code : Emphasis → String
  | .good => "1;32"
  | .bad => "1;31"
  | .warning => "33"
  | .label => "36"
  | .strong => "1"

/-- Ends every colour. -/
def resetCode : String := "\x1b[0m"

/-- A reset inside the text is followed by the colour again. -/
def emphasize (color : Bool) (emphasis : Emphasis) (text : String) : String :=
  if color then
    let opening := "\x1b[" ++ emphasis.code ++ "m"
    opening ++ (resetCode ++ opening).intercalate (text.splitOn resetCode) ++ resetCode
  else
    text

/-! ## Reports -/

structure Report where
  entry : String
  inputLength : Nat
  tree : Match String
deriving Repr

namespace Report

def ofMatch (registry : Registry) (entry input : String) (m : Match RuleId) : Report :=
  ⟨entry, input.utf8ByteSize, registry.dump m⟩

def success (report : Report) : Bool :=
  report.tree.success

/-- Whether the match reaches the end of the input. -/
def complete (report : Report) : Bool :=
  report.success && report.tree.stop == report.inputLength

def toJson (report : Report) : Json :=
  .object
    [("entry", .string report.entry), ("success", .bool report.success),
      ("complete", .bool report.complete), ("input_len", .int report.inputLength),
      ("tree", report.tree.toJson)]

/-! ### Tree lines -/

def labelText (color : Bool) : Option String → String
  | none => ""
  | some name => emphasize color .label name ++ ": "

def valueText : Payload (Match String) → String
  | .scalar value => " = " ++ value.shown
  | _ => ""

def indent (depth : Nat) : String :=
  String.ofList (List.replicate (2 * depth) ' ')

/-- The line of one node: field name if it has one, rule, span, and value if it is a scalar. -/
def nodeLine (color : Bool) (depth : Nat) (label : Option String) (rule : String) (span : Span)
    (payload : Payload (Match String)) : String :=
  indent depth ++ labelText color label ++ emphasize color .strong rule ++ " [" ++ span.text ++ "]" ++
    valueText payload

mutual

/-- One line for each node, parents before their children. -/
def treeLines (color : Bool) (depth : Nat) (label : Option String) : Match String → List String
  | ⟨_, span, rule, payload⟩ =>
      nodeLine color depth label rule span payload :: payloadLines color (depth + 1) payload

def payloadLines (color : Bool) (depth : Nat) : Payload (Match String) → List String
  | .absent => []
  | .scalar _ => []
  | .list items => itemLines color depth items
  | .object fields => fieldLines color depth fields

def itemLines (color : Bool) (depth : Nat) : List (Match String) → List String
  | [] => []
  | item :: items => treeLines color depth none item ++ itemLines color depth items

def fieldLines (color : Bool) (depth : Nat) : List (String × Match String) → List String
  | [] => []
  | (name, item) :: fields => treeLines color depth (some name) item ++ fieldLines color depth fields

end

/-! ### The whole text -/

def successLine (color : Bool) (report : Report) : String :=
  emphasize color .good "OK" ++ " " ++ report.entry ++ " matched " ++ report.tree.span.text ++
    s!" ({report.tree.span.length} of {report.inputLength} bytes)"

def failureLine (color : Bool) (report : Report) : String :=
  emphasize color .bad "FAIL" ++ " " ++ report.entry ++ s!" did not match at {report.tree.start}"

def warningLines (color : Bool) (report : Report) : List String :=
  if report.complete then [] else [emphasize color .warning "warning: input not fully consumed"]

def lines (color : Bool) (report : Report) : List String :=
  if report.success then
    successLine color report :: (warningLines color report ++
      "" :: treeLines color 0 none report.tree)
  else
    [failureLine color report]

/-- Every line ends in a line feed. -/
def joinLines (lines : List String) : String :=
  String.join (lines.map (· ++ "\n"))

def text (color : Bool) (report : Report) : String :=
  joinLines (report.lines color)

end Report

/-! ## Rule lists -/

/-- A registry on one line: how many rules it has, and its entry. -/
def Registry.outline (registry : Registry) : String :=
  s!"Registry \x7b rules: \"{registry.rules.length} rule(s)\", default_entry: " ++
    Text.quoted registry.entryName ++ ", .. \x7d"

/-- What is said about one rule. -/
structure RuleSummary where
  name : String
  kind : String
  skip : Bool
  builtin : Bool
deriving DecidableEq, Repr

structure RuleList where
  entry : String
  rules : List RuleSummary
deriving DecidableEq, Repr

namespace RuleList

def ofRegistry (registry : Registry) : RuleList :=
  { entry := registry.entryName
    rules := registry.rules.map fun rule =>
      ⟨rule.name, rule.kind.label, rule.appliesSkip, BaseType.isReserved rule.name⟩ }

def ruleToJson (rule : RuleSummary) : Json :=
  .object
    [("name", .string rule.name), ("kind", .string rule.kind), ("skip", .bool rule.skip),
      ("builtin", .bool rule.builtin)]

def toJson (list : RuleList) : Json :=
  .object [("default_entry", .string list.entry), ("rules", .array (list.rules.map ruleToJson))]

/-- A name filled up with blanks to sixteen characters. -/
def padded (name : String) : String :=
  name ++ String.ofList (List.replicate (16 - name.length) ' ')

def ruleLine (rule : RuleSummary) : String :=
  "  " ++ padded rule.name ++ " " ++ rule.kind ++ (if rule.skip then " +skip" else "")

/-- The declared rules one to a line, then the built-in ones on one line. -/
def text (list : RuleList) : String :=
  let declared := list.rules.filter (!·.builtin)
  let builtin := list.rules.filter (·.builtin)
  Report.joinLines
    (s!"Rules (default entry: {list.entry}):" :: "" :: (declared.map ruleLine ++
      ["", "Built-in: " ++ ", ".intercalate (builtin.map RuleSummary.name)]))

end RuleList

end RuleGrammar
