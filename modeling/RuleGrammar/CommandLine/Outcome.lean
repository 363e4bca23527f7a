import RuleGrammar.CommandLine.Arguments
import RuleGrammar.Grammar.Loading
import RuleGrammar.Registry.Reading
import RuleGrammar.Report

/-!
Owns what the command line does: the exit code and the two outputs for a list of arguments.

The grammar is loaded before the input is looked at; its patterns may name the Unicode properties of
`Regex.PropertyTable.known`. The exit code is 0 after a match, 1 after none, and 2 after an error.
-/

namespace RuleGrammar.CommandLine

inductive Outcome where
  | misuse
  | done (code : Nat) (out err : String)
deriving DecidableEq, Repr

def version : String := "0.1.0"

def versionText : String := "ruleweave " ++ version ++ "\n"

/-- An error with its causes: a file that cannot be read is followed by the reason once more. -/
def errorText : ConfigError → String
  | .unreadable path fault => (ConfigError.unreadable path fault).message ++ ": " ++ fault.message
  | error => error.message

def Outcome.failed (text : String) : Outcome :=
  .done 2 "" ("error: " ++ text ++ "\n")

def invalidGrammar (path : String) (error : ConfigError) : Outcome :=
  .failed ("invalid grammar " ++ path ++ ": " ++ errorText error)

def readInput (files : FileSource) : InputSource → Except String String
  | .text text => .ok text
  | .file path =>
      match files path with
      | .ok text => .ok text
      | .error fault => .error ("failed to read input file " ++ path ++ ": " ++ fault.message)

def renderReport (json : Bool) (report : Report) : String :=
  if json then report.toJson.pretty ++ "\n" else report.text false

def renderRules (json : Bool) (rules : RuleList) : String :=
  if json then rules.toJson.pretty ++ "\n" else rules.text

/-- Reads the input with the rule asked for, or with the grammar's own entry. -/
def parseInput (json : Bool) (registry : Registry) (rule : Option String) (start : Nat)
    (input : String) : Outcome :=
  let entry := rule.getD registry.entryName
  match registry.readNamed input start entry with
  | .error error => .failed error.message
  | .ok none => .failed ("rule " ++ Text.quoted entry ++ " is left-recursive")
  | .ok (some m) =>
      let report := Report.ofMatch registry entry input m
      .done (if report.success then 0 else 1) (renderReport json report) ""

def runCommand (files : FileSource) (json : Bool) : Command → Outcome
  | .parse grammar rule start source =>
      match Grammar.loadRegistry files grammar with
      | .error error => invalidGrammar grammar error
      | .ok registry =>
          match readInput files source with
          | .error text => .failed text
          | .ok input => parseInput json registry rule start input
  | .rules grammar =>
      match Grammar.loadRegistry files grammar with
      | .error error => invalidGrammar grammar error
      | .ok registry => .done 0 (renderRules json (RuleList.ofRegistry registry)) ""

def run (files : FileSource) (arguments : List String) : Outcome :=
  match Request.ofArguments arguments with
  | .misuse => .misuse
  | .version => .done 0 versionText ""
  | .run json command => runCommand files json command

end RuleGrammar.CommandLine
