import RuleGrammar.CommandLine.Outcome

/-!
Owns the program itself: reads the files that the arguments name, and prints what they give.
-/

namespace RuleGrammar.CommandLine

def usageText : String :=
  "usage: ruleweave [-v] [--json] parse GRAMMAR [-r RULE] [-s START] (-t TEXT | -f FILE)\n" ++
    "       ruleweave [-v] [--json] rules GRAMMAR\n"

def faultOf : IO.Error → FileFault
  | .noFileOrDirectory .. => .notFound
  | .inappropriateType .. => .isDirectory
  | error => .other (toString error)

def readFile (path : String) : IO (String × Except FileFault String) := do
  try
    let bytes ← IO.FS.readBinFile path
    return (path, Directory.decodeText bytes)
  catch error =>
    return (path, .error (faultOf error))

def pathsOf (arguments : List String) : List String :=
  match Request.ofArguments arguments with
  | .run _ command => command.paths
  | _ => []

def runMain (arguments : List String) : IO UInt32 := do
  let contents ← (pathsOf arguments).mapM readFile
  let files : FileSource := fun path => (contents.lookup path).getD (.error .notFound)
  match run files arguments with
  | .misuse =>
      IO.eprint usageText
      return 2
  | .done code out err =>
      IO.print out
      IO.eprint err
      return UInt32.ofNat code

end RuleGrammar.CommandLine

def main (arguments : List String) : IO UInt32 :=
  RuleGrammar.CommandLine.runMain arguments
