import RuleGrammar.GrammarError

/-!
Owns the reasons for which a grammar file gives no grammar: the file cannot be read, its text is no
document of the right form, or its rules do not fit together.
-/

namespace RuleGrammar

/-- Why a file has no text. -/
inductive FileFault where
  | notFound
  | isDirectory
  | notDirectory
  | notText
  | other (description : String)
deriving DecidableEq, Repr

/-- What the operating system says, or the reader where it is the bytes that are wrong. -/
def FileFault.message : FileFault → String
  | .notFound => "No such file or directory (os error 2)"
  | .isDirectory => "Is a directory (os error 21)"
  | .notDirectory => "Not a directory (os error 20)"
  | .notText => "stream did not contain valid UTF-8"
  | .other description => description

/-- Why a document is not a grammar. -/
inductive DocumentFault where
  /-- Not a document at all, or a value of the wrong type. -/
  | malformed
  | missingField (name : String)
  | unknownVariant (found : String) (expected : List String)
deriving DecidableEq, Repr

/-- A name as documents show it. -/
def backquoted (name : String) : String :=
  "\x60" ++ name ++ "\x60"

def DocumentFault.message : DocumentFault → String
  | .malformed => "malformed document"
  | .missingField name => "missing field " ++ backquoted name
  | .unknownVariant found expected =>
      "unknown variant " ++ backquoted found ++ ", expected one of " ++
        ", ".intercalate (expected.map backquoted)

inductive ConfigError where
  | unreadable (path : String) (fault : FileFault)
  | document (fault : DocumentFault)
  | conflictingShape (rule : String)
  | grammar (error : GrammarError)
deriving DecidableEq, Repr

def ConfigError.message : ConfigError → String
  | .unreadable path fault => "cannot read grammar file " ++ path ++ ": " ++ fault.message
  | .document fault => "invalid grammar file: " ++ fault.message
  | .conflictingShape rule =>
      "sequence " ++ Text.quoted rule ++
        " sets more than one of extract, extract_some and fields"
  | .grammar error => error.message

end RuleGrammar
