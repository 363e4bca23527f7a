import RuleGrammar.Grammar.Document

/-!
Owns the loading of grammar files, and the contents of a directory that files are loaded from.

A file is loaded through a function from paths to contents, so that what is said of loading holds of
any place that files come from.
-/

namespace RuleGrammar

/-- What a path gives: the contents of a file as text, or why there are none. -/
abbrev FileSource := String → Except FileFault String

namespace Grammar

/-- The grammar in a file. -/
def load (files : FileSource) (path : String) : Except ConfigError Grammar :=
  match files path with
  | .error fault => .error (.unreadable path fault)
  | .ok text => parse text

/-- The registry of the grammar in a file. -/
def loadRegistry (files : FileSource) (path : String) (properties : Regex.PropertyTable := .known) :
    Except ConfigError Registry :=
  match load files path with
  | .error e => .error e
  | .ok grammar => grammar.toRegistry properties

end Grammar

/-! ## Directories -/

/-- Files with their bytes, in one directory. -/
structure Directory where
  files : List (String × ByteArray)

namespace Directory

/-- The text that bytes encode, which must be well-formed. -/
def decodeText (bytes : ByteArray) : Except FileFault String :=
  match String.fromUTF8? bytes with
  | some text => .ok text
  | none => .error .notText

/-- The named parts of a path; a part `.` stays where it is. -/
def pathParts (path : String) : List String :=
  (path.splitOn "/").filter fun part => part != "" && part != "."

/-- Follows a path from the directory itself. Its files have no parts of their own, and a path that
ends in a separator or a dot names a directory. Nothing is known outside the directory but that there
are directories above it. -/
def read (directory : Directory) : FileSource := fun path =>
  let parts := pathParts path
  let last := (path.splitOn "/").getLast?.getD ""
  if path.isEmpty then
    .error .notFound
  else if parts.all (· == "..") then
    .error .isDirectory
  else if path.startsWith "/" then
    .error .notFound
  else
    match directory.files.lookup (parts.headD "") with
    | none => .error .notFound
    | some bytes =>
        if parts.length = 1 ∧ last ≠ "" ∧ last ≠ "." then decodeText bytes
        else .error .notDirectory

end Directory

end RuleGrammar
