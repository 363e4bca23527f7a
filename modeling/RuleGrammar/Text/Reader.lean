/-!
Owns the type of readers, the parts of which parsers of texts are made.
-/

namespace RuleGrammar

/-- A reader takes the text from some point on and returns what it read with the text that is left;
`none` means that the text is malformed there. -/
abbrev Reader (α : Type) := List Char → Option (α × List Char)

end RuleGrammar
