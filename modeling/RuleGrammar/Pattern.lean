import RuleGrammar.Regex.Parser
import RuleGrammar.Regex.Search
import RuleGrammar.Regex.Size.Limit
import RuleGrammar.Text.Offset
import RuleGrammar.Value

/-!
Owns patterns: a regular expression with the kind of value its matches stand for.

Contract: a pattern is accepted when its text is a regular expression within the limit on size, on its
own and also inside the group that ties it to the start of the text; a stray parenthesis cannot close that
group early. It matches a beginning of a text only, and what precedes that text is out of its sight. What
the names of Unicode properties stand for is a parameter of acceptance.
-/

namespace RuleGrammar

structure Pattern where
  source : String
  regex : Regex
  value : ValueKind
deriving DecidableEq, Repr

namespace Pattern

/-- The text of the pattern in a group that matches at the start only. -/
def anchored (source : List Char) : List Char :=
  ['^', '(', '?', ':'] ++ source ++ [')']

/-- The regular expression that a text denotes, if it is not too large. -/
def expression? (properties : Regex.PropertyTable) (text : List Char) : Option Regex :=
  (Regex.parse? properties text).filter Regex.fits

def compile? (properties : Regex.PropertyTable) (source : String) (value : ValueKind) :
    Option Pattern := do
  let _ ← expression? properties source.toList
  let regex ← expression? properties (anchored source.toList)
  some ⟨source, regex, value⟩

/-- The value that a beginning of the text stands for, and the bytes up to its end. -/
def read? (pattern : Pattern) (text : List Char) : Option (Value × Nat) := do
  let found ← pattern.regex.search text
  let value ← pattern.value.convert found.matched
  some (value, Text.byteLength found.skipped + Text.byteLength found.matched)

end Pattern

end RuleGrammar
