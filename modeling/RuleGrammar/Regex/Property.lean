import RuleGrammar.Regex.CharSet

/-!
Owns Unicode properties, which classes such as `\p{Greek}` name.

Contract: what a name stands for is told by a table. Reading takes the table as a parameter and asks it for
every name, so that what is said of patterns holds for any table, such as one of all properties of some
version of Unicode. `PropertyTable.known` has the properties that are at hand here for other reasons; what is
read by it is read in the same way by a table that lists more.
-/

namespace RuleGrammar.Regex

/-- The characters with a property, by what stands in the braces: a name, or a name with a value. -/
structure PropertyTable where
  set? : List Char → Option CharSet

namespace PropertyTable

/-- Names are compared without regard to case, blanks, hyphens and underscores, and to `is` before them. -/
def looseName (name : List Char) : String :=
  let bare :=
    match name.map Char.toLower with
    | 'i' :: 's' :: rest => rest
    | name => name
  String.ofList (bare.filter fun c => decide (c.toNat < 0x80) && c != ' ' && c != '-' && c != '_')

def known : PropertyTable where
  set? name :=
    match looseName name with
    | "any" => some .all
    | "ascii" => some .ascii
    | "nd" | "decimalnumber" | "digit" => some .digit
    | "alpha" | "alphabetic" => some (.ofCodePoints Text.alphabeticRanges)
    | "space" | "wspace" | "whitespace" => some .blank
    | _ => none

end PropertyTable

end RuleGrammar.Regex
