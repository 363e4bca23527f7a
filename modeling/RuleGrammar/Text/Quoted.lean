import RuleGrammar.Text.Extender
import RuleGrammar.Text.Unprintable

/-!
Owns quoted texts: one line between double quotes that shows every character.

Quotes, backslashes and the usual controls have short escapes; characters without a visible
form of their own, and those that would join the grapheme before them, are written as
`\u` with their code point in braces.
-/

namespace RuleGrammar.Text

/-- Lower-case hexadecimal digits, without leading zeros. -/
def hexDigits (n : Nat) : List Char :=
  Nat.toDigits 16 n

def quotedChar (c : Char) : List Char :=
  match c with
  | '"' => ['\\', '"']
  | '\\' => ['\\', '\\']
  | '\t' => ['\\', 't']
  | '\r' => ['\\', 'r']
  | '\n' => ['\\', 'n']
  | '\x00' => ['\\', '0']
  | c =>
      if isExtender c || !isPrintable c then
        '\\' :: 'u' :: '\x7b' :: (hexDigits c.toNat ++ ['\x7d'])
      else
        [c]

def quotedChars (text : List Char) : List Char :=
  '"' :: (text.flatMap quotedChar ++ ['"'])

def quoted (text : String) : String :=
  String.ofList (quotedChars text.toList)

end RuleGrammar.Text
