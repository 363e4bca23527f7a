import RuleGrammar.Regex.CharSet

/-!
Owns the flags of a pattern, and what they do to sets of characters.

Contract: without `Flags.unicode` classes are made of bytes. Since a match must not end inside a character,
such a class is one of ASCII characters, or else no class at all (`Flags.admits`), and only ASCII letters
have case variants.
-/

namespace RuleGrammar.Regex

structure Flags where
  ignoreCase : Bool := false
  multiLine : Bool := false
  dotAll : Bool := false
  swapGreed : Bool := false
  /-- Classes, case variants and words are those of Unicode. -/
  unicode : Bool := true
  /-- Lines end with a carriage return, a line feed, or both in this order. -/
  crlf : Bool := false
  verbose : Bool := false
deriving DecidableEq, Repr

inductive Flag where
  | ignoreCase
  | multiLine
  | dotAll
  | swapGreed
  | unicode
  | crlf
  | verbose
deriving DecidableEq, Repr

def Flag.ofChar? : Char → Option Flag
  | 'i' => some .ignoreCase
  | 'm' => some .multiLine
  | 's' => some .dotAll
  | 'U' => some .swapGreed
  | 'u' => some .unicode
  | 'R' => some .crlf
  | 'x' => some .verbose
  | _ => none

namespace Flags

def set (flags : Flags) (flag : Flag) (value : Bool) : Flags :=
  match flag with
  | .ignoreCase => { flags with ignoreCase := value }
  | .multiLine => { flags with multiLine := value }
  | .dotAll => { flags with dotAll := value }
  | .swapGreed => { flags with swapGreed := value }
  | .unicode => { flags with unicode := value }
  | .crlf => { flags with crlf := value }
  | .verbose => { flags with verbose := value }

/-- Whether a set can be a class. -/
def admits (flags : Flags) (set : CharSet) : Bool :=
  flags.unicode || set.isAscii

/-- Whether a byte can be a character: without Unicode those from the eighth bit on are parts of one. -/
def admitsByte (flags : Flags) (c : Char) : Bool :=
  flags.unicode || decide (c.toNat < 0x80)

/-- The set with the case variants that count. -/
def foldCase (flags : Flags) (set : CharSet) : CharSet :=
  if !flags.ignoreCase then set
  else if flags.unicode then set.anyCase
  else set.anyAsciiCase

/-- The class of a letter such as `d`: the members of a set, or all other characters. -/
def classOf? (flags : Flags) (negated : Bool) (set : CharSet) : Option CharSet :=
  let members := if flags.unicode then set else set.inter .ascii
  let characters := if negated then members.compl else members
  if flags.admits characters then some characters else none

end Flags

end RuleGrammar.Regex
