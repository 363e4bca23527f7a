import RuleGrammar.Text.CodePoints

/-!
Owns ranges of code points as ranges of bytes in their encoding: a range is cut where the length of
the encoding changes and where continuation bytes run over, so that each piece is a product of ranges of
bytes.
-/

namespace RuleGrammar.Text

/-- A first and a last byte. -/
abbrev ByteRange := UInt8 × UInt8

def cutAfter (bound : Nat) (range : Nat × Nat) : CodePoints :=
  if range.1 ≤ bound ∧ bound < range.2 then [(range.1, bound), (bound + 1, range.2)] else [range]

/-- Cuts off the beginning of a range that goes beyond its block and does not fill it. -/
def cutHead (block : Nat) (range : Nat × Nat) : CodePoints :=
  if range.1 % block = 0 then [range] else cutAfter (range.1 / block * block + (block - 1)) range

/-- Cuts off the end of a range that began in an earlier block, if it does not fill its own. -/
def cutTail (block : Nat) (range : Nat × Nat) : CodePoints :=
  if (range.2 + 1) % block = 0 then [range] else cutAfter (range.2 / block * block - 1) range

/-- Pieces that lie in one block each or are made of whole blocks. -/
def alignTo (block : Nat) (range : Nat × Nat) : CodePoints :=
  (cutHead block range).flatMap (cutTail block)

/-- The pieces of a range of code points whose encodings have one length each. -/
def cutByLength (range : Nat × Nat) : CodePoints :=
  (cutAfter 0x7f range).flatMap fun range => (cutAfter 0x7ff range).flatMap (cutAfter 0xffff)

def encodedRange (range : Nat × Nat) : List ByteRange :=
  (String.utf8EncodeChar (Char.ofNat range.1)).zip (String.utf8EncodeChar (Char.ofNat range.2))

/-- The sequences of byte ranges that encode a range of code points, in ascending order. -/
def byteRanges (range : Nat × Nat) : List (List ByteRange) :=
  (cutByLength range).flatMap fun range =>
    if range.2 ≤ 0x7f then
      [encodedRange range]
    else
      ((alignTo 0x40 range).flatMap fun range => (alignTo 0x1000 range).flatMap (alignTo 0x40000)).map
        encodedRange

end RuleGrammar.Text
