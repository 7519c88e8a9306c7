import QueryImpact.Text.Alphabetic
import QueryImpact.Text.DecimalDigit
import QueryImpact.Text.Mark

/-!
# Word characters

The characters that words are made of: alphabetic characters, combining marks, decimal digits,
connector punctuation and the two joining controls.  The most recently encoded of them do not count
yet.  A keyword stands at the start of a word when no word character precedes it.
-/

namespace QueryImpact.Text

/-- Connector punctuation, the Unicode general category `Pc`. -/
def connectorRanges : List (Nat × Nat) :=
  [(0x5f, 0x5f), (0x203f, 0x2040), (0x2054, 0x2054), (0xfe33, 0xfe34), (0xfe4d, 0xfe4f),
    (0xff3f, 0xff3f)]

/-- The zero-width joiner and non-joiner, the Unicode property `Join_Control`. -/
def joinControlRanges : List (Nat × Nat) :=
  [(0x200c, 0x200d)]

/-- Letters, marks and digits of scripts that were encoded after the rule for words was settled, in
increasing order. -/
def unsettledRanges : List (Nat × Nat) :=
  [(0x88f, 0x88f), (0xc5c, 0xc5c), (0xcdc, 0xcdc), (0x1acf, 0x1add), (0x1ae0, 0x1aeb),
    (0xa7ce, 0xa7cf), (0xa7d2, 0xa7d2), (0xa7d4, 0xa7d4), (0xa7f1, 0xa7f1), (0x10940, 0x10959),
    (0x10ec5, 0x10ec7), (0x10efa, 0x10efb), (0x11b60, 0x11b67), (0x11db0, 0x11ddb),
    (0x11de0, 0x11de9), (0x16ea0, 0x16eb8), (0x16ebb, 0x16ed3), (0x16ff2, 0x16ff6),
    (0x187f8, 0x187ff), (0x18d09, 0x18d1e), (0x18d80, 0x18df2), (0x1e6c0, 0x1e6de),
    (0x1e6e0, 0x1e6f5), (0x1e6fe, 0x1e6ff), (0x2b73a, 0x2b73f), (0x2cea2, 0x2cead),
    (0x323b0, 0x33479)]

/-- Whether the character is of a kind that words are made of. -/
def isWordKind (c : Char) : Bool :=
  isAlphabetic c || isMark c || isDecimalDigit c || inRanges connectorRanges c.toNat ||
    inRanges joinControlRanges c.toNat

/-- Whether the character can stand inside a word. -/
def isWordCharacter (c : Char) : Bool :=
  isWordKind c && !inRanges unsettledRanges c.toNat

/-- Whether the character is an ASCII letter or an underscore. -/
def isPlainLetter (c : Char) : Bool :=
  c.isAlpha || c == '_'

end QueryImpact.Text
