/-!
# White space and trimming

White space is the Unicode property `White_Space`.  Trimming removes it from both ends of a
text and leaves the inside alone.
-/

namespace QueryImpact.Text

/-- Whether the character has the property `White_Space`. -/
def isSpace (c : Char) : Bool :=
  let point := c.toNat
  (0x9 ≤ point && point ≤ 0xd) || point == 0x20 || point == 0x85 || point == 0xa0 ||
    point == 0x1680 || (0x2000 ≤ point && point ≤ 0x200a) || point == 0x2028 ||
    point == 0x2029 || point == 0x202f || point == 0x205f || point == 0x3000

/-- Drop the longest suffix whose characters all satisfy the predicate. -/
def dropEndWhile (p : Char → Bool) (chars : List Char) : List Char :=
  (chars.reverse.dropWhile p).reverse

/-- Remove white space from both ends. -/
def trimChars (chars : List Char) : List Char :=
  dropEndWhile isSpace (chars.dropWhile isSpace)

/-- Remove white space from both ends of a text. -/
def trim (text : String) : String :=
  String.ofList (trimChars text.toList)

/-- Whether nothing is left of a text once it is trimmed. -/
def isBlank (text : String) : Bool :=
  text.toList.all isSpace

end QueryImpact.Text
