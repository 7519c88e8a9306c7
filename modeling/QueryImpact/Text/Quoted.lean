import QueryImpact.Text.GraphemeExtend
import QueryImpact.Text.Unprintable

/-!
# Quoted text in messages

A text shown inside a message stands between double quotes.  Quotes, backslashes and the usual
control characters have short escapes; every other character that cannot be printed, or that
would join the one before it, is written by its code point.
-/

namespace QueryImpact.Text

/-- Whether the character is one of the Hangul fillers, letters without a shape. -/
def isFiller (c : Char) : Bool :=
  c.toNat ∈ [0x115f, 0x1160, 0x3164, 0xffa0]

/-- Whether the character is a halfwidth sound mark.  These have a cell of their own. -/
def isHalfwidthSoundMark (c : Char) : Bool :=
  c.toNat ∈ [0xff9e, 0xff9f]

/-- Whether the character joins the one before it. -/
def joinsPrevious (c : Char) : Bool :=
  isGraphemeExtend c && !isHalfwidthSoundMark c

/-- Whether the character is shown as it is. -/
def isPrintable (c : Char) : Bool :=
  c == ' ' || !(isUnprintableSeparatorOrOther c || isFiller c || joinsPrevious c)

/-- A character written by its code point in hexadecimal. -/
def codePointEscape (c : Char) : List Char :=
  ['\\', 'u', Char.ofNat 0x7b] ++ Nat.toDigits 16 c.toNat ++ [Char.ofNat 0x7d]

/-- The form of one character between the quotes. -/
def quotedChar (c : Char) : List Char :=
  if c == '"' || c == '\\' then ['\\', c]
  else if c == '\n' then ['\\', 'n']
  else if c == '\r' then ['\\', 'r']
  else if c == '\t' then ['\\', 't']
  else if c.toNat == 0 then ['\\', '0']
  else if isPrintable c then [c]
  else codePointEscape c

/-- A text between double quotes, with escapes. -/
def quoted (text : String) : String :=
  String.ofList (['"'] ++ text.toList.flatMap quotedChar ++ ['"'])

end QueryImpact.Text
