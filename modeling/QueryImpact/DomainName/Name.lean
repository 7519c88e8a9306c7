import QueryImpact.DomainName.Direction
import QueryImpact.DomainName.Expansion
import QueryImpact.DomainName.Image
import QueryImpact.DomainName.Joiner
import QueryImpact.DomainName.Punycode
import QueryImpact.DomainName.ValidCharacter
import QueryImpact.Text.Cut
import QueryImpact.Text.Mark

/-!
# Domain names

A domain name is a row of labels with dots between them.  To read one, each character is replaced
by what it stands for, the text is composed, and labels that are written in ASCII are unfolded.
What comes out has to be a proper label: it starts with no mark, its joiners make a difference, and
its direction is clear if some label is written from right to left.
-/

namespace QueryImpact.DomainName

/-- Whether no domain name can have the character. -/
def isForbidden (c : Char) : Bool :=
  c.toNat ≤ 0x20 || c = '\x7f' ||
    c ∈ ['%', '#', '/', ':', '<', '>', '?', '@', '[', '\\', ']', '^', '|']

/-- What a character stands for. -/
def reading? (c : Char) : Option (List Char) :=
  if isValid c || isVariant c then some [c]
  else if isDropped c then some []
  else
    match expansion? c with
    | some expanded => some expanded
    | none => (characterImage? c).map ([·])

/-- What a text stands for, composed. -/
def readings? (chars : List Char) : Option (List Char) := do
  let readings ← chars.mapM reading?
  return compose readings.flatten

/-- Whether a character is one of ASCII. -/
def isAscii (c : Char) : Bool :=
  c.toNat < 128

/-- Marks of music that are written from left to right, in increasing order. -/
def musicalMarkRanges : List (Nat × Nat) :=
  [(0x1d250, 0x1d252), (0x1d25b, 0x1d25c), (0x1d25f, 0x1d25f), (0x1d280, 0x1d281)]

/-- Whether a character is a mark, which needs a letter to stand on. -/
def needsLetter (c : Char) : Bool :=
  Text.isMark c || direction c = .mark || Text.inRanges musicalMarkRanges c.toNat

/-- Whether a label is proper by itself.  One with characters beyond ASCII has a thousand characters
at most. -/
def isProperLabel (label : List Char) : Bool :=
  !label.head?.any needsLetter && joinersFit [] label &&
    (label.all isAscii || label.length ≤ 1000)

/-- Unfold what follows the sign of a label written in ASCII.  It has to be what one writes: ASCII
alone, not ending in a hyphen, for characters that stand for themselves in composed form. -/
def unfoldLabel? (written : List Char) : Option (List Char) := do
  guard (written.all isAscii && written.getLast?.any (· ≠ '-') && written.length ≤ 2000)
  let label ← unfoldAscii? written
  guard (label.all isValid && !label.any isForbidden && compose label = label)
  return label

/-- The label that a composed text between dots stands for. -/
def label? (text : List Char) : Option (List Char) := do
  let label ← match Text.afterStart ['x', 'n', '-', '-'] text with
    | some written => unfoldLabel? written
    | none => some text
  guard (isProperLabel label)
  return label

/-- The labels of the domain name that a text stands for. -/
def labels? (chars : List Char) : Option (List (List Char)) := do
  let text ← readings? chars
  guard (!text.any isForbidden)
  let labels ← (Text.pieces '.' text).mapM label?
  guard (!labels.any (·.any runsLeft) || labels.all hasClearDirection)
  return labels

/-- The domain name that a text stands for. -/
def read? (chars : List Char) : Option (List Char) :=
  (labels? chars).map (Text.joinWith '.')

end QueryImpact.DomainName
