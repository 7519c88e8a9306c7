import QueryImpact.Text.Cut

/-!
# Names of servers

A secure connection is made to a server that proves its name.  Such a name is a row of labels of
letters, digits, hyphens and underscores, and does not look like a number.
-/

namespace QueryImpact.DomainName

/-- Whether a character may stand in a label of a server name. -/
def isServerCharacter (c : Char) : Bool :=
  c.isAlphanum || c = '-' || c = '_'

/-- Whether a text is a label of a server name: up to 63 characters, no hyphen at an end. -/
def isServerLabel (label : List Char) : Bool :=
  label != [] && label.length ≤ 63 && label.all isServerCharacter &&
    label.head? != some '-' && label.getLast? != some '-'

/-- Leave out one dot at the end. -/
def withoutFinalDot (name : List Char) : List Char :=
  if name.getLast? = some '.' then name.dropLast else name

/-- Whether a text is a server name: up to 253 characters, the last label not a number; one dot may
follow. -/
def isServerName (name : List Char) : Bool :=
  let labels := Text.pieces '.' (withoutFinalDot name)
  name.length ≤ 253 && labels.all isServerLabel && !labels.getLast?.any (·.all Char.isDigit)

end QueryImpact.DomainName
