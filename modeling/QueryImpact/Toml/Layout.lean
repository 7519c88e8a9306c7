/-!
# Blanks, line ends and comments in TOML

A line ends with a line feed, which a carriage return may precede.  A comment runs to the end of
its line and holds no control characters but tabs.
-/

namespace QueryImpact.Toml

/-- Whether the character is white space inside a line. -/
def isBlank (c : Char) : Bool :=
  c == ' ' || c == '\t'

/-- Skip white space inside a line. -/
def skipBlanks (input : List Char) : List Char :=
  input.dropWhile isBlank

/-- Whether a character may stand in a comment. -/
def isCommentCharacter (c : Char) : Bool :=
  c == '\t' || (0x20 ≤ c.toNat && c.toNat ≠ 0x7f)

/-- The input after a line end. -/
def afterLineEnd? : List Char → Option (List Char)
  | '\n' :: rest => some rest
  | '\r' :: '\n' :: rest => some rest
  | _ => none

/-- The input after a comment, if there is one here. -/
def skipComment : List Char → List Char
  | '#' :: rest => rest.dropWhile isCommentCharacter
  | input => input

/-- The input after the rest of a line that holds nothing but blanks and a comment; the input may
end instead of the line. -/
def afterLine? (input : List Char) : Option (List Char) :=
  match skipComment (skipBlanks input) with
  | [] => some []
  | rest => afterLineEnd? rest

/-- Skip blanks, line ends and comments; a comment has to be followed by a line end. -/
def skipFiller : Nat → List Char → Option (List Char)
  | 0, _ => none
  | steps + 1, input =>
      match skipBlanks input with
      | '#' :: rest =>
          match afterLineEnd? (rest.dropWhile isCommentCharacter) with
          | some rest => skipFiller steps rest
          | none => none
      | rest =>
          match afterLineEnd? rest with
          | some rest => skipFiller steps rest
          | none => some rest

end QueryImpact.Toml
