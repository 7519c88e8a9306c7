import QueryImpact.Toml.Layout

/-!
# TOML texts

A text stands between double quotes, where a backslash starts an escape, or between single
quotes, where every character stands for itself.  Three quotes open a text of several lines.
-/

namespace QueryImpact.Toml

/-- Whether a character may stand for itself in a text: no control character but the tab. -/
def isTextCharacter (c : Char) : Bool :=
  isCommentCharacter c

/-- The value of a hexadecimal digit. -/
def hexValue? (c : Char) : Option Nat :=
  if c.isDigit then some (c.toNat - '0'.toNat)
  else if 'a' ≤ c && c ≤ 'f' then some (c.toNat - 'a'.toNat + 10)
  else if 'A' ≤ c && c ≤ 'F' then some (c.toNat - 'A'.toNat + 10)
  else none

/-- The number written by exactly the given number of hexadecimal digits. -/
def readHex : Nat → Nat → List Char → Option (Nat × List Char)
  | 0, value, rest => some (value, rest)
  | _ + 1, _, [] => none
  | digits + 1, value, c :: rest =>
      match hexValue? c with
      | some digit => readHex digits (value * 16 + digit) rest
      | none => none

/-- The character with a code point written by hexadecimal digits. -/
def readCodePoint (digits : Nat) (input : List Char) : Option (Char × List Char) :=
  match readHex digits 0 input with
  | some (value, rest) =>
      if value < 0xd800 ∨ (0xdfff < value ∧ value < 0x110000) then
        some (Char.ofNat value, rest)
      else none
  | none => none

/-- The character an escape stands for; the input starts after the backslash. -/
def readEscape : List Char → Option (Char × List Char)
  | 'b' :: rest => some (Char.ofNat 8, rest)
  | 't' :: rest => some ('\t', rest)
  | 'n' :: rest => some ('\n', rest)
  | 'f' :: rest => some (Char.ofNat 12, rest)
  | 'r' :: rest => some ('\r', rest)
  | '"' :: rest => some ('"', rest)
  | '\\' :: rest => some ('\\', rest)
  | 'u' :: rest => readCodePoint 4 rest
  | 'U' :: rest => readCodePoint 8 rest
  | _ => none

/-- The rest of a text between double quotes, after the opening quote; `taken` holds the
characters read so far, last first. -/
def readQuoted : Nat → List Char → List Char → Option (String × List Char)
  | 0, _, _ => none
  | _ + 1, _, [] => none
  | steps + 1, taken, c :: rest =>
      if c == '"' then some (String.ofList taken.reverse, rest)
      else if c == '\\' then
        match readEscape rest with
        | some (decoded, rest) => readQuoted steps (decoded :: taken) rest
        | none => none
      else if isTextCharacter c then readQuoted steps (c :: taken) rest
      else none

/-- The rest of a text between single quotes, after the opening quote. -/
def readLiteral (input : List Char) : Option (String × List Char) :=
  match input.dropWhile fun c => c ≠ '\'' && isTextCharacter c with
  | '\'' :: rest =>
      some (String.ofList (input.takeWhile fun c => c ≠ '\'' && isTextCharacter c), rest)
  | _ => none

/-- Skip blanks and line ends; a carriage return alone is no line end. -/
def skipBlankLines : List Char → List Char
  | [] => []
  | '\r' :: '\n' :: rest => skipBlankLines rest
  | c :: rest => if isBlank c || c == '\n' then skipBlankLines rest else c :: rest

/-- The input after a line end, blanks and further line ends, when a backslash is the last thing
on its line. -/
def afterLineContinuation? (input : List Char) : Option (List Char) :=
  (afterLineEnd? (skipBlanks input)).map skipBlankLines

/-- How many of the quotes in a row belong to a text of several lines: all of them if there are at
most two, else those before the last three, of which there may be two. -/
def quotesInside (quotes : Nat) : Nat :=
  if quotes < 3 then quotes else min (quotes - 3) 2

/-- The rest of a text of several lines, after its opening quotes; `quote` says which quotes stand
around it. -/
def readLines (quote : Char) : Nat → List Char → List Char → Option (String × List Char)
  | 0, _, _ => none
  | _ + 1, _, [] => none
  | steps + 1, taken, c :: rest =>
      if c == quote then
        let run := (c :: rest).takeWhile (· == quote)
        let inside := quotesInside run.length
        let extended := List.replicate inside quote ++ taken
        if run.length < 3 then readLines quote steps extended (rest.drop (inside - 1))
        else some (String.ofList extended.reverse, (c :: rest).drop (inside + 3))
      else if c == '\\' && quote == '"' then
        match afterLineContinuation? rest with
        | some rest => readLines quote steps taken rest
        | none =>
            match readEscape rest with
            | some (decoded, rest) => readLines quote steps (decoded :: taken) rest
            | none => none
      else if isTextCharacter c then readLines quote steps (c :: taken) rest
      else
        match afterLineEnd? (c :: rest) with
        | some rest => readLines quote steps ('\n' :: taken) rest
        | none => none

/-- A text of several lines; a line end right after the opening quotes does not count. -/
def readBlock (quote : Char) (input : List Char) : Option (String × List Char) :=
  let body := (afterLineEnd? input).getD input
  readLines quote (body.length + 1) [] body

/-- A text on one line. -/
def readLineText : List Char → Option (String × List Char)
  | '"' :: rest => readQuoted (rest.length + 1) [] rest
  | '\'' :: rest => readLiteral rest
  | _ => none

/-- A text. -/
def readText : List Char → Option (String × List Char)
  | '"' :: '"' :: '"' :: rest => readBlock '"' rest
  | '\'' :: '\'' :: '\'' :: rest => readBlock '\'' rest
  | input => readLineText input

end QueryImpact.Toml
