import QueryImpact.Toml.Entry
import QueryImpact.Toml.Number

/-!
# TOML documents

A document is a sequence of lines, each with a header, a key with its value, or nothing; comments
may end them.
-/

namespace QueryImpact.Toml

/-- How deep lists and inline tables may be nested, and how many names a dotted key may have. -/
def nestingLimit : Nat :=
  79

/-- Whether a character may stand in a name without quotes. -/
def isBareCharacter (c : Char) : Bool :=
  c.isAlphanum || c == '-' || c == '_'

/-- One name of a key. -/
def readName (input : List Char) : Option (String × List Char) :=
  match readLineText input with
  | some result => some result
  | none =>
      let name := input.takeWhile isBareCharacter
      if name.isEmpty then none
      else some (String.ofList name, input.dropWhile isBareCharacter)

/-- The names of a dotted key, blanks around them included. -/
def readNames : Nat → List Char → Option (List String × List Char)
  | 0, _ => none
  | steps + 1, input =>
      match readName (skipBlanks input) with
      | none => none
      | some (name, rest) =>
          match skipBlanks rest with
          | '.' :: rest =>
              (readNames steps rest).map fun result => (name :: result.1, result.2)
          | rest => some ([name], rest)

/-- A key: the names on the way and the last one. -/
structure Key where
  /-- The names of the tables on the way. -/
  path : List String
  /-- The last name. -/
  name : String

/-- A key of the given names. -/
def Key.ofNames? : List String → Option Key
  | [] => none
  | first :: rest => some ⟨(first :: rest).dropLast, (first :: rest).getLastD first⟩

/-- Change the entries at a key by a function for its last name. -/
def Key.descend (key : Key) (change : String → Entries → Option Entries) (entries : Entries) :
    Option Entries :=
  match key.path with
  | [] => change key.name entries
  | first :: path => Entries.descend change first (path ++ [key.name]) entries

/-- A key. -/
def readKey (input : List Char) : Option (Key × List Char) := do
  let (names, rest) ← readNames (nestingLimit + 1) input
  if nestingLimit < names.length then none
  else
    let key ← Key.ofNames? names
    pure (key, rest)

/-- The value a fixed word stands for. -/
def readWord : List Char → Option (Value × List Char)
  | 't' :: 'r' :: 'u' :: 'e' :: rest => some (.boolean true, rest)
  | 'f' :: 'a' :: 'l' :: 's' :: 'e' :: rest => some (.boolean false, rest)
  | _ => none

mutual

/-- A value; the first argument bounds the number of steps, the second the nesting. -/
def readValue : Nat → Nat → List Char → Option (Value × List Char)
  | 0, _, _ => none
  | steps + 1, levels, input =>
      match input, levels with
      | '"' :: _, _ | '\'' :: _, _ => (readText input).map fun result => (.text result.1, result.2)
      | '[' :: rest, inner + 1 =>
          (readItems steps inner rest).map fun result => (.list result.1, result.2)
      | '{' :: rest, inner + 1 =>
          match skipBlanks rest with
          | '}' :: rest => some (.table [], rest)
          | rest =>
              (readPairs steps inner [] rest).map fun result =>
                (.table (Entries.toTable result.1), result.2)
      | '[' :: _, 0 | '{' :: _, 0 => none
      | _, _ => (readWord input).or (readNumber input)

/-- The items of a list up to and including its closing bracket. -/
def readItems : Nat → Nat → List Char → Option (List Value × List Char)
  | 0, _, _ => none
  | steps + 1, levels, input => do
      let input ← skipFiller (input.length + 1) input
      match input with
      | ']' :: rest => pure ([], rest)
      | _ =>
          let (item, rest) ← readValue steps levels input
          let rest ← skipFiller (rest.length + 1) rest
          match rest with
          | ']' :: rest => pure ([item], rest)
          | ',' :: rest =>
              let (items, rest) ← readItems steps levels rest
              pure (item :: items, rest)
          | _ => none

/-- The pairs of an inline table up to and including its closing brace. -/
def readPairs : Nat → Nat → Entries → List Char → Option (Entries × List Char)
  | 0, _, _, _ => none
  | steps + 1, levels, entries, input => do
      let (key, rest) ← readKey input
      let rest ← afterCharacter? '=' rest
      let (value, rest) ← readValue steps levels (skipBlanks rest)
      let entries ← Entries.define key.name value key.path entries
      match skipBlanks rest with
      | '}' :: rest => pure (entries, rest)
      | ',' :: rest => readPairs steps levels entries rest
      | _ => none

end

/-- What has been read of a document. -/
structure Document where
  /-- The entries so far. -/
  entries : Entries
  /-- The key of the last header. -/
  header : Option Key

namespace Document

/-- The document before its first line. -/
def empty : Document :=
  ⟨[], none⟩

/-- Define a value in the open table. -/
def define (document : Document) (key : Key) (value : Value) : Option Document :=
  let change := Entries.define key.name value key.path
  let changed := match document.header with
    | none => change document.entries
    | some header => header.descend (Entries.inOpen change) document.entries
  changed.map fun entries => { document with entries := entries }

/-- Open the table of a header. -/
def startTable (document : Document) (key : Key) : Option Document :=
  (key.descend Entries.openTable document.entries).map fun entries => ⟨entries, some key⟩

/-- Open a further table of a header in double brackets. -/
def startElement (document : Document) (key : Key) : Option Document :=
  (key.descend Entries.openElement document.entries).map fun entries => ⟨entries, some key⟩

/-- Read a header in double brackets, after them. -/
def readElementHeader (document : Document) (input : List Char) :
    Option (Document × List Char) := do
  let (key, rest) ← readKey input
  let rest ← afterCharacter? ']' rest
  let rest ← afterCharacter? ']' rest
  let document ← document.startElement key
  pure (document, rest)

/-- Read a header, after its bracket. -/
def readTableHeader (document : Document) (input : List Char) :
    Option (Document × List Char) := do
  let (key, rest) ← readKey input
  let rest ← afterCharacter? ']' rest
  let document ← document.startTable key
  pure (document, rest)

/-- Read a key with its value. -/
def readPair (document : Document) (input : List Char) : Option (Document × List Char) := do
  let (key, rest) ← readKey input
  let rest ← afterCharacter? '=' rest
  let value := skipBlanks rest
  let (value, rest) ← readValue (2 * value.length + 2) nestingLimit value
  let document ← document.define key value
  pure (document, rest)

/-- Read what a line holds besides blanks and a comment. -/
def readContent (document : Document) : List Char → Option (Document × List Char)
  | [] => some (document, [])
  | '#' :: rest => some (document, '#' :: rest)
  | '\n' :: rest => some (document, '\n' :: rest)
  | '\r' :: rest => some (document, '\r' :: rest)
  | '[' :: '[' :: rest => document.readElementHeader rest
  | '[' :: rest => document.readTableHeader rest
  | input => document.readPair input

/-- Read the lines of a document. -/
def readLines : Nat → Document → List Char → Option Document
  | 0, _, _ => none
  | _ + 1, document, [] => some document
  | steps + 1, document, input => do
      let (document, rest) ← document.readContent (skipBlanks input)
      let rest ← afterLine? rest
      readLines steps document rest

end Document

/-- The input without the mark that may open a text in Unicode. -/
def skipMark : List Char → List Char
  | [] => []
  | c :: rest => if c.toNat = 0xfeff then rest else c :: rest

/-- The table that a text in the TOML format describes. -/
def parse? (text : String) : Option Table :=
  let input := skipMark text.toList
  (Document.readLines (input.length + 1) .empty input).map fun document =>
    Entries.toTable document.entries

end QueryImpact.Toml
