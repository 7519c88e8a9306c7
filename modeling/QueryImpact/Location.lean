import QueryImpact.Path
import QueryImpact.Text.Space
import QueryImpact.Text.WordCharacter

/-!
# Source locations

An analyzer names a place in the sources by a text such as `dao/UserDao#find:10`.  A strategy
turns such a text into file, class, method and line, or does not apply to it.  The qualified
strategy reads `path#member` with an optional `:line`; the Python strategy reads
`path.py:member` with an optional `:line`.  Callers may bring strategies of their own.
-/

namespace QueryImpact

open QueryImpact.Text

/-- File, class, method and line of a place in the sources. -/
structure SourceLocation where
  /-- The path of the file. -/
  filePath : String
  /-- The programming language. -/
  language : String
  /-- The dotted package. -/
  package : String
  /-- The class, or the file's stem when none is named. -/
  className : String
  /-- The method. -/
  methodName : String
  /-- The method with its parameter list, when one is given. -/
  signature : String
  /-- The line, zero when none is given. -/
  line : UInt32
deriving DecidableEq

namespace Location

/-- The line number written by ASCII digits, when it fits in 32 bits. -/
def lineNumber? (digits : List Char) : Option UInt32 :=
  if digits ≠ [] ∧ digits.all Char.isDigit then
    let value := digits.foldl (fun value c => value * 10 + (c.toNat - '0'.toNat)) 0
    if value < UInt32.size then some (UInt32.ofNat value) else none
  else none

/-- A location cut into path, member and the text of the line. -/
structure Parts where
  /-- What stands before the separator. -/
  path : List Char
  /-- What stands after it, up to the colon of the line. -/
  member : List Char
  /-- What stands after that colon. -/
  line : Option (List Char)
deriving DecidableEq

/-- Cut the text after a path into member and line. -/
def Parts.ofRest (path rest : List Char) : Parts :=
  match cutFirst ':' rest with
  | some (member, line) => ⟨path, member, some line⟩
  | none => ⟨path, rest, none⟩

/-- The line of a location; a location without line is on line zero. -/
def Parts.lineNumber? (parts : Parts) : Option UInt32 :=
  match parts.line with
  | some digits => Location.lineNumber? digits
  | none => some 0

end Location

/-- The strategy for `path#member:line`. -/
structure QualifiedStrategy where
  /-- The language of files whose extension tells none. -/
  language : String
  /-- The extension given to paths without one. -/
  extension : Option String
deriving DecidableEq

namespace QualifiedStrategy

open Location

/-- The strategy for Java, where `UserDao#find:10` lies in `UserDao.java`. -/
def java : QualifiedStrategy :=
  ⟨"java", some "java"⟩

/-- Cut a trimmed location at its number sign. -/
def cut? (location : List Char) : Option Parts :=
  match cutFirst '#' location with
  | some (path, rest) =>
      let parts := Parts.ofRest path rest
      if path ≠ [] ∧ path.all (fun c => !isSpace c) ∧ '#' ∉ parts.member ∧
          parts.member.head?.any (fun c => !isSpace c) then
        some parts
      else none
  | none => none

/-- The path with the default extension when it has none of its own. -/
def completePath (strategy : QualifiedStrategy) (path : List Char) : List Char :=
  match Path.extension? path, strategy.extension with
  | none, some extension => path ++ '.' :: extension.toList
  | _, _ => path

/-- Split a member into its head and its parameter list, which ends the member. -/
def splitParameters? (member : List Char) : Option (List Char × Option (List Char)) :=
  match cutFirst '(' member with
  | some (head, _) =>
      if member.getLast? = some ')' then some (head, some (member.drop head.length)) else none
  | none => some (member, none)

/-- A parameter list without blanks and without empty parameters. -/
def normalizeParameters (parameters : List Char) : List Char :=
  let inner := dropEndWhile (· == ')') (parameters.dropWhile (· == '('))
  let names := ((pieces ',' inner).map trimChars).filter fun name => name ≠ []
  '(' :: joinWith ',' names ++ [')']

/-- Class and method of a member head: the two sides of its last dot, or the stem of the file
and the whole head. -/
def classAndMethod? (path head : List Char) : Option (List Char × List Char) :=
  match cutLast '.' head with
  | some (className, methodName) =>
      if className = [] ∨ methodName = [] then none else some (className, methodName)
  | none =>
      match Path.stem? path with
      | some stem => if stem = [] ∨ head = [] then none else some (stem, head)
      | none => none

/-- The place that a location text names. -/
def parse? (strategy : QualifiedStrategy) (location : String) : Option SourceLocation := do
  let parts ← cut? (trimChars location.toList)
  let path := strategy.completePath parts.path
  let (head, parameters) ← splitParameters? (trimChars parts.member)
  let (className, methodName) ← classAndMethod? path head
  let line ← parts.lineNumber?
  pure
    { filePath := String.ofList path
      language := (Path.language? path).getD strategy.language
      package := String.ofList (Path.package path)
      className := String.ofList className
      methodName := String.ofList methodName
      signature := String.ofList (methodName ++ (parameters.map normalizeParameters).getD [])
      line }

end QualifiedStrategy

namespace PythonLocation

open Location

/-- The extension of Python files. -/
def fileEnding : List Char :=
  ['.', 'p', 'y']

/-- Whether the text is a dotted name that starts with a plain letter. -/
def isDottedName : List Char → Bool
  | [] => false
  | first :: rest => isPlainLetter first && rest.all fun c => isWordCharacter c || c == '.'

/-- Cut a trimmed location at its first colon. -/
def cut? (location : List Char) : Option Parts :=
  match cutFirst ':' location with
  | some (path, rest) =>
      let parts := Parts.ofRest path rest
      if path.all (fun c => !isSpace c) ∧ fileEnding.length < path.length ∧
          path.drop (path.length - fileEnding.length) = fileEnding ∧
          isDottedName parts.member then
        some parts
      else none
  | none => none

/-- Class and method of a dotted name: the two sides of its last dot, or the module and the
whole name. -/
def classAndMethod? (path member : List Char) : Option (List Char × List Char) :=
  match cutLast '.' member with
  | some (className, methodName) =>
      if className = [] ∨ methodName = [] then none else some (className, methodName)
  | none => (Path.stem? path).map fun stem => (stem, member)

/-- The place that a location text names. -/
def parse? (location : String) : Option SourceLocation := do
  let parts ← cut? (trimChars location.toList)
  let (className, methodName) ← classAndMethod? parts.path parts.member
  let line ← parts.lineNumber?
  pure
    { filePath := String.ofList parts.path
      language := "python"
      package := String.ofList (Path.package parts.path)
      className := String.ofList className
      methodName := String.ofList methodName
      signature := String.ofList methodName
      line }

end PythonLocation

/-- A way to read location texts. -/
inductive LocationStrategy where
  /-- `path#member:line`. -/
  | qualified (strategy : QualifiedStrategy)
  /-- `path.py:member:line`. -/
  | python
  /-- A strategy that a caller brings. -/
  | custom (name : String) (parse : String → Option SourceLocation)

namespace LocationStrategy

/-- The strategy for Java locations. -/
def java : LocationStrategy :=
  qualified QualifiedStrategy.java

/-- The short name of the strategy. -/
def name : LocationStrategy → String
  | qualified _ => "qualified"
  | python => "python"
  | custom name _ => name

/-- The place that a location text names, when the strategy applies to it. -/
def parse? : LocationStrategy → String → Option SourceLocation
  | qualified strategy => strategy.parse?
  | python => PythonLocation.parse?
  | custom _ parse => parse

/-- The answer of the first strategy that applies. -/
def parseFirst? (strategies : List LocationStrategy) (location : String) :
    Option SourceLocation :=
  strategies.findSome? fun strategy => strategy.parse? location

end LocationStrategy

end QueryImpact
