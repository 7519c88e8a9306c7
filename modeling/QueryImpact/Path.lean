import QueryImpact.Text.Cut
import QueryImpact.Text.Lowercase

/-!
# File paths

The file name of a path is its last part, where parts are separated by slashes and a trailing
slash or a trailing `.` part does not count.  A name splits at its last dot into stem and
extension; a dot at the very start belongs to the stem.  The extension tells the programming
language, and the directories tell the package.
-/

namespace QueryImpact.Path

open QueryImpact.Text

/-- The last part of a path, unless that leads to the parent directory. -/
def fileName? (path : List Char) : Option (List Char) :=
  match ((pieces '/' path).filter fun part => part ≠ [] ∧ part ≠ ['.']).getLast? with
  | some name => if name = ['.', '.'] then none else some name
  | none => none

/-- Split a file name at its last dot. -/
def splitName (name : List Char) : List Char × Option (List Char) :=
  match cutLast '.' name with
  | some (stem, extension) => if stem = [] then (name, none) else (stem, some extension)
  | none => (name, none)

/-- The file name of a path without its extension. -/
def stem? (path : List Char) : Option (List Char) :=
  (fileName? path).map fun name => (splitName name).1

/-- The extension of the file name of a path. -/
def extension? (path : List Char) : Option (List Char) :=
  (fileName? path).bind fun name => (splitName name).2

/-- The languages known by their file extensions. -/
def languages : List (String × String) :=
  [("java", "java"), ("kt", "kotlin"), ("kts", "kotlin"), ("scala", "scala"),
    ("py", "python"), ("cs", "csharp"), ("go", "go"), ("rs", "rust"), ("js", "javascript"),
    ("mjs", "javascript"), ("cjs", "javascript"), ("ts", "typescript"), ("tsx", "typescript"),
    ("rb", "ruby"), ("php", "php")]

/-- The language of a file, told by its extension in any letter case. -/
def language? (path : List Char) : Option String :=
  (extension? path).bind fun extension =>
    languages.lookup (String.ofList (lowercaseFrom [] extension))

/-- Directories that hold sources and do not belong to a package. -/
def sourceRoots : List String :=
  ["src/main/java/", "src/main/kotlin/", "src/main/scala/", "src/test/java/", "src/", "lib/"]

/-- Drop every leading `./`. -/
def dropCurrent : List Char → List Char
  | '.' :: '/' :: rest => dropCurrent rest
  | path => path

/-- Drop the first source root that the path starts with. -/
def dropSourceRoot (path : List Char) : List Char :=
  (sourceRoots.findSome? fun root => afterStart root.toList path).getD path

/-- The dotted package of a file: its directories below the source root. -/
def package (path : List Char) : List Char :=
  let slashed := path.map fun c => if c = '\\' then '/' else c
  match cutLast '/' (dropSourceRoot (dropCurrent slashed)) with
  | some (directories, _) =>
      joinWith '.' ((pieces '/' directories).filter fun part => part ≠ [])
  | none => []

end QueryImpact.Path
