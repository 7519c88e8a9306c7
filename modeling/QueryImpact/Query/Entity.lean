import QueryImpact.Query.Statement
import QueryImpact.Text.Lowercase

/-!
# Entities named by a query

The text is scanned from left to right for the keywords `FROM`, `INTO`, `UPDATE` and `JOIN`, in
any letter case and not inside a longer word.  White space and then the longest run of characters
other than white space, commas, semicolons and parentheses must follow; that run is a reference,
and the scan goes on after it.  A reference is cleaned of quoting and turned to lower case, and
names an entity unless it is a parameter, a number or a word that may follow a keyword.
-/

namespace QueryImpact.Query

open QueryImpact.Text

/-- The words that an entity reference follows. -/
def referenceKeywords : List (List Char) :=
  [['F', 'R', 'O', 'M'], ['I', 'N', 'T', 'O'], ['U', 'P', 'D', 'A', 'T', 'E'],
    ['J', 'O', 'I', 'N']]

/-- The text after a keyword in any letter case. -/
def afterKeyword : List Char → List Char → Option (List Char)
  | [], chars => some chars
  | _ :: _, [] => none
  | k :: keyword, c :: chars => if c.toUpper = k then afterKeyword keyword chars else none

/-- Whether the character can be part of a reference. -/
def isReferenceCharacter (c : Char) : Bool :=
  !(isSpace c || c == ',' || c == ';' || c == '(' || c == ')')

/-- A keyword at the start of the text, and the reference that follows it, with the text after
that. -/
def reference? (chars : List Char) : Option (List Char × List Char) :=
  match referenceKeywords.findSome? fun keyword => afterKeyword keyword chars with
  | some rest =>
      let after := rest.dropWhile isSpace
      let reference := after.takeWhile isReferenceCharacter
      if after.length < rest.length ∧ reference ≠ [] then
        some (reference, after.dropWhile isReferenceCharacter)
      else none
  | none => none

theorem length_afterKeyword {keyword chars rest : List Char}
    (found : afterKeyword keyword chars = some rest) : rest.length ≤ chars.length := by
  induction keyword generalizing chars with
  | nil =>
      cases Option.some.inj found
      exact Nat.le_refl _
  | cons k keyword ih =>
      cases chars with
      | nil => simp [afterKeyword] at found
      | cons c chars =>
          simp only [afterKeyword] at found
          split at found
          · exact Nat.le_succ_of_le (ih found)
          · cases found

/-- The text after a reference is shorter than the text before its keyword. -/
theorem length_reference? {chars reference after : List Char}
    (found : reference? chars = some (reference, after)) : after.length < chars.length := by
  unfold reference? at found
  split at found
  · rename_i rest keywordFound
    obtain ⟨keyword, _, matched⟩ := List.exists_of_findSome?_eq_some keywordFound
    dsimp only at found
    split at found
    · rename_i follows
      simp only [Option.some.injEq, Prod.mk.injEq] at found
      obtain ⟨_, rfl⟩ := found
      have dropped :=
        length_dropWhile_le isReferenceCharacter (rest.dropWhile isSpace)
      have taken := length_afterKeyword matched
      omega
    · cases found
  · cases found

/-- Whether a keyword may start after the given character. -/
def isWordStart : Option Char → Bool
  | some before => !isWordCharacter before
  | none => true

/-- The references of a text, in order; `before` is the character in front of the text. -/
def referencesFrom (before : Option Char) (chars : List Char) : List (List Char) :=
  match chars with
  | [] => []
  | c :: rest =>
      if isWordStart before then
        match _found : reference? (c :: rest) with
        | some (reference, after) => reference :: referencesFrom reference.getLast? after
        | none => referencesFrom (some c) rest
      else referencesFrom (some c) rest
termination_by chars.length
decreasing_by
  · exact length_reference? _found
  · exact Nat.lt_succ_self _
  · exact Nat.lt_succ_self _

/-- The references of a text, in order. -/
def references (text : String) : List (List Char) :=
  referencesFrom none text.toList

/-- Whether the character only quotes an identifier. -/
def isQuoting (c : Char) : Bool :=
  c == '"' || c == '`' || c == '[' || c == ']' || c == '\''

/-- A reference without quoting characters and outer dots, its letters as they are. -/
def bareReference (reference : List Char) : List Char :=
  dropEndWhile (· == '.') ((reference.filter fun c => !isQuoting c).dropWhile (· == '.'))

/-- Words that may follow a keyword without naming an entity. -/
def stopWords : List String :=
  ["select", "set", "where", "values", "value", "of", "nowait", "skip", "only", "lateral",
    "unnest", "table", "dual", "ignore", "or", "and", "on", "as", "using", "with"]

/-- The entity that a reference names. -/
def cleanReference? (reference : List Char) : Option String :=
  match lowercaseFrom [] (bareReference reference) with
  | [] => none
  | first :: rest =>
      let name := String.ofList (first :: rest)
      if (isAlphabetic first || first == '_') && !stopWords.contains name then some name
      else none

/-- Add an item at the end unless it is there. -/
def addNew {α : Type} [DecidableEq α] (items : List α) (item : α) : List α :=
  if item ∈ items then items else items ++ [item]

/-- The distinct entities named by a query, in order of appearance. -/
def entities (text : String) : List String :=
  ((references text).filterMap cleanReference?).foldl addNew []

end QueryImpact.Query
