import QueryImpact.Toml.Value

/-!
# TOML tables under construction

A table is defined once: by a header, or by the dotted keys that run through it.  A header may
run through tables that are not defined yet, and may define them later; dotted keys may only go
on in tables that dotted keys have opened.
-/

namespace QueryImpact.Toml

/-- What stands under a name while a document is read. -/
inductive Entry where
  /-- A finished value. -/
  | value (value : Value)
  /-- A table; `isImplicit` if only mentioned on the way to something else, `isDotted` if by a
  dotted key. -/
  | table (isImplicit isDotted : Bool) (members : List (String × Entry))
  /-- The tables of a header in double brackets, of which there is at least one; the last one is
  open. -/
  | tables (closed : List (List (String × Entry))) (last : List (String × Entry))

/-- Named entries. -/
abbrev Entries : Type :=
  List (String × Entry)

namespace Entries

/-- What stands under a name. -/
def find? (entries : Entries) (name : String) : Option Entry :=
  entries.lookup name

/-- Put an entry under a name. -/
def put (entries : Entries) (name : String) (entry : Entry) : Entries :=
  if entries.any fun member => member.1 = name then
    entries.map fun member => if member.1 = name then (name, entry) else member
  else entries ++ [(name, entry)]

/-- Define a value at the end of a dotted path; the name must be free. -/
def define (name : String) (value : Value) : List String → Entries → Option Entries
  | [], entries =>
      match entries.find? name with
      | some _ => none
      | none => some (entries.put name (.value value))
  | first :: path, entries =>
      match entries.find? first with
      | none =>
          (define name value path []).map fun inner =>
            entries.put first (.table true true inner)
      | some (.value _) => none
      | some (.table isImplicit isDotted inner) =>
          if !isImplicit || (path.isEmpty && !isDotted) then none
          else
            (define name value path inner).map fun inner =>
              entries.put first (.table isImplicit isDotted inner)
      | some (.tables closed last) =>
          if path.isEmpty then none
          else
            (define name value path last).map fun last =>
              entries.put first (.tables closed last)

/-- Change the entries reached along a path by a function for its last name; tables that are not
there yet are mentioned. -/
def descend (change : String → Entries → Option Entries) :
    String → List String → Entries → Option Entries
  | name, [], entries => change name entries
  | first, next :: path, entries =>
      match entries.find? first with
      | none =>
          (descend change next path []).map fun inner =>
            entries.put first (.table true false inner)
      | some (.value _) => none
      | some (.table isImplicit isDotted inner) =>
          (descend change next path inner).map fun inner =>
            entries.put first (.table isImplicit isDotted inner)
      | some (.tables closed last) =>
          (descend change next path last).map fun last =>
            entries.put first (.tables closed last)

/-- Open the table of a header: it is new, or was mentioned only by headers. -/
def openTable (name : String) (entries : Entries) : Option Entries :=
  match entries.find? name with
  | none => some (entries.put name (.table false false []))
  | some (.table true false inner) => some (entries.put name (.table false false inner))
  | some _ => none

/-- Open a further table of a header in double brackets. -/
def openElement (name : String) (entries : Entries) : Option Entries :=
  match entries.find? name with
  | none => some (entries.put name (.tables [] []))
  | some (.tables closed last) => some (entries.put name (.tables (closed ++ [last]) []))
  | some _ => none

/-- Change the members of the open table with a name. -/
def inOpen (change : Entries → Option Entries) (name : String) (entries : Entries) :
    Option Entries :=
  match entries.find? name with
  | some (.table isImplicit isDotted inner) =>
      (change inner).map fun inner => entries.put name (.table isImplicit isDotted inner)
  | some (.tables closed last) =>
      (change last).map fun last => entries.put name (.tables closed last)
  | _ => none

end Entries

mutual

/-- The value of an entry. -/
def Entry.toValue : Entry → Value
  | .value value => value
  | .table _ _ members => .table (Entries.toTable members)
  | .tables closed last => .list (Entries.toValues closed ++ [.table (Entries.toTable last)])

/-- The values of named entries. -/
def Entries.toTable : List (String × Entry) → Table
  | [] => []
  | (name, entry) :: rest => (name, entry.toValue) :: Entries.toTable rest

/-- The values of several tables. -/
def Entries.toValues : List (List (String × Entry)) → List Value
  | [] => []
  | members :: rest => .table (Entries.toTable members) :: Entries.toValues rest

end

end QueryImpact.Toml
