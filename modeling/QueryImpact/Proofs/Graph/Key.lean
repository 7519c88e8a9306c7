import Mathlib
import QueryImpact.Graph.Node
import QueryImpact.Proofs.Build.Fragment
import QueryImpact.Proofs.Location

/-!
# Keys can be read back

The key of a node is made from the parts of a plain location, and these can be read back from it.
So nodes of different kinds have different keys, and the key of a class, a method or a query tells
the place it lies at.
-/

namespace QueryImpact

open QueryImpact.Text

/-- What a key is made from. -/
inductive KeyParts where
  /-- The path of a file. -/
  | file (path : List Char)
  /-- A class in a file. -/
  | classDef (path className : List Char)
  /-- A method of a class. -/
  | method (path className signature : List Char)
  /-- A query: the signature and the line of its method, and the digest of its text. -/
  | query (path className signature line digest : List Char)
  /-- An issue of a query. -/
  | issue (path className signature line digest kind : List Char)
  /-- An entity of a store. -/
  | entity (store name : List Char)

namespace KeyParts

/-- Cut signature and line apart. -/
def readLine (place : List Char) : List Char × List Char :=
  (cutLast '@' place).getD (place, [])

/-- Read what follows a line in a key. -/
def readText (path className signature line rest : List Char) : KeyParts :=
  match cutFirst '!' rest with
  | none => .query path className signature line rest
  | some (digest, kind) => .issue path className signature line digest kind

/-- Read what follows a class in a key. -/
def readMember (path className member : List Char) : KeyParts :=
  match cutFirst '#' member with
  | none => .method path className member
  | some (place, rest) =>
      readText path className (readLine place).1 (readLine place).2 rest

/-- Read what follows a file in a key. -/
def readClass (path rest : List Char) : KeyParts :=
  match cutFirst ':' rest with
  | some (className, ':' :: member) => readMember path className member
  | _ => .classDef path rest

/-- Read a key. -/
def read (key : List Char) : KeyParts :=
  match cutFirst ':' key with
  | none => .file key
  | some (path, ':' :: rest) => readClass path rest
  | some (store, name) => .entity store name

/-- The kind of the node with a key. -/
def kind : KeyParts → NodeKind
  | file _ => .file
  | classDef _ _ => .classDef
  | method _ _ _ => .method
  | query _ _ _ _ _ => .query
  | issue _ _ _ _ _ _ => .issue
  | entity _ _ => .entity

end KeyParts

/-! ## The parts of keys -/

theorem Digest.not_mem_textIdentifier (text : String) {mark : Char}
    (notDigit : ∀ value, Nat.digitChar value ≠ mark) : mark ∉ (textIdentifier text).toList := by
  rw [textIdentifier, String.toList_ofList]
  intro member
  obtain ⟨byte, _, inByte⟩ := List.mem_flatMap.mp member
  rcases List.mem_cons.mp inByte with high | low
  · exact notDigit _ high.symm
  · exact notDigit _ (List.mem_singleton.mp low).symm

/-- The digits of a line. -/
def lineDigits (line : UInt32) : List Char :=
  Nat.toDigits 10 line.toNat

theorem lineDigits_injective {first second : UInt32} (same : lineDigits first = lineDigits second) :
    first = second := by
  have values := congrArg (Nat.ofDigitChars 10 · 0) same
  simp only [lineDigits, Nat.ofDigitChars_toDigits (by decide : 1 < 10) (by decide)] at values
  exact UInt32.toNat_inj.mp values

theorem not_mem_lineDigits (line : UInt32) {mark : Char} (notDigit : mark.isDigit = false) :
    mark ∉ lineDigits line := by
  intro member
  have digit := Nat.isDigit_of_mem_toDigits (by decide) (by decide) member
  rw [notDigit] at digit
  contradiction

namespace Query

theorem mem_foldl_addNew {α : Type} [DecidableEq α] {items known : List α} {item : α} :
    item ∈ items.foldl addNew known ↔ item ∈ known ∨ item ∈ items := by
  induction items generalizing known with
  | nil => simp
  | cons first rest ih =>
      have added : item ∈ addNew known first ↔ item ∈ known ∨ item = first := by
        unfold addNew
        split
        · rename_i repeated
          constructor
          · exact Or.inl
          · rintro (before | rfl)
            · exact before
            · exact repeated
        · simp
      rw [List.foldl_cons, ih, added, List.mem_cons, or_assoc]

/-- The name of an entity does not start with a colon. -/
theorem head?_ne_colon_of_mem_entities {text name : String} (member : name ∈ entities text) :
    name.toList.head? ≠ some ':' := by
  rcases mem_foldl_addNew.mp member with none | cleaned
  · exact absurd none List.not_mem_nil
  · obtain ⟨reference, _, clean⟩ := List.mem_filterMap.mp cleaned
    unfold cleanReference? at clean
    split at clean
    · contradiction
    · rename_i first rest _
      dsimp only at clean
      split at clean
      · rename_i accepted
        obtain rfl := Option.some.inj clean
        rw [String.toList_ofList, List.head?_cons]
        intro same
        have notLetter : (isAlphabetic ':' || ':' == '_') = false := by decide +kernel
        rw [Option.some.inj same, notLetter, Bool.false_and] at accepted
        contradiction
      · contradiction

end Query

namespace KeyParts

/-! ## Reading keys -/

theorem read_append_colons {path : List Char} (free : ':' ∉ path) (rest : List Char) :
    read (path ++ ':' :: ':' :: rest) = readClass path rest := by
  rw [read, cutFirst_append_cons free]
  rfl

theorem readClass_append_colons {className : List Char} (free : ':' ∉ className)
    (path member : List Char) :
    readClass path (className ++ ':' :: ':' :: member) = readMember path className member := by
  rw [readClass, cutFirst_append_cons free]
  rfl

theorem readLine_append (signature : List Char) (line : UInt32) :
    readLine (signature ++ '@' :: lineDigits line) = (signature, lineDigits line) := by
  rw [readLine, cutLast_append_cons (not_mem_lineDigits line (by decide)), Option.getD_some]

/-- The characters between a class and a digest in the key of a query. -/
theorem number_not_mem_place {signature : List Char} (free : '#' ∉ signature) (line : UInt32) :
    '#' ∉ signature ++ '@' :: lineDigits line := by
  have notInLine := not_mem_lineDigits line (by decide : '#'.isDigit = false)
  simp [free, notInLine]

theorem toList_methodKey (location : SourceLocation) : location.methodNode.key.toList =
    location.filePath.toList ++ ':' :: ':' :: (location.className.toList ++
      ':' :: ':' :: location.signature.toList) := by
  simp [SourceLocation.methodNode, MethodNode.ofSignature, SourceLocation.classNode,
    ClassNode.ofName]

theorem toList_queryKey (location : SourceLocation) (finding : Finding) :
    (Fragment.queryOf location finding).key.toList =
      location.methodNode.key.toList ++ '@' :: (lineDigits location.line ++
        '#' :: (Digest.textIdentifier (trim finding.queryText)).toList) := by
  simp [Fragment.queryOf, Fragment.queryNode, QueryNode.ofText, QueryNode.keyOf, lineDigits]

theorem toList_issueKey (location : SourceLocation) (finding : Finding) (issue : FindingIssue) :
    (Fragment.issueNode location finding issue).key.toList =
      (Fragment.queryOf location finding).key.toList ++ '!' :: issue.kind.toList := by
  simp [Fragment.issueNode, IssueNode.ofKind]

/-- The key of a query ends with the digest of its text. -/
theorem cutLast_queryKey (location : SourceLocation) (finding : Finding) :
    cutLast '#' (Fragment.queryOf location finding).key.toList =
      some (location.methodNode.key.toList ++ '@' :: lineDigits location.line,
        (Digest.textIdentifier (trim finding.queryText)).toList) := by
  have free : '#' ∉ (Digest.textIdentifier (trim finding.queryText)).toList :=
    Digest.not_mem_textIdentifier _ fun _ => Nat.digitChar_ne '#' rfl
  rw [toList_queryKey, ← List.cons_append, ← List.append_assoc, cutLast_append_cons free]

/-- A key without a colon is that of a file. -/
theorem read_of_not_mem {key : List Char} (free : ':' ∉ key) : read key = .file key := by
  rw [read, cutFirst_eq_none_iff.mpr free]

section Place

variable {location : SourceLocation} (plain : location.IsPlain)

include plain

theorem read_file : read location.filePath.toList = .file location.filePath.toList :=
  read_of_not_mem plain.filePath

theorem read_class : read location.classNode.key.toList =
    .classDef location.filePath.toList location.className.toList := by
  have chars : location.classNode.key.toList =
      location.filePath.toList ++ ':' :: ':' :: location.className.toList := by
    simp [SourceLocation.classNode, ClassNode.ofName]
  rw [chars, read_append_colons plain.filePath, readClass,
    cutFirst_eq_none_iff.mpr plain.className]

/-- What follows the class in a key that goes on from a method. -/
theorem read_methodKey_append (rest : List Char) :
    read (location.methodNode.key.toList ++ rest) =
      readMember location.filePath.toList location.className.toList
        (location.signature.toList ++ rest) := by
  rw [toList_methodKey, List.append_assoc, List.cons_append, List.cons_append,
    read_append_colons plain.filePath, List.append_assoc, List.cons_append, List.cons_append,
    readClass_append_colons plain.className]

theorem read_method : read location.methodNode.key.toList =
    .method location.filePath.toList location.className.toList location.signature.toList := by
  have whole := read_methodKey_append plain []
  rwa [List.append_nil, List.append_nil, readMember, cutFirst_eq_none_iff.mpr plain.unnumbered]
    at whole

/-- What follows the line in a key that goes on from a query. -/
theorem read_queryKey_append (finding : Finding) (rest : List Char) :
    read ((Fragment.queryOf location finding).key.toList ++ rest) =
      readText location.filePath.toList location.className.toList location.signature.toList
        (lineDigits location.line)
        ((Digest.textIdentifier (trim finding.queryText)).toList ++ rest) := by
  have chars : location.signature.toList ++ '@' :: (lineDigits location.line ++
      '#' :: (Digest.textIdentifier (trim finding.queryText)).toList) ++ rest =
      location.signature.toList ++ '@' :: lineDigits location.line ++
        '#' :: ((Digest.textIdentifier (trim finding.queryText)).toList ++ rest) := by
    simp
  rw [toList_queryKey, List.append_assoc, read_methodKey_append plain, ← List.append_assoc, chars,
    readMember, cutFirst_append_cons (number_not_mem_place plain.unnumbered location.line)]
  dsimp only
  rw [readLine_append]

omit plain in
theorem mark_not_mem_digest (text : String) : '!' ∉ (Digest.textIdentifier text).toList :=
  Digest.not_mem_textIdentifier text fun _ => Nat.digitChar_ne '!' rfl

theorem read_query (finding : Finding) :
    read (Fragment.queryOf location finding).key.toList =
      .query location.filePath.toList location.className.toList location.signature.toList
        (lineDigits location.line) (Digest.textIdentifier (trim finding.queryText)).toList := by
  have whole := read_queryKey_append plain finding []
  rwa [List.append_nil, List.append_nil, readText,
    cutFirst_eq_none_iff.mpr (mark_not_mem_digest _)] at whole

theorem read_issue (finding : Finding) (issue : FindingIssue) :
    read (Fragment.issueNode location finding issue).key.toList =
      .issue location.filePath.toList location.className.toList location.signature.toList
        (lineDigits location.line) (Digest.textIdentifier (trim finding.queryText)).toList
        issue.kind.toList := by
  rw [toList_issueKey, read_queryKey_append plain, readText,
    cutFirst_append_cons (mark_not_mem_digest _)]

end Place

theorem read_entity {name : String} (noColon : name.toList.head? ≠ some ':')
    (storeKind : StoreKind) :
    read (EntityNode.ofName name storeKind).key.toList =
      .entity storeKind.name.toList name.toList := by
  have chars : (EntityNode.ofName name storeKind).key.toList =
      storeKind.name.toList ++ ':' :: name.toList := by
    simp [EntityNode.ofName]
  have free : ':' ∉ storeKind.name.toList := by
    cases storeKind with
    | table => decide
    | collection => decide
  rw [chars, read, cutFirst_append_cons free]
  cases whole : name.toList with
  | nil => rfl
  | cons first rest =>
      have different : first ≠ ':' := by
        rintro rfl
        exact noColon (by rw [whole, List.head?_cons])
      split
      · contradiction
      · rename_i same
        exact absurd (List.cons.inj (Prod.mk.inj (Option.some.inj same)).2).1 different
      · rename_i same
        obtain ⟨rfl, rfl⟩ := Prod.mk.inj (Option.some.inj same)
        rfl

end KeyParts

/-! ## What keys tell -/

/-- The keys of the member at a plain location tell the kinds of its nodes. -/
theorem SourceLocation.kind_of_mem_fragment {location : SourceLocation} (plain : location.IsPlain)
    {isTarget : Bool} {node : Node} (member : node ∈ (location.fragment isTarget).nodes) :
    (KeyParts.read node.key.toList).kind = node.kind := by
  simp only [fragment, List.mem_cons, List.not_mem_nil, or_false] at member
  rcases member with rfl | rfl | rfl
  · exact congrArg KeyParts.kind (KeyParts.read_file plain)
  · exact congrArg KeyParts.kind (KeyParts.read_class plain)
  · exact congrArg KeyParts.kind (KeyParts.read_method plain)

/-- The key of a node that a finding at a plain location mentions tells its kind. -/
theorem Fragment.kind_of_mem_nodes {storeKind : StoreKind} {location : SourceLocation}
    (plain : location.IsPlain) {finding : Finding} {node : Node}
    (member : node ∈ (ofLocatedFinding storeKind location finding).nodes) :
    (KeyParts.read node.key.toList).kind = node.kind := by
  rcases mem_nodes_ofLocatedFinding.mp member with
    rfl | rfl | rfl | rfl | ⟨issue, _, rfl⟩ | ⟨name, named, rfl⟩
  · exact congrArg KeyParts.kind (KeyParts.read_file plain)
  · exact congrArg KeyParts.kind (KeyParts.read_class plain)
  · exact congrArg KeyParts.kind (KeyParts.read_method plain)
  · exact congrArg KeyParts.kind (KeyParts.read_query plain finding)
  · exact congrArg KeyParts.kind (KeyParts.read_issue plain finding issue)
  · have noColon := Query.head?_ne_colon_of_mem_entities named
    exact congrArg KeyParts.kind (KeyParts.read_entity noColon storeKind)

section Inverse

variable {first second : SourceLocation} (firstPlain : first.IsPlain)
  (secondPlain : second.IsPlain)

include firstPlain secondPlain

/-- The key of a class tells its file and its name. -/
theorem SourceLocation.classKey_inj (same : first.classNode.key = second.classNode.key) :
    first.filePath = second.filePath ∧ first.className = second.className := by
  have parts := congrArg (fun key => KeyParts.read key.toList) same
  simpa [KeyParts.read_class firstPlain, KeyParts.read_class secondPlain,
    String.toList_inj] using parts

/-- The key of a method tells its class and its signature. -/
theorem SourceLocation.methodKey_inj (same : first.methodNode.key = second.methodNode.key) :
    first.filePath = second.filePath ∧ first.className = second.className ∧
      first.signature = second.signature := by
  have parts := congrArg (fun key => KeyParts.read key.toList) same
  simpa [KeyParts.read_method firstPlain, KeyParts.read_method secondPlain,
    String.toList_inj] using parts

/-- The key of a query tells its method, its line and the digest of its text. -/
theorem Fragment.queryKey_inj {finding other : Finding}
    (same : (queryOf first finding).key = (queryOf second other).key) :
    (first.filePath = second.filePath ∧ first.className = second.className ∧
      first.signature = second.signature) ∧ first.line = second.line ∧
      Digest.textIdentifier (trim finding.queryText) =
        Digest.textIdentifier (trim other.queryText) := by
  have parts := congrArg (fun key => KeyParts.read key.toList) same
  simp only [KeyParts.read_query firstPlain, KeyParts.read_query secondPlain,
    KeyParts.query.injEq, String.toList_inj] at parts
  obtain ⟨files, classes, signatures, lines, digests⟩ := parts
  exact ⟨⟨files, classes, signatures⟩, lineDigits_injective lines, digests⟩

end Inverse

end QueryImpact
