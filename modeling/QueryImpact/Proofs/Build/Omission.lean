import Mathlib
import QueryImpact.Build.Draft

/-!
# Reports that are left out

A payload of the right shape is always collected, whatever stands in its lists.  Each finding and
each link is either collected as a fragment of its own or left out, and which of the two does not
depend on the others.  So the notes name exactly the reports that cannot be used, and without these
reports the payload has the same nodes and relationships.
-/

namespace QueryImpact

/-- Nothing is left of a trimmed text exactly when it is blank. -/
theorem Text.trim_eq_empty_iff (text : String) : trim text = "" ↔ isBlank text = true := by
  have split := @List.takeWhile_append_dropWhile _ isSpace text.toList
  rw [trim, ← String.toList_inj, String.toList_ofList, isBlank, List.all_eq_true, trimChars,
    dropEndWhile, String.toList_empty, List.reverse_eq_nil_iff, List.dropWhile_eq_nil_iff]
  constructor
  · intro behind c member
    rw [← split, List.mem_append] at member
    rcases member with before | after
    · exact List.mem_takeWhile_imp before
    · exact behind c (List.mem_reverse.mpr after)
  · intro all c member
    exact all c ((List.dropWhile_sublist _).subset (List.mem_reverse.mp member))

namespace Builder

/-! ## Reports that can be used -/

/-- A value is a finding that can be used: it can be decoded, it keeps the rules, and its location
can be read. -/
def usesFinding (builder : Builder) (value : Json) : Bool :=
  match Finding.decode value with
  | .ok finding => finding.validate.isOk && (builder.parse? finding.sourceLocation).isSome
  | .error _ => false

/-- A value is a link that can be used: it can be decoded, and neither end is blank, if it is a
dependency, and both ends can be read, if it is a call. -/
def usesLink (builder : Builder) (value : Json) : Bool :=
  match Link.decode value with
  | .ok ⟨.dependsOn, source, target⟩ => !Text.isBlank source && !Text.isBlank target
  | .ok ⟨.calls, source, target⟩ =>
      (builder.parse? source).isSome && (builder.parse? target).isSome
  | .error _ => false

end Builder

namespace Draft

variable (builder : Builder)

/-- What becomes of a finding, in any draft and at any place. -/
theorem addFindingJson_cases (value : Json) :
    (builder.usesFinding value = true ∧
        ∃ fragment, ∀ draft index, addFindingJson builder draft index value = draft.add fragment) ∨
      builder.usesFinding value = false ∧
        ∃ location cause, ∀ draft index,
          addFindingJson builder draft index value = draft.skip index location cause := by
  unfold Builder.usesFinding addFindingJson Finding.ofJson
  cases Finding.decode value with
  | error cause => exact .inr ⟨rfl, _, _, fun _ _ => rfl⟩
  | ok finding =>
      dsimp only
      cases validated : finding.validate with
      | error cause => exact .inr ⟨rfl, _, _, fun _ _ => rfl⟩
      | ok _ =>
          simp only [Except.map, addFinding, Fragment.ofFinding, validated]
          cases builder.parse? finding.sourceLocation with
          | none => exact .inr ⟨rfl, _, _, fun _ _ => rfl⟩
          | some location => exact .inl ⟨rfl, _, fun _ _ => rfl⟩

/-- What becomes of a link, in any draft. -/
theorem addLinkJson_cases (value : Json) :
    (builder.usesLink value = true ∧
        ∃ fragment, ∀ draft, addLinkJson builder draft value = draft.add fragment) ∨
      builder.usesLink value = false ∧
        ∀ draft, addLinkJson builder draft value =
          { draft with skippedLinks := draft.skippedLinks + 1 } := by
  unfold Builder.usesLink addLinkJson
  cases Link.decode value with
  | error cause => exact .inr ⟨rfl, fun _ => rfl⟩
  | ok link =>
      obtain ⟨kind, source, target⟩ := link
      cases kind with
      | dependsOn =>
          simp only [addLink, Fragment.ofLink?, Text.trim_eq_empty_iff]
          cases Text.isBlank source with
          | true => exact .inr ⟨rfl, fun _ => rfl⟩
          | false =>
              cases Text.isBlank target with
              | true => exact .inr ⟨rfl, fun _ => rfl⟩
              | false => exact .inl ⟨rfl, _, fun _ => rfl⟩
      | calls =>
          simp only [addLink, Fragment.ofLink?]
          cases builder.parse? source with
          | none => exact .inr ⟨rfl, fun _ => rfl⟩
          | some caller =>
              cases builder.parse? target with
              | none => exact .inr ⟨rfl, fun _ => rfl⟩
              | some callee => exact .inl ⟨rfl, _, fun _ => rfl⟩

/-! ## Lists of reports -/

/-- The draft without its notes. -/
def bare (draft : Draft) : Draft :=
  { draft with skipped := [], skippedLinks := 0 }

/-- Apart from the notes, only the findings that can be used matter, and not their places. -/
theorem addFindingsJson_filter (draft : Draft) (start place : Nat) (values : List Json) :
    addFindingsJson builder draft.bare place (values.filter builder.usesFinding) =
      (addFindingsJson builder draft start values).bare := by
  -- Places move up where findings are deleted, so the two runs count them apart.
  induction values generalizing draft start place with
  | nil => rfl
  | cons value rest ih =>
      rw [addFindingsJson]
      rcases addFindingJson_cases builder value with ⟨uses, fragment, added⟩ |
        ⟨unused, location, cause, skipped⟩
      · rw [List.filter_cons_of_pos uses, addFindingsJson, added, added]
        exact ih (draft.add fragment) (start + 1) (place + 1)
      · rw [List.filter_cons_of_neg (by rw [unused]; exact Bool.false_ne_true), skipped]
        exact ih (draft.skip start location cause) (start + 1) place

/-- The notes name the places of the findings that cannot be used, in order. -/
theorem index_skipped_addFindingsJson (draft : Draft) (start : Nat) (values : List Json) :
    (addFindingsJson builder draft start values).skipped.map SkippedFinding.index =
      draft.skipped.map SkippedFinding.index ++
        values.findIdxs (fun value => !builder.usesFinding value) start := by
  induction values generalizing draft start with
  | nil => simp [addFindingsJson]
  | cons value rest ih =>
      rw [addFindingsJson, ih, List.findIdxs_cons]
      rcases addFindingJson_cases builder value with ⟨uses, fragment, added⟩ |
        ⟨unused, location, cause, skipped⟩
      · simp [uses, added, add]
      · simp [unused, skipped, skip]

theorem skippedLinks_addFindingsJson (draft : Draft) (start : Nat) (values : List Json) :
    (addFindingsJson builder draft start values).skippedLinks = draft.skippedLinks := by
  induction values generalizing draft start with
  | nil => rfl
  | cons value rest ih =>
      rw [addFindingsJson, ih]
      rcases addFindingJson_cases builder value with ⟨_, fragment, added⟩ |
        ⟨_, location, cause, skipped⟩
      · rw [added, add]
      · rw [skipped, skip]

/-- Apart from the notes, only the links that can be used matter. -/
theorem foldl_addLinkJson_filter (draft : Draft) (values : List Json) :
    (values.filter builder.usesLink).foldl (addLinkJson builder) draft.bare =
      (values.foldl (addLinkJson builder) draft).bare := by
  induction values generalizing draft with
  | nil => rfl
  | cons value rest ih =>
      rw [List.foldl_cons]
      rcases addLinkJson_cases builder value with ⟨uses, fragment, added⟩ | ⟨unused, skipped⟩
      · rw [List.filter_cons_of_pos uses, List.foldl_cons, added, added]
        exact ih (draft.add fragment)
      · rw [List.filter_cons_of_neg (by rw [unused]; exact Bool.false_ne_true), skipped]
        exact ih { draft with skippedLinks := draft.skippedLinks + 1 }

theorem skippedLinks_foldl_addLinkJson (draft : Draft) (values : List Json) :
    (values.foldl (addLinkJson builder) draft).skippedLinks =
      draft.skippedLinks + values.countP fun value => !builder.usesLink value := by
  induction values generalizing draft with
  | nil => rfl
  | cons value rest ih =>
      rw [List.foldl_cons, ih, List.countP_cons]
      rcases addLinkJson_cases builder value with ⟨uses, fragment, added⟩ | ⟨unused, skipped⟩
      · simp [uses, added, add]
      · simp [unused, skipped]
        omega

theorem skipped_foldl_addLinkJson (draft : Draft) (values : List Json) :
    (values.foldl (addLinkJson builder) draft).skipped = draft.skipped := by
  induction values generalizing draft with
  | nil => rfl
  | cons value rest ih =>
      rw [List.foldl_cons, ih]
      rcases addLinkJson_cases builder value with ⟨_, fragment, added⟩ | ⟨_, skipped⟩
      · rw [added, add]
      · rw [skipped]

end Draft

namespace Json

/-! ## Payloads -/

/-- A payload of the right shape, with its findings and its links: an array of findings, or an
object with an array of findings and with an array of links or without links. -/
inductive Lists : Json → List Json → List Json → Prop where
  /-- An array of findings. -/
  | bare (findings : List Json) : Lists (.array findings) findings []
  /-- An object without links. -/
  | unlinked {members : List (String × Json)} {findings : List Json}
      (listed : (object members).member? "findings" = some (.array findings))
      (unlinked : (object members).member? "links" = none ∨
        (object members).member? "links" = some .null) :
      Lists (.object members) findings []
  /-- An object with links. -/
  | linked {members : List (String × Json)} {findings links : List Json}
      (listed : (object members).member? "findings" = some (.array findings))
      (linked : (object members).member? "links" = some (.array links)) :
      Lists (.object members) findings links

/-- Delete the items of an array that fail a test. -/
def keepItems (test : Json → Bool) : Json → Json
  | .array items => .array (items.filter test)
  | other => other

/-- Delete the findings and the links of a payload that fail their tests. -/
def keepReports (usesFinding usesLink : Json → Bool) : Json → Json
  | .array findings => .array (findings.filter usesFinding)
  | .object members =>
      .object (members.map fun member =>
        (member.1,
          if member.1 = "findings" then member.2.keepItems usesFinding
          else if member.1 = "links" then member.2.keepItems usesLink
          else member.2))
  | other => other

theorem lookup_map_snd (edit : String → Json → Json) (name : String)
    (members : List (String × Json)) :
    (members.map fun member => (member.1, edit member.1 member.2)).lookup name =
      (members.lookup name).map (edit name) := by
  induction members with
  | nil => rfl
  | cons member rest ih =>
      rw [List.map_cons, List.lookup_cons, List.lookup_cons, ih]
      cases same : name == member.1 with
      | false => rfl
      | true => rw [beq_iff_eq.mp same]; rfl

theorem member?_findings_keepReports (usesFinding usesLink : Json → Bool)
    (members : List (String × Json)) :
    ((object members).keepReports usesFinding usesLink).member? "findings" =
      ((object members).member? "findings").map (keepItems usesFinding) :=
  lookup_map_snd (fun name value => if name = "findings" then value.keepItems usesFinding
    else if name = "links" then value.keepItems usesLink else value) "findings" members

theorem member?_links_keepReports (usesFinding usesLink : Json → Bool)
    (members : List (String × Json)) :
    ((object members).keepReports usesFinding usesLink).member? "links" =
      ((object members).member? "links").map (keepItems usesLink) :=
  lookup_map_snd (fun name value => if name = "findings" then value.keepItems usesFinding
    else if name = "links" then value.keepItems usesLink else value) "links" members

/-- A payload keeps its shape when reports are deleted from it. -/
theorem Lists.keepReports {payload : Json} {findings links : List Json}
    (lists : payload.Lists findings links) (usesFinding usesLink : Json → Bool) :
    (payload.keepReports usesFinding usesLink).Lists (findings.filter usesFinding)
      (links.filter usesLink) := by
  cases lists with
  | bare => exact .bare _
  | @unlinked members _ listed unlinked =>
      apply Lists.unlinked
      · exact (member?_findings_keepReports _ _ members).trans (by rw [listed]; rfl)
      · rcases unlinked with absent | null
        · exact .inl ((member?_links_keepReports _ _ members).trans (by rw [absent]; rfl))
        · exact .inr ((member?_links_keepReports _ _ members).trans (by rw [null]; rfl))
  | @linked members _ _ listed linked =>
      apply Lists.linked
      · exact (member?_findings_keepReports _ _ members).trans (by rw [listed]; rfl)
      · exact (member?_links_keepReports _ _ members).trans (by rw [linked]; rfl)

end Json

namespace Draft

theorem reportsOfPayload_of_lists {payload : Json} {findings links : List Json}
    (lists : payload.Lists findings links) : reportsOfPayload payload = .ok (findings, links) := by
  cases lists with
  | bare => rfl
  | unlinked listed unlinked =>
      rcases unlinked with absent | null
      · simp only [reportsOfPayload, listed, absent, Option.bind_some, Json.items?]
      · simp only [reportsOfPayload, listed, null, Option.bind_some, Json.items?]
  | linked listed linked =>
      simp only [reportsOfPayload, listed, linked, Option.bind_some, Json.items?]

/-- A payload of any other shape is refused as a whole. -/
theorem lists_or_reportsOfPayload_eq_error (payload : Json) :
    (∃ findings links, payload.Lists findings links) ∨
      ∃ fault, reportsOfPayload payload = .error (.payload fault) := by
  unfold reportsOfPayload
  split
  · exact .inl ⟨_, _, .bare _⟩
  · rename_i members
    split
    · exact .inr ⟨_, rfl⟩
    · rename_i findings listed
      obtain ⟨value, member, items⟩ := Option.bind_eq_some_iff.mp listed
      have isArray : value = .array findings := by
        cases value <;> cases items
        rfl
      rw [isArray] at member
      split
      · rename_i absent
        exact .inl ⟨_, _, .unlinked member (.inl absent)⟩
      · rename_i null
        exact .inl ⟨_, _, .unlinked member (.inr null)⟩
      · rename_i links linked
        exact .inl ⟨_, _, .linked member linked⟩
      · exact .inr ⟨_, rfl⟩
  · exact .inr ⟨_, rfl⟩

/-- A payload of the right shape is collected.  The notes name exactly the findings that cannot be
used and count the links that cannot, and without them the payload makes the same draft, without
notes.  Every other payload is refused. -/
theorem ofPayload_keepReports (builder : Builder) (payload : Json) :
    (∀ findings links, payload.Lists findings links →
      ∃ draft, ofPayload builder payload = .ok draft ∧
        draft.skipped.map SkippedFinding.index =
          findings.findIdxs (fun value => !builder.usesFinding value) ∧
        draft.skippedLinks = links.countP (fun value => !builder.usesLink value) ∧
        ofPayload builder (payload.keepReports builder.usesFinding builder.usesLink) =
          .ok { draft with skipped := [], skippedLinks := 0 }) ∧
      ((∀ findings links, ¬payload.Lists findings links) →
        ∃ fault, ofPayload builder payload = .error (.payload fault)) := by
  constructor
  · intro findings links lists
    have collected : ofPayload builder payload =
        .ok (links.foldl (addLinkJson builder) (addFindingsJson builder empty 0 findings)) := by
      rw [ofPayload, reportsOfPayload_of_lists lists]
    have kept : ofPayload builder (payload.keepReports builder.usesFinding builder.usesLink) =
        .ok ((links.filter builder.usesLink).foldl (addLinkJson builder)
          (addFindingsJson builder empty 0 (findings.filter builder.usesFinding))) := by
      rw [ofPayload, reportsOfPayload_of_lists (lists.keepReports _ _)]
    have same := addFindingsJson_filter builder empty 0 0 findings
    exact ⟨_, collected,
      by rw [skipped_foldl_addLinkJson, index_skipped_addFindingsJson]; rfl,
      by rw [skippedLinks_foldl_addLinkJson, skippedLinks_addFindingsJson, empty, Nat.zero_add],
      kept.trans (congrArg _ (same ▸ foldl_addLinkJson_filter builder _ links))⟩
  · intro unlisted
    rcases lists_or_reportsOfPayload_eq_error payload with
      ⟨findings, links, lists⟩ | ⟨fault, refused⟩
    · exact absurd lists (unlisted findings links)
    · exact ⟨fault, by rw [ofPayload, refused]⟩

/-- Findings of which only the second can be used: the others are no record, lie at an unreadable
location, and have a blank query. -/
def spoiledFindings : List Json :=
  [.null,
    .object [("query_text", .string "SELECT * FROM users"), ("severity", .string "low"),
      ("source_location", .string "UserDao#find:10")],
    .object [("query_text", .string "SELECT 1"), ("severity", .string "low"),
      ("source_location", .string "nowhere")],
    .object [("query_text", .string " "), ("severity", .string "low"),
      ("source_location", .string "UserDao#load:20")]]

/-- Links of which only the third can be used: the others have an unreadable callee, a blank end,
and no known kind. -/
def spoiledLinks : List Json :=
  [.object [("from", .string "Main#start"), ("kind", .string "calls"), ("to", .string "nowhere")],
    .object [("from", .string "A.java"), ("kind", .string "depends_on"), ("to", .string " ")],
    .object [("from", .string "A.java"), ("kind", .string "depends_on"),
      ("to", .string "B.java")],
    .object [("from", .string "A.java"), ("kind", .string "uses"), ("to", .string "B.java")]]

/-- The spoiled reports in one payload, with a member that does not matter. -/
def spoiledPayload : Json :=
  .object [("findings", .array spoiledFindings), ("links", .array spoiledLinks),
    ("tool", .string "scan")]

theorem ofPayload_keepReports_spoiled :
    spoiledPayload.Lists spoiledFindings spoiledLinks ∧
      (∃ draft, ofPayload .java spoiledPayload = .ok draft ∧
        draft.skipped.map SkippedFinding.index = [0, 2, 3] ∧ draft.skippedLinks = 3 ∧
        ofPayload .java (spoiledPayload.keepReports Builder.java.usesFinding
          Builder.java.usesLink) = .ok { draft with skipped := [], skippedLinks := 0 }) ∧
      (∀ findings links, ¬(Json.object [("findings", .null)]).Lists findings links) ∧
      ∃ fault, ofPayload .java (.object [("findings", .null)]) = .error (.payload fault) := by
  have lists : spoiledPayload.Lists spoiledFindings spoiledLinks := .linked rfl rfl
  have unlisted : ∀ findings links,
      ¬(Json.object [("findings", .null)]).Lists findings links := by
    intro findings links listed
    cases listed with
    | unlinked listed _ => cases listed
    | linked listed _ => cases listed
  obtain ⟨draft, collected, skipped, skippedLinks, kept⟩ :=
    (ofPayload_keepReports .java spoiledPayload).1 _ _ lists
  exact ⟨lists,
    ⟨draft, collected, skipped.trans (by decide +kernel), skippedLinks.trans (by decide +kernel),
      kept⟩,
    unlisted, (ofPayload_keepReports .java _).2 unlisted⟩

end Draft

end QueryImpact
