import Mathlib.Data.List.Nodup
import PagedForm.Example
import PagedForm.Proofs.Diagram.Statement
import PagedForm.Proofs.Form.Usable
import Std.Data.String.ToNat

/-!
# What a diagram shows

The lines of a diagram are read back with a reader that knows nothing about forms. `Diagram.Shows`
says what has to be found in them: the header, then the statements about the pages, the missing
targets, the beginning and the edges, each in order and with its label, every node under an
identifier of its own, and every edge between nodes that are there. `Diagram.render_shows` is that
the diagram of a form whose attributes are texts shows the form, whatever characters they hold.
-/

namespace PagedForm

/-- Texts in order without repetition are each below those after them. -/
theorem pairwise_sortedTexts (texts : List String) : (sortedTexts texts).Pairwise (· < ·) := by
  have hnodup (texts : List String) : texts.eraseDups.Nodup := by
    induction hlength : texts.length using Nat.strong_induction_on generalizing texts with
    | _ length ih =>
        cases texts with
        | nil => exact List.nodup_nil
        | cons text rest =>
            have hshorter : (rest.filter fun other => !other == text).length < length := by
              have := List.length_filter_le (fun other => !other == text) rest
              rw [← hlength, List.length_cons]
              omega
            rw [List.eraseDups_cons, List.nodup_cons]
            exact ⟨by simp [List.mem_eraseDups], ih _ hshorter _ rfl⟩
  have hordered : (sortedTexts texts).Pairwise fun a b => (!decide (b < a)) = true := by
    refine List.pairwise_mergeSort ?_ ?_ _
    · simp only [Bool.not_eq_true', decide_eq_false_iff_not, String.not_lt]
      exact fun a b c => String.le_trans
    · intro a b
      simp only [Bool.or_eq_true, Bool.not_eq_true', decide_eq_false_iff_not, String.not_lt]
      exact String.le_total a b
  have hdistinct : (sortedTexts texts).Nodup :=
    (List.mergeSort_perm _ _).nodup_iff.2 (hnodup texts)
  refine (hordered.and hdistinct).imp fun {a b} h => ?_
  obtain ⟨hle, hne⟩ := h
  simp only [Bool.not_eq_true', decide_eq_false_iff_not, String.not_lt] at hle
  exact Std.lt_of_le_of_ne hle hne

namespace Diagram

/-! ## The statements of a diagram -/

/-- What a page is called: its name, or its id when it has none. -/
def caption (page : Page) : String :=
  (page.name.orElse page.id).text?.getD ""

/-- The label of a page as it is meant to be read. -/
def pageText (mode : DiagramMode) (page : Page) : String :=
  match mode with
  | .simple => caption page
  | .detailed => caption page ++ "\n(" ++ "\n".intercalate (pageInfo page) ++ ")"

/-- The statement about a page. -/
def pageStatement (mode : DiagramMode) (entry : Page × Nat) : Statement :=
  ⟨nodeId entry.2, none, [("label", .quoted (pageText mode entry.1))]⟩

/-- The statement about a missing target. -/
def missingStatement (entry : String × Nat) : Statement :=
  ⟨missingId entry.2, none, [("shape", .word "octagon"), ("fillcolor", .word "salmon"),
    ("label", .quoted ("Missing: " ++ entry.1))]⟩

/-- The statement about the beginning: it leads to the first page, if there is one. -/
def startStatements (form : Form) : List Statement :=
  if form.pages = [] then [] else [⟨"START", some (nodeId 0), []⟩]

/-- What is said of an edge: in the detailed mode its label, cut when it is long, and that it is
dashed when its target names no page. -/
def edgeEntries (mode : DiagramMode) (edge : Edge) : List (String × AttributeValue) :=
  (if mode = .detailed ∧ edge.label ≠ "" then [("label", .quoted (shorten edge.label))] else []) ++
  (if edge.isDangling then [("style", .word "dashed"), ("color", .word "red")] else [])

/-- The statement about an edge. -/
def edgeStatement (mode : DiagramMode) (missing : List String) (edge : Edge) : Statement :=
  ⟨nodeId edge.source, some (edgeEnd missing edge), edgeEntries mode edge⟩

/-- The statements between the header and the closing brace. -/
def statements (form : Form) (mode : DiagramMode) (missing : List String) : List Statement :=
  form.pages.zipIdx.map (pageStatement mode) ++ missing.zipIdx.map missingStatement ++
    startStatements form ++ form.edges.map (edgeStatement mode missing)

/-- The word for all nodes, which begins the statement of their common attributes. -/
def everyNode : String := "node"

/-- The node that a statement declares; one about an edge or about all nodes declares none. -/
def Statement.node? (statement : Statement) : Option String :=
  if statement.target = none ∧ statement.source ≠ everyNode then some statement.source else none

/-- The nodes that lines declare. -/
def nodes (lines : List String) : List String :=
  (lines.filterMap Statement.read?).filterMap Statement.node?

/-- What the lines of a diagram say of a form. -/
structure Shows (form : Form) (mode : DiagramMode) (missing lines : List String) : Prop where
  /-- The missing targets stand in order, each once. -/
  sorted : missing.Pairwise (· < ·)
  /-- The missing targets are those of the edges that find no page. -/
  mem_missing : ∀ target, target ∈ missing ↔
    ∃ edge ∈ form.edges, edge.isDangling = true ∧ edge.target = .text target
  /-- Between the header and the brace there is a line for each statement. -/
  laidOut : ∃ body, lines = header ++ body ++ ["\x7d"] ∧
    body.map Statement.read? = (statements form mode missing).map some
  /-- No two nodes have the same identifier. -/
  nodup : (nodes lines).Nodup
  /-- The ends of an edge are nodes. -/
  declared : ∀ statement ∈ lines.filterMap Statement.read?, ∀ target ∈ statement.target,
    statement.source ∈ nodes lines ∧ target ∈ nodes lines
  /-- An edge is drawn to a page when it leads to that page. -/
  toPage : ∀ edge ∈ form.edges, ∀ place,
    edgeEnd missing edge = nodeId place ↔ edge.destination = some place
  /-- An edge is drawn to a missing target when that is its target. -/
  toMissing : ∀ edge ∈ form.edges, ∀ index target, missing[index]? = some target →
    (edgeEnd missing edge = missingId index ↔
      edge.isDangling = true ∧ edge.target = .text target)
  /-- An edge is drawn to the end when it leads to no page and its target is not missing. -/
  toEnd : ∀ edge ∈ form.edges,
    edgeEnd missing edge = "END" ↔ edge.destination = none ∧ edge.isDangling = false

variable {form : Form} {mode : DiagramMode} {missing : List String}

/-! ## Identifiers -/

/-- Digits behind a word are a word. -/
theorem isWord_append_toString {s : String} (h : IsWord s) (n : Nat) :
    IsWord (s ++ toString n) := by
  have hdigits : (toString n).toList = Nat.toDigits 10 n := Nat.toList_repr
  refine ⟨by simp [h.1], fun c hc => ?_⟩
  rw [String.toList_append, List.mem_append, hdigits] at hc
  rcases hc with hc | hc
  · exact h.2 c hc
  · have hdigit : c.isDigit = true := Nat.isDigit_of_mem_toDigits (by decide) (by decide) hc
    simp [isWordChar, Char.isAlphanum, hdigit]

/-- The identifier of a page is a word. -/
theorem isWord_nodeId (index : Nat) : IsWord (nodeId index) :=
  isWord_append_toString (by decide) index

/-- The identifier of a missing target is a word. -/
theorem isWord_missingId (index : Nat) : IsWord (missingId index) :=
  isWord_append_toString (by decide) index

/-- Pages at different places have different identifiers. -/
theorem nodeId_injective : Function.Injective nodeId :=
  fun _ _ h => Nat.repr_injective ((String.append_right_inj _).1 h)

/-- Missing targets at different places have different identifiers. -/
theorem missingId_injective : Function.Injective missingId :=
  fun _ _ h => Nat.repr_injective ((String.append_right_inj _).1 h)

/-- The identifier of a page begins with its letter. -/
theorem head?_nodeId (index : Nat) : (nodeId index).toList.head? = some 's' := by
  simp [nodeId]

/-- The identifier of a missing target begins with another letter. -/
theorem head?_missingId (index : Nat) : (missingId index).toList.head? = some 'm' := by
  simp [missingId]

/-- A page has the identifier of nothing that begins with another letter. -/
theorem nodeId_ne {s : String} (h : s.toList.head? ≠ some 's') (index : Nat) :
    nodeId index ≠ s := by
  rintro rfl
  exact h (head?_nodeId index)

/-- A missing target has the identifier of nothing that begins with another letter. -/
theorem missingId_ne {s : String} (h : s.toList.head? ≠ some 'm') (index : Nat) :
    missingId index ≠ s := by
  rintro rfl
  exact h (head?_missingId index)

/-- A page and a missing target have different identifiers. -/
theorem nodeId_ne_missingId (first second : Nat) : nodeId first ≠ missingId second :=
  nodeId_ne (by rw [head?_missingId]; decide) first

/-- No page has the identifier of the end. -/
theorem nodeId_ne_end (index : Nat) : nodeId index ≠ "END" :=
  nodeId_ne (by decide) index

/-- No missing target has the identifier of the end. -/
theorem missingId_ne_end (index : Nat) : missingId index ≠ "END" :=
  missingId_ne (by decide) index

/-! ## Lines are written statements -/

/-- The label of a page is its text between quotes. -/
theorem pageLabel_eq {page : Page} (hname : ∃ s, page.name = .text s)
    (hid : ∃ s, page.id = .text s) : pageLabel mode page = .ok (quote (pageText mode page)) := by
  obtain ⟨label, hlabel⟩ : ∃ s, page.name.orElse page.id = .text s := by
    unfold Value.orElse
    split
    · exact hname
    · exact hid
  have hcaption : caption page = label := by rw [caption, hlabel]; rfl
  unfold pageLabel pageText
  rw [hlabel, hcaption]
  cases mode with
  | detailed => rfl
  | simple =>
      dsimp only
      unfold quoteValue
      split
      · rfl
      · next hempty =>
          have hlabel : label = "" := by simpa using hempty
          rw [hlabel]

/-- The line of a page is its statement. -/
theorem pageLine_eq {entry : Page × Nat} (hname : ∃ s, entry.1.name = .text s)
    (hid : ∃ s, entry.1.id = .text s) :
    pageLine mode entry = .ok (pageStatement mode entry).write := by
  rw [pageLine, pageLabel_eq hname hid]
  refine congrArg Except.ok (String.toList_inj.1 ?_)
  simp [pageStatement, Statement.write, Statement.writeEnding, writeAttribute,
    AttributeValue.write]

/-- The line of a missing target is its statement. -/
theorem missingLine_eq (entry : String × Nat) :
    missingLine entry = (missingStatement entry).write := by
  refine String.toList_inj.1 ?_
  simp [missingLine, missingStatement, Statement.write, Statement.writeEnding, writeAttribute,
    AttributeValue.write, String.intercalate_cons_cons]

/-- The line of the beginning is its statement. -/
theorem startLines_eq (form : Form) :
    startLines form = (startStatements form).map Statement.write := by
  unfold startLines startStatements
  cases form.pages with
  | nil => rfl
  | cons page rest => rfl

/-- The attributes of an edge are what is said of it. -/
theorem intercalate_edgeAttributes (edge : Edge) :
    ", ".intercalate (edgeAttributes mode edge) =
      ", ".intercalate ((edgeEntries mode edge).map writeAttribute) := by
  refine String.toList_inj.1 ?_
  unfold edgeAttributes edgeEntries
  split <;> split <;>
    simp [writeAttribute, AttributeValue.write, String.intercalate_cons_cons]

/-- The line of an edge is its statement. -/
theorem edgeLine_eq (edge : Edge) :
    edgeLine mode missing edge = (edgeStatement mode missing edge).write := by
  have hempty : (edgeAttributes mode edge).isEmpty = (edgeEntries mode edge).isEmpty := by
    unfold edgeAttributes edgeEntries
    split <;> split <;> rfl
  refine String.toList_inj.1 ?_
  simp only [edgeLine, edgeStatement, Statement.write, Statement.writeEnding, hempty,
    intercalate_edgeAttributes]
  simp

/-! ## Missing targets -/

/-- The missing targets, taken apart: they are those of the edges that find no page, in order and
each once. -/
theorem missingTargets_eq_ok {edges : List Edge} (h : missingTargets edges = .ok missing) :
    missing.Pairwise (· < ·) ∧ ∀ target, target ∈ missing ↔
      ∃ edge ∈ edges, edge.isDangling = true ∧ edge.target = .text target := by
  unfold missingTargets at h
  split at h
  · next texts htexts =>
      cases h
      have hmap : (edges.filter Edge.isDangling).mapM (fun edge => edge.target.text?) =
          ((edges.filter Edge.isDangling).map Edge.target).mapM Value.text? := by
        rw [List.mapM_map]
        rfl
      rw [hmap, mapM_eq_some_iff Value.text?_eq_some] at htexts
      have hmem (target : String) : target ∈ texts ↔ Value.text target ∈ texts.map .text := by
        simp
      refine ⟨pairwise_sortedTexts texts, fun target => ?_⟩
      rw [mem_sortedTexts, hmem, htexts]
      simp [and_assoc]
  · cases h

/-- An edge with a destination leads there. -/
theorem edgeEnd_of_destination {edge : Edge} {place : Nat} (h : edge.destination = some place) :
    edgeEnd missing edge = nodeId place := by
  rw [edgeEnd, h]

/-- An edge that finds no page leads to its target among the missing ones. -/
theorem edgeEnd_of_dangling {edge : Edge} {target : String} (hdangling : edge.isDangling = true)
    (htarget : edge.target = .text target) :
    edgeEnd missing edge = missingId (missing.idxOf target) := by
  have hnone : edge.destination = none := by
    simp only [Edge.isDangling, Bool.and_eq_true, Option.isNone_iff_eq_none] at hdangling
    exact hdangling.1
  rw [edgeEnd, hnone]
  simp [hdangling, htarget]

/-- Every other edge leads to the end. -/
theorem edgeEnd_of_ending {edge : Edge} (hnone : edge.destination = none)
    (hword : edge.isDangling = false) : edgeEnd missing edge = "END" := by
  rw [edgeEnd, hnone]
  simp [hword]

/-- An edge leads to a page, finds none or ends the form. -/
theorem edge_cases (edge : Edge) :
    (∃ place, edge.destination = some place ∧ edge.isDangling = false) ∨
      (edge.destination = none ∧ edge.isDangling = true) ∨
      (edge.destination = none ∧ edge.isDangling = false) := by
  unfold Edge.isDangling
  cases edge.destination <;> cases Target.isWord edge.target <;> simp

/-- An edge is drawn to a page when it leads to that page. -/
theorem edgeEnd_eq_nodeId_iff {edge : Edge}
    (htarget : edge.isDangling = true → ∃ s, edge.target = .text s) {place : Nat} :
    edgeEnd missing edge = nodeId place ↔ edge.destination = some place := by
  rcases edge_cases edge with ⟨other, hplace, _⟩ | ⟨hnone, hdangling⟩ | ⟨hnone, hword⟩
  · rw [edgeEnd_of_destination hplace, nodeId_injective.eq_iff, hplace, Option.some.injEq]
  · obtain ⟨s, hs⟩ := htarget hdangling
    rw [edgeEnd_of_dangling hdangling hs, hnone]
    simp [(nodeId_ne_missingId _ _).symm]
  · rw [edgeEnd_of_ending hnone hword, hnone]
    simp [(nodeId_ne_end _).symm]

/-- An edge is drawn to a missing target when that is its target. -/
theorem edgeEnd_eq_missingId_iff {edge : Edge} (hnodup : missing.Nodup)
    (htarget : edge.isDangling = true → ∃ s, edge.target = .text s ∧ s ∈ missing) {index : Nat}
    {target : String} (hindex : missing[index]? = some target) :
    edgeEnd missing edge = missingId index ↔
      edge.isDangling = true ∧ edge.target = .text target := by
  rcases edge_cases edge with ⟨place, hplace, hfound⟩ | ⟨hnone, hdangling⟩ | ⟨hnone, hword⟩
  · rw [edgeEnd_of_destination hplace]
    simp [nodeId_ne_missingId, hfound]
  · obtain ⟨s, hs, hmem⟩ := htarget hdangling
    rw [edgeEnd_of_dangling hdangling hs, missingId_injective.eq_iff, hs]
    have hplace : missing[missing.idxOf s]? = some s := List.getElem?_idxOf hmem
    simp only [hdangling, true_and, Value.atom.injEq, Atom.text.injEq]
    constructor
    · rintro rfl
      exact Option.some.inj (hplace.symm.trans hindex)
    · rintro rfl
      obtain ⟨hlt, hget⟩ := List.getElem?_eq_some_iff.1 hindex
      rw [← hget]
      exact hnodup.idxOf_getElem index hlt
  · rw [edgeEnd_of_ending hnone hword]
    simp [(missingId_ne_end _).symm, hword]

/-- An edge is drawn to the end when it leads to no page and its target is not missing. -/
theorem edgeEnd_eq_end_iff {edge : Edge}
    (htarget : edge.isDangling = true → ∃ s, edge.target = .text s) :
    edgeEnd missing edge = "END" ↔ edge.destination = none ∧ edge.isDangling = false := by
  rcases edge_cases edge with ⟨place, hplace, _⟩ | ⟨hnone, hdangling⟩ | ⟨hnone, hword⟩
  · rw [edgeEnd_of_destination hplace]
    simp [nodeId_ne_end, hplace]
  · obtain ⟨s, hs⟩ := htarget hdangling
    rw [edgeEnd_of_dangling hdangling hs]
    simp [missingId_ne_end, hdangling]
  · rw [edgeEnd_of_ending hnone hword]
    simp [hnone, hword]

/-! ## Statements can be written -/

/-- The end of an edge is a word. -/
theorem isWord_edgeEnd (edge : Edge) : IsWord (edgeEnd missing edge) := by
  have hend : IsWord "END" := by decide
  unfold edgeEnd
  split
  · exact isWord_nodeId _
  · split
    · split
      · exact isWord_missingId _
      · exact hend
    · exact hend

/-- What is said of an edge can be written. -/
theorem isWord_of_mem_edgeEntries {edge : Edge} {entry : String × AttributeValue}
    (h : entry ∈ edgeEntries mode edge) :
    IsWord entry.1 ∧ ∀ s, entry.2 = .word s → IsWord s := by
  have hentry : (∃ s, entry = ("label", .quoted s)) ∨ entry = ("style", .word "dashed") ∨
      entry = ("color", .word "red") := by
    rcases List.mem_append.1 h with hlabel | hdashed
    · split at hlabel
      · exact .inl ⟨_, List.mem_singleton.1 hlabel⟩
      · cases hlabel
    · split at hdashed
      · simpa using Or.inr hdashed
      · cases hdashed
  have hkeys : IsWord "label" ∧ IsWord "style" ∧ IsWord "color" := by decide
  have hvalues : IsWord "dashed" ∧ IsWord "red" := by decide
  rcases hentry with ⟨s, rfl⟩ | rfl | rfl
  · exact ⟨hkeys.1, by simp⟩
  · exact ⟨hkeys.2.1, by simpa using hvalues.1⟩
  · exact ⟨hkeys.2.2, by simpa using hvalues.2⟩

/-- The statements of a diagram can be written. -/
theorem isWritable_of_mem {statement : Statement} (h : statement ∈ statements form mode missing) :
    statement.IsWritable := by
  simp only [statements, List.mem_append, List.mem_map] at h
  rcases h with ((⟨entry, _, rfl⟩ | ⟨entry, _, rfl⟩) | hstart) | ⟨edge, _, rfl⟩
  · have hlabel : IsWord "label" := by decide
    exact ⟨isWord_nodeId _, by simp [pageStatement], by simpa [pageStatement],
      by simp [pageStatement]⟩
  · have hkeys : IsWord "shape" ∧ IsWord "fillcolor" ∧ IsWord "label" := by decide
    have hvalues : IsWord "octagon" ∧ IsWord "salmon" := by decide
    exact ⟨isWord_missingId _, by simp [missingStatement], by simpa [missingStatement],
      by simpa [missingStatement]⟩
  · unfold startStatements at hstart
    split at hstart
    · cases hstart
    · rw [List.mem_singleton.1 hstart]
      exact ⟨by decide, by simp [isWord_nodeId], by simp, by simp⟩
  · exact ⟨isWord_nodeId _, by simp [edgeStatement, isWord_edgeEnd],
      fun entry hentry => (isWord_of_mem_edgeEntries hentry).1,
      fun entry hentry => (isWord_of_mem_edgeEntries hentry).2⟩

/-! ## The lines of a diagram -/

/-- The lines of a diagram are the header, the statements and the closing brace. -/
theorem lines_eq (hnames : form.HasTextualNames) (hids : form.HasTextualIds)
    (hmissing : missingTargets form.edges = .ok missing) :
    lines form mode =
      .ok (header ++ (statements form mode missing).map Statement.write ++ ["\x7d"]) := by
  have hpages : form.pages.zipIdx.mapM (pageLine mode) =
      .ok ((form.pages.zipIdx.map (pageStatement mode)).map Statement.write) := by
    rw [Result.mapM_eq_ok, List.map_map, List.forall₂_map_right_iff, List.forall₂_same]
    rintro ⟨page, index⟩ hentry
    have hpage := List.fst_mem_of_mem_zipIdx hentry
    exact pageLine_eq (hnames page hpage) (hids page hpage)
  have htargets : missing.zipIdx.map missingLine =
      (missing.zipIdx.map missingStatement).map Statement.write := by
    rw [List.map_map]
    exact List.map_congr_left fun entry _ => missingLine_eq entry
  have hedges : form.edges.map (edgeLine mode missing) =
      (form.edges.map (edgeStatement mode missing)).map Statement.write := by
    rw [List.map_map]
    exact List.map_congr_left fun edge _ => edgeLine_eq edge
  rw [lines, hpages, hmissing]
  simp only [Result.ok_bind, htargets, hedges, startLines_eq, statements, List.map_append,
    List.append_assoc]
  rfl

/-- The statements on the lines are those that were written. -/
theorem filterMap_read?_lines {body : List String}
    (h : body.map Statement.read? = (statements form mode missing).map some) :
    (header ++ body ++ ["\x7d"]).filterMap Statement.read? =
      header.filterMap Statement.read? ++ statements form mode missing := by
  have hbody : body.filterMap Statement.read? = statements form mode missing := by
    have hid := congrArg (List.filterMap id) h
    simpa [List.filterMap_map] using hid
  have hbrace : Statement.read? "\x7d" = none := by decide
  rw [List.filterMap_append, List.filterMap_append, hbody]
  simp [hbrace]

/-- The statements of the header: one about all nodes, and one for each end of the diagram. -/
theorem filterMap_read?_header :
    header.filterMap Statement.read? =
      [⟨everyNode, none, [("shape", .word "box"), ("style", .word "filled"),
         ("fillcolor", .word "lightblue")]⟩,
       ⟨"START", none, [("shape", .word "ellipse"), ("fillcolor", .word "lightgreen"),
         ("label", .quoted "START")]⟩,
       ⟨"END", none, [("shape", .word "ellipse"), ("fillcolor", .word "lightgrey"),
         ("label", .quoted "END")]⟩] := by
  decide

/-- The identifiers of the nodes: the two ends, the pages and the missing targets. -/
def identifiers (form : Form) (missing : List String) : List String :=
  ["START", "END"] ++
    ((List.range form.pages.length).map nodeId ++ (List.range missing.length).map missingId)

/-- The nodes that are declared are the two ends in the header, the pages and the missing
targets. -/
theorem nodes_eq {body : List String}
    (h : body.map Statement.read? = (statements form mode missing).map some) :
    nodes (header ++ body ++ ["\x7d"]) = identifiers form missing := by
  have hheader : (header.filterMap Statement.read?).filterMap Statement.node? =
      ["START", "END"] := by
    rw [filterMap_read?_header]
    rfl
  have hpages : (form.pages.zipIdx.map (pageStatement mode)).filterMap Statement.node? =
      (List.range form.pages.length).map nodeId := by
    rw [List.range_eq_range', ← List.zipIdx_map_snd 0 form.pages, List.map_map,
      List.filterMap_map, ← List.filterMap_eq_map]
    have hword := nodeId_ne (s := everyNode) (by decide)
    refine List.filterMap_congr fun entry _ => ?_
    simp [Statement.node?, pageStatement, hword entry.2]
  have hmissing : (missing.zipIdx.map missingStatement).filterMap Statement.node? =
      (List.range missing.length).map missingId := by
    rw [List.range_eq_range', ← List.zipIdx_map_snd 0 missing, List.map_map,
      List.filterMap_map, ← List.filterMap_eq_map]
    have hword := missingId_ne (s := everyNode) (by decide)
    refine List.filterMap_congr fun entry _ => ?_
    simp [Statement.node?, missingStatement, hword entry.2]
  have hstart : (startStatements form).filterMap Statement.node? = [] := by
    unfold startStatements
    split <;> rfl
  have hedges : (form.edges.map (edgeStatement mode missing)).filterMap Statement.node? = [] := by
    rw [List.filterMap_map, List.filterMap_eq_nil_iff]
    exact fun edge _ => rfl
  rw [nodes, filterMap_read?_lines h, List.filterMap_append, hheader, statements, identifiers]
  simp only [List.filterMap_append, hpages, hmissing, hstart, hedges, List.append_nil]

/-- The nodes of a diagram have different identifiers. -/
theorem nodup_identifiers : (identifiers form missing).Nodup := by
  have hpages : ((List.range form.pages.length).map nodeId).Nodup :=
    List.nodup_range.map nodeId_injective
  have hmissing : ((List.range missing.length).map missingId).Nodup :=
    List.nodup_range.map missingId_injective
  have hheads : ∀ id ∈ ["START", "END"],
      id.toList.head? ≠ some 's' ∧ id.toList.head? ≠ some 'm' := by
    decide
  refine List.nodup_append.2 ⟨by decide, List.nodup_append.2 ⟨hpages, hmissing, ?_⟩, ?_⟩
  · intro page hpage target htarget
    obtain ⟨first, _, rfl⟩ := List.mem_map.1 hpage
    obtain ⟨second, _, rfl⟩ := List.mem_map.1 htarget
    exact nodeId_ne_missingId first second
  · rintro word hword id hid rfl
    obtain ⟨hpage, htarget⟩ := hheads word hword
    rcases List.mem_append.1 hid with hid | hid
    · obtain ⟨index, _, rfl⟩ := List.mem_map.1 hid
      exact hpage (head?_nodeId index)
    · obtain ⟨index, _, rfl⟩ := List.mem_map.1 hid
      exact htarget (head?_missingId index)

/-- Every page is a node. -/
theorem nodeId_mem_identifiers {index : Nat} (h : index < form.pages.length) :
    nodeId index ∈ identifiers form missing :=
  List.mem_append_right _ (List.mem_append_left _ (List.mem_map_of_mem (List.mem_range.2 h)))

/-- An edge is drawn from a node to a node when its target is among the missing ones if it finds
no page. -/
theorem edge_ends_mem_identifiers {edge : Edge} (hedge : edge ∈ form.edges)
    (hfound : edge.isDangling = true → ∃ s, edge.target = .text s ∧ s ∈ missing) :
    nodeId edge.source ∈ identifiers form missing ∧
      edgeEnd missing edge ∈ identifiers form missing := by
  obtain ⟨hsource, heq⟩ := Form.source_of_mem_edges hedge
  refine ⟨nodeId_mem_identifiers hsource, ?_⟩
  rcases edge_cases edge with ⟨place, hplace, _⟩ | ⟨_, hdangling⟩ | ⟨hnone, hword⟩
  · rw [edgeEnd_of_destination hplace]
    rw [heq] at hplace
    exact nodeId_mem_identifiers (Form.destination?_lt hsource hplace)
  · obtain ⟨s, hs, hmem⟩ := hfound hdangling
    rw [edgeEnd_of_dangling hdangling hs]
    exact List.mem_append_right _ (List.mem_append_right _
      (List.mem_map_of_mem (List.mem_range.2 (List.idxOf_lt_length_iff.2 hmem))))
  · rw [edgeEnd_of_ending hnone hword]
    exact List.mem_append_left _ (by decide)

/-- A statement that has a target is about an edge from a node to a node. -/
theorem ends_mem_identifiers
    (hfound : ∀ edge ∈ form.edges, edge.isDangling = true →
      ∃ s, edge.target = .text s ∧ s ∈ missing)
    {statement : Statement} (h : statement ∈ statements form mode missing) {target : String}
    (htarget : target ∈ statement.target) :
    statement.source ∈ identifiers form missing ∧ target ∈ identifiers form missing := by
  simp only [statements, List.mem_append, List.mem_map] at h
  rcases h with ((⟨entry, _, rfl⟩ | ⟨entry, _, rfl⟩) | hstart) | ⟨edge, hedge, rfl⟩
  · cases htarget
  · cases htarget
  · unfold startStatements at hstart
    split at hstart
    · cases hstart
    · next hpages =>
        cases List.mem_singleton.1 hstart
        cases htarget
        exact ⟨List.mem_append_left _ (by decide),
          nodeId_mem_identifiers (List.length_pos_iff.2 hpages)⟩
  · cases htarget
    exact edge_ends_mem_identifiers hedge (hfound edge hedge)

/-! ## Diagrams show forms -/

/-- Lines on which the statements of a form stand between the header and the brace show the form. -/
theorem shows_of_body {body : List String} (hsorted : missing.Pairwise (· < ·))
    (hmem : ∀ target, target ∈ missing ↔
      ∃ edge ∈ form.edges, edge.isDangling = true ∧ edge.target = .text target)
    (htextual : ∀ edge ∈ form.edges, ∃ s, edge.target = .text s)
    (hbody : body.map Statement.read? = (statements form mode missing).map some) :
    Shows form mode missing (header ++ body ++ ["\x7d"]) := by
  have hnodup : missing.Nodup := hsorted.imp Std.ne_of_lt
  have hfound : ∀ edge ∈ form.edges, edge.isDangling = true →
      ∃ s, edge.target = .text s ∧ s ∈ missing := by
    intro edge hedge hdangling
    obtain ⟨s, hs⟩ := htextual edge hedge
    exact ⟨s, hs, (hmem s).2 ⟨edge, hedge, hdangling, hs⟩⟩
  refine ⟨hsorted, hmem, ⟨body, rfl, hbody⟩, ?_, ?_, ?_, ?_, ?_⟩
  · rw [nodes_eq hbody]
    exact nodup_identifiers
  · rw [nodes_eq hbody, filterMap_read?_lines hbody]
    intro statement hstatement target htarget
    have hheader : ∀ statement ∈ header.filterMap Statement.read?, statement.target = none := by
      rw [filterMap_read?_header]
      simp
    rcases List.mem_append.1 hstatement with hstatement | hstatement
    · rw [hheader statement hstatement] at htarget
      cases htarget
    · exact ends_mem_identifiers hfound hstatement htarget
  · exact fun edge hedge place => edgeEnd_eq_nodeId_iff fun _ => htextual edge hedge
  · exact fun edge hedge index target => edgeEnd_eq_missingId_iff hnodup (hfound edge hedge)
  · exact fun edge hedge => edgeEnd_eq_end_iff fun _ => htextual edge hedge

/-- The diagram of a form whose names, ids, conditions and targets are texts exists in both modes,
and its lines show the form, whatever characters the texts hold. -/
theorem render_shows (hnames : form.HasTextualNames) (hids : form.HasTextualIds)
    (hroutings : form.HasTextualRoutings) (mode : DiagramMode) :
    ∃ text missing lines, render form mode = .ok text ∧
      text.toList.splitOn '\n' = lines.map String.toList ∧ Shows form mode missing lines := by
  obtain ⟨missing, hmissing⟩ := Form.exists_missingTargets.2
    fun edge hedge (_ : edge.isDangling = true) => hroutings.target hedge
  obtain ⟨hsorted, hmem⟩ := missingTargets_eq_ok hmissing
  have hbody : ((statements form mode missing).map Statement.write).map Statement.read? =
      (statements form mode missing).map some := by
    rw [List.map_map]
    exact List.map_congr_left fun statement hstatement =>
      Statement.read?_write (isWritable_of_mem hstatement)
  refine ⟨_, missing, header ++ (statements form mode missing).map Statement.write ++ ["\x7d"],
    Result.map_eq_ok.2 ⟨_, lines_eq hnames hids hmissing, rfl⟩, ?_,
    shows_of_body hsorted hmem (fun edge hedge => hroutings.target hedge) hbody⟩
  rw [String.toList_intercalate]
  refine List.splitOn_intercalate '\n' ?_ (by simp [header])
  rw [List.forall_mem_map]
  intro line hline
  rcases List.mem_append.1 hline with hline | hbrace
  · rcases List.mem_append.1 hline with hheader | hwritten
    · have hheaders : ∀ line ∈ header, '\n' ∉ line.toList := by decide
      exact hheaders line hheader
    · obtain ⟨statement, hstatement, rfl⟩ := List.mem_map.1 hwritten
      exact Statement.newline_not_mem_write (isWritable_of_mem hstatement)
  · rw [List.mem_singleton.1 hbrace]
    decide

/-- A form whose texts try to leave the labels: with quotes, backslashes, line breaks and the signs
of statements. -/
def hostileForm : Form where
  name := .text "Hostile"
  description := .text ""
  pages :=
    [Example.page 1 "One\"];\n  END -> START [label=\"" "" "go\\"
       [Example.field "a\"\\" "Question" (Example.input (.radio (Example.options ["\n"])) true)]
       (Example.route "a\"\\" "\n" "Nowhere\\\"];\n\x7d" Target.last),
     Example.page 2 "" "" "" [] none]
  id := .null
  createdAt := .null
  updatedAt := .null

/-- The diagram of the hostile form shows it. -/
theorem render_shows_hostile :
    hostileForm.HasTextualNames ∧ hostileForm.HasTextualIds ∧ hostileForm.HasTextualRoutings ∧
      ∃ text missing lines, render hostileForm .detailed = .ok text ∧
        text.toList.splitOn '\n' = lines.map String.toList ∧
        Shows hostileForm .detailed missing lines := by
  have hnames : hostileForm.HasTextualNames := by
    simp [Form.HasTextualNames, hostileForm, Example.page]
  have hids : hostileForm.HasTextualIds := by
    simp [Form.HasTextualIds, hostileForm, Example.page]
  have hroutings : hostileForm.HasTextualRoutings := by
    intro page hpage routing hrouting
    rcases List.mem_pair.1 hpage with rfl | rfl
    · cases hrouting
      exact ⟨List.forall_mem_singleton.2 ⟨_, rfl⟩, List.forall_mem_singleton.2 ⟨_, rfl⟩,
        .inr ⟨_, rfl⟩⟩
    · cases hrouting
  exact ⟨hnames, hids, hroutings, render_shows hnames hids hroutings .detailed⟩

end Diagram

end PagedForm
