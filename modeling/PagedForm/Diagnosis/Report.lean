import PagedForm.Diagnosis.Cycle
import PagedForm.Diagnosis.Lint
import PagedForm.Schema.Export

/-!
# Reports on forms

What an author should know about a form: faulty fields, pages without names or fields, names and
ids that are used twice, dependencies and targets that lead nowhere, pages that cannot be reached
and cycles. The findings are kept apart, and `warnings` says all of them in words.
-/

namespace PagedForm

/-- The findings in a form. Findings are filed under the label of a page, which is its name, or
its number when it has no name. -/
structure Report where
  formName : Value
  totalPages : Nat
  totalFields : Nat
  kinds : List String
  mistakes : Table (List String)
  unnamedPages : List Nat
  emptyPages : List String
  duplicateNames : List String
  duplicateIds : Table (List String)
  danglingDependencies : List (String × String × Value)
  inertRoutings : List String
  missingTargets : List (Value × Value)
  unreachablePages : List String
  cycle : Option (List Value)
  warnings : List String
  deriving Repr

/-- Nothing was found. -/
def Report.isClean (report : Report) : Bool :=
  report.warnings.isEmpty

/-- The texts that occur more than once, in order. -/
def repeatedTexts (texts : List String) : List String :=
  sortedTexts (texts.filter fun text => 1 < texts.count text)

namespace Page

/-- The number of a page as a name. -/
def numberLabel (index : Nat) : String :=
  "Page " ++ toString (index + 1)

/-- The label of a page: its name, or its number when it has no name. -/
def label (page : Page) (index : Nat) : String :=
  if page.name.truthy then page.name.shown else numberLabel index

/-- A dependency of a field that names no field of the page. -/
def danglingDependency? (page : Page) (field : Field) : Option (String × Value) :=
  if field.dependsOn.truthy && (page.field? field.dependsOn).isNone then
    some (field.id, field.dependsOn)
  else none

/-- The routing of a page has branches but no driver. -/
def hasInertRouting (page : Page) : Bool :=
  match page.routing with
  | some routing =>
      !routing.branches.isEmpty && (Routing.driver? page.routing page.fields).isNone
  | none => false

end Page

/-- The findings in one page. -/
structure PageFindings where
  label : String
  unnamed : Bool
  isEmpty : Bool
  duplicateIds : List String
  dangling : List (String × Value)
  mistakes : List String
  inert : Bool
  deriving Repr

/-- The findings in the page at a place. -/
def PageFindings.ofPage (settings : Settings) (entry : Page × Nat) : Result PageFindings := do
  let (page, index) := entry
  let unnamed ← Page.lacksText page.name
  let mistakes ← page.mistakes settings
  pure
    { label := page.label index
      unnamed := unnamed
      isEmpty := page.fields.isEmpty
      duplicateIds := repeatedTexts page.fieldIds
      dangling := page.fields.filterMap page.danglingDependency?
      mistakes := mistakes
      inert := page.hasInertRouting }

namespace Form

/-- The names of pages must not be lists or records. -/
def checkNames (form : Form) : Result Unit :=
  if form.pages.any fun page => page.name.list?.isSome || page.name.record?.isSome then
    .error .mistyped
  else .ok ()

/-- The names that several pages have. -/
def duplicateNames (form : Form) : List String :=
  repeatedTexts ((form.pages.filterMap fun page => page.name.text?).filter fun s => !s.isEmpty)

/-- The name of the page at a place. -/
def nameAt (form : Form) (index : Nat) : Value :=
  match form.pages[index]? with
  | some page => page.name
  | none => .null

/-- Add a finding unless one like it is there. -/
def addTarget (found : List (Value × Value)) (entry : Value × Value) : List (Value × Value) :=
  if found.any fun other => other.1.alike entry.1 && other.2.alike entry.2 then found
  else found ++ [entry]

/-- The targets that name no page, with the names of the pages that have them. -/
def missingTargets (form : Form) : List (Value × Value) :=
  ((form.edges.filter Edge.isDangling).map fun edge =>
    (form.nameAt edge.source, edge.target)).foldl addTarget []

/-- The labels of the pages that cannot be reached, in order. -/
def unreachableLabels (form : Form) : List String :=
  sortedTexts <| form.unreachable.filterMap fun index =>
    form.pages[index]?.map fun page => page.label index

/-- The names along a cycle of pages, if there is one. -/
def cycleNames? (form : Form) : Option (List Value) :=
  form.graph.cycle?.map fun nodes => nodes.map form.nameAt

end Form

namespace Report

/-- The lists among the findings, by label; a later page takes over the place of an earlier one
with its label. -/
def fileLists (findings : List PageFindings) (list : PageFindings → List String) :
    Table (List String) :=
  Table.ofEntries <|
    (findings.filter fun f => !(list f).isEmpty).map fun f => (f.label, list f)

/-- The labels of the pages with a finding. -/
def labelsWhere (findings : List PageFindings) (has : PageFindings → Bool) : List String :=
  (findings.filter has).map PageFindings.label

/-- The warning about a cycle; the names along it have to be texts. -/
def cycleWarning (cycle : Option (List Value)) : Result (List String) :=
  match cycle with
  | none => .ok []
  | some names =>
      (Value.joinTexts " -> " names).map fun joined =>
        ["Navigation cycle detected: " ++ joined]

/-- A warning about texts joined by commas, unless there are none. -/
def listWarning (start : String) (texts : List String) : List String :=
  if texts.isEmpty then [] else [start ++ ", ".intercalate texts]

/-- All findings but the cycle in words. -/
def describe (report : Report) : List String :=
  (report.unnamedPages.map fun index => Page.numberLabel index ++ " needs a name") ++
  (report.emptyPages.map fun label => "\"" ++ label ++ "\" has no fields") ++
  listWarning "Duplicate page names: " report.duplicateNames ++
  (report.duplicateIds.map fun entry => "\"" ++ entry.1 ++ "\" has duplicate field IDs") ++
  (report.mistakes.flatMap fun entry => entry.2.map fun mistake => entry.1 ++ ": " ++ mistake) ++
  (report.danglingDependencies.map fun (label, id, dependsOn) =>
    label ++ ": \"" ++ id ++ "\" depends on missing field \"" ++ dependsOn.shown ++ "\"") ++
  (report.inertRoutings.map fun label =>
    label ++ ": navigation field not found, rule ignored") ++
  (report.missingTargets.map fun (name, target) =>
    name.shown ++ ": navigation target \"" ++ target.shown ++ "\" not found") ++
  listWarning "Unreachable pages: " report.unreachablePages

/-- The report on a form without pages. -/
def ofEmpty (form : Form) : Report where
  formName := form.name
  totalPages := 0
  totalFields := 0
  kinds := []
  mistakes := []
  unnamedPages := []
  emptyPages := []
  duplicateNames := []
  duplicateIds := []
  danglingDependencies := []
  inertRoutings := []
  missingTargets := []
  unreachablePages := []
  cycle := none
  warnings := ["Flow must have at least one page"]

/-- The findings in a form before they are put in words. -/
def collect (form : Form) (findings : List PageFindings) : Report where
  formName := form.name
  totalPages := form.pages.length
  totalFields := form.fields.length
  kinds := form.kindNames
  mistakes := fileLists findings PageFindings.mistakes
  unnamedPages := (findings.zipIdx.filter fun entry => entry.1.unnamed).map Prod.snd
  emptyPages := labelsWhere findings PageFindings.isEmpty
  duplicateNames := form.duplicateNames
  duplicateIds := fileLists findings PageFindings.duplicateIds
  danglingDependencies :=
    findings.flatMap fun f => f.dangling.map fun entry => (f.label, entry.1, entry.2)
  inertRoutings := labelsWhere findings PageFindings.inert
  missingTargets := form.missingTargets
  unreachablePages := form.unreachableLabels
  cycle := form.cycleNames?
  warnings := []

/-- The report on a form. -/
def ofForm (form : Form) (settings : Settings) : Result Report := do
  if form.pages.isEmpty then pure (ofEmpty form)
  else
    form.checkNames
    let findings ← form.pages.zipIdx.mapM (PageFindings.ofPage settings)
    let report := collect form findings
    let closing ← cycleWarning report.cycle
    pure { report with warnings := (report.describe ++ closing).eraseDups }

end Report

end PagedForm
