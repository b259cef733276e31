import PagedForm.Navigation.Edge
import PagedForm.Schema.Export

/-!
# Diagrams of forms

A form as a graph in the DOT language: a node for each page, one for each target that names no
page, and the edges between them. The detailed mode adds the counts of fields and the conditions
of the edges. Labels are quoted, so no name can leave its place.
-/

namespace PagedForm

/-- How much a diagram shows. -/
inductive DiagramMode where
  | simple
  | detailed
  deriving DecidableEq, Repr

namespace DiagramMode

/-- The name of a mode. -/
def name : DiagramMode → String
  | .simple => "simple"
  | .detailed => "detailed"

/-- The mode that a value names. -/
def ofValue (value : Value) : Result DiagramMode :=
  match value with
  | .text "simple" => .ok .simple
  | .text "detailed" => .ok .detailed
  | other => .error (.value (.unknownMode other))

end DiagramMode

namespace Diagram

/-- One character of a quoted label. -/
def escapeChar (c : Char) : List Char :=
  if c = '\\' then ['\\', '\\']
  else if c = '"' then ['\\', '"']
  else if c = '\n' then ['\\', 'n']
  else [c]

/-- A label between double quotes. -/
def quote (label : String) : String :=
  "\"" ++ String.ofList (label.toList.flatMap escapeChar) ++ "\""

/-- A label that need not be a text: whatever counts as false is the empty label. -/
def quoteValue (label : Value) : Result String :=
  if label.truthy then label.asText.map quote else .ok (quote "")

/-- The identifier of the node of a page. -/
def nodeId (index : Nat) : String :=
  "step_" ++ toString index

/-- The identifier of the node of a missing target. -/
def missingId (index : Nat) : String :=
  "missing_" ++ toString index

/-- The lines that every diagram begins with. -/
def header : List String :=
  ["digraph flow \x7b",
   "  rankdir=LR;",
   "  node [shape=box, style=filled, fillcolor=lightblue];",
   "  START [shape=ellipse, fillcolor=lightgreen, label=\"START\"];",
   "  END [shape=ellipse, fillcolor=lightgrey, label=\"END\"];"]

/-- What the detailed mode adds to the label of a page. -/
def pageInfo (page : Page) : List String :=
  (toString page.fields.length ++ " fields") ::
    (if page.actionName.truthy then ["Action: " ++ page.actionName.shown] else [])

/-- The quoted label of a page: its name, or its id when it has none. -/
def pageLabel (mode : DiagramMode) (page : Page) : Result String :=
  let label := page.name.orElse page.id
  match mode with
  | .simple => quoteValue label
  | .detailed =>
      match label with
      | .text s => .ok (quote (s ++ "\n(" ++ "\n".intercalate (pageInfo page) ++ ")"))
      | _ => .error .mistyped

/-- The line of a page. -/
def pageLine (mode : DiagramMode) (entry : Page × Nat) : Result String :=
  (pageLabel mode entry.1).map fun label =>
    "  " ++ nodeId entry.2 ++ " [label=" ++ label ++ "];"

/-- The missing targets in order; they have to be texts. -/
def missingTargets (edges : List Edge) : Result (List String) :=
  match (edges.filter Edge.isDangling).mapM fun edge => edge.target.text? with
  | some texts => .ok (sortedTexts texts)
  | none => .error .mistyped

/-- The line of a missing target. -/
def missingLine (entry : String × Nat) : String :=
  "  " ++ missingId entry.2 ++ " [shape=octagon, fillcolor=salmon, label=" ++
    quote ("Missing: " ++ entry.1) ++ "];"

/-- The longest label of an edge that is shown whole. -/
def longestLabel : Nat := 40

/-- A label of an edge, cut when it is long. -/
def shorten (label : String) : String :=
  if label.toList.length ≤ longestLabel then label
  else String.ofList (label.toList.take (longestLabel - 3)) ++ "..."

/-- The identifier of the node that an edge leads to. -/
def edgeEnd (missing : List String) (edge : Edge) : String :=
  match edge.destination with
  | some index => nodeId index
  | none =>
      if edge.isDangling then
        match edge.target with
        | .text s => missingId (missing.idxOf s)
        | _ => "END"
      else "END"

/-- The attributes of an edge. -/
def edgeAttributes (mode : DiagramMode) (edge : Edge) : List String :=
  (if mode = .detailed ∧ edge.label ≠ "" then ["label=" ++ quote (shorten edge.label)]
   else []) ++
  (if edge.isDangling then ["style=dashed, color=red"] else [])

/-- The line of an edge. -/
def edgeLine (mode : DiagramMode) (missing : List String) (edge : Edge) : String :=
  let attributes := edgeAttributes mode edge
  "  " ++ nodeId edge.source ++ " -> " ++ edgeEnd missing edge ++
    (if attributes.isEmpty then "" else " [" ++ ", ".intercalate attributes ++ "]") ++ ";"

/-- The line of the edge that leads to the first page. -/
def startLines (form : Form) : List String :=
  if form.pages.isEmpty then [] else ["  START -> " ++ nodeId 0 ++ ";"]

/-- The lines of a diagram. -/
def lines (form : Form) (mode : DiagramMode) : Result (List String) := do
  let pages ← form.pages.zipIdx.mapM (pageLine mode)
  let missing ← missingTargets form.edges
  pure (header ++ pages ++ missing.zipIdx.map missingLine ++ startLines form ++
    form.edges.map (edgeLine mode missing) ++ ["\x7d"])

/-- The diagram of a form. -/
def render (form : Form) (mode : DiagramMode) : Result String :=
  (lines form mode).map fun parts => "\n".intercalate parts

end Diagram

end PagedForm
