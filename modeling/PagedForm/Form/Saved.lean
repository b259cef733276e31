import PagedForm.FileName
import PagedForm.Form.Compare
import PagedForm.Form.Document
import PagedForm.Json.Reader
import PagedForm.Json.Writer
import PagedForm.Text.LineEnd
import PagedForm.Yaml.Document
import PagedForm.Yaml.Writer

/-!
# Forms in files

A form is saved as the text of its document, in JSON or in YAML. The name of a file tells which: an
ending for YAML, whatever the case of its letters, and JSON for every other name. How YAML is read
is left open.
-/

namespace PagedForm

/-- The formats in which a form is saved. -/
inductive SavedFormat where
  | json
  | yaml
  deriving DecidableEq, Repr

namespace SavedFormat

/-- The format of a file. -/
def ofFileName (name : String) : SavedFormat :=
  let found := (FileName.ending name).map Char.toLower
  if found = ".yaml".toList || found = ".yml".toList then .yaml else .json

end SavedFormat

namespace Form

/-- The form in a JSON text. -/
def ofJson (text : String) : Result Form :=
  match Json.read text with
  | .ok document => ofDocument document
  | .error .malformed => .error (.document .notJson)
  | .error (.longNumeral digits) => .error (.value (.longNumeral digits))

/-- The form in a YAML text, given how YAML is read. -/
def ofYamlWith (yaml : Yaml.Reader String Value) (text : String) : Result Form :=
  match yaml text with
  | .ok (.record entries) =>
      ofDocument (.record (entries.map fun entry => (entry.1.toAtom, entry.2)))
  | .ok _ => .error (.document .notRecord)
  | .error failure => .error (failure.fault (.document .notYaml))

/-- A form as JSON text. -/
def toJson (form : Form) : String :=
  Json.document form.toDocument

/-- A form as YAML text. -/
def toYaml (form : Form) : String :=
  Yaml.write form.toDocument

/-- The content of the file in which a form is saved under a name. -/
def save (form : Form) (name : String) : String :=
  match SavedFormat.ofFileName name with
  | .json => form.toJson
  | .yaml => form.toYaml

/-- The form in a file with a name and a content, given how YAML is read. -/
def loadWith (yaml : Yaml.Reader String Value) (name content : String) : Result Form :=
  let text := Text.unifyLineEnds content
  match SavedFormat.ofFileName name with
  | .json => ofJson text
  | .yaml => ofYamlWith yaml text

end Form

end PagedForm
