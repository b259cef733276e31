import PagedForm.Command.Task
import PagedForm.Yaml.Reader

/-!
# What the program answers

Here the reader of YAML that the program has, `Yaml.reader`, takes the place that was left open.
-/

namespace PagedForm

/-- The settings of a file, given how files are opened. -/
def Settings.load (open? : String → Option String) (usual path : Option String) :
    Result (Settings × List LogLine) :=
  loadWith Yaml.reader.fromFile id open? usual path

namespace Form

/-- The form in a YAML text. -/
def ofYaml (text : String) : Result Form :=
  ofYamlWith Yaml.reader text

/-- The form in a file with a name and a content. -/
def load (name content : String) : Result Form :=
  loadWith Yaml.reader name content

/-- A form is the same after it was saved under a name and loaded again. In YAML what is no number
comes back as something else that is none, and the two are not the same. -/
def staysSame (form : Form) (name : String) : Result Bool := do
  FileName.check name
  let loaded ← load name (form.save name)
  pure (loaded.same form &&
    !(SavedFormat.ofFileName name == .yaml && form.toDocument.holdsNan))

end Form

/-- What a command answers. -/
def Command.Invocation.run (invocation : Invocation) (surroundings : Surroundings) :
    Result Response :=
  invocation.runWith Yaml.reader surroundings

end PagedForm
