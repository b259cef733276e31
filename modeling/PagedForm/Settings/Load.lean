import PagedForm.FileName
import PagedForm.Log
import PagedForm.Settings.Basic
import PagedForm.Yaml.Document

/-!
# Settings in files

A settings file holds a record in YAML. Its entries replace the standard settings; entries that are
no settings are named in the log and have no effect, but their keys are sorted for it, so they have
to be comparable. How YAML is read is left open: a reader is given, and with it how the standard
settings are among the values that it knows.
-/

namespace PagedForm

namespace Yaml.Scalar

/-- Put a scalar among others that are in order, before the first that it lies below. It is compared
with those on the way, and there is no result when it cannot be compared with one of them. -/
def insert? (scalar : Scalar) : List Scalar → Option (List Scalar)
  | [] => some [scalar]
  | first :: rest => do
      let below ← scalar.below? first
      if below then pure (scalar :: first :: rest)
      else
        let others ← insert? scalar rest
        pure (first :: others)

/-- Put scalars in order, when they can be compared. -/
def sort? : List Scalar → Option (List Scalar)
  | [] => some []
  | scalar :: rest => do
      let others ← sort? rest
      insert? scalar others

end Yaml.Scalar

namespace Settings

variable {κ α : Type}

/-- The text of an atom that is one. -/
def keyText? : Atom → Option String
  | .text s => some s
  | _ => none

/-- The name of the setting that a key is. -/
def settingName? : Yaml.Scalar → Option String
  | .atom a => (keyText? a).filter names.contains
  | _ => none

/-- The entries of a record that are settings. -/
def knownEntries (entries : List (Yaml.Scalar × α)) : Table α :=
  entries.filterMap fun entry => (settingName? entry.1).map fun name => (name, entry.2)

/-- The note of the keys that are no settings. -/
def unknownNote (path : String) (keys : List Yaml.Scalar) : LogLine :=
  .warning "formflow.config"
    ("Ignoring unknown settings in " ++ path ++ ": " ++
      ", ".intercalate (keys.map Yaml.Scalar.shown))

/-- The settings that the entries of a file give. -/
def ofEntries (lift : Value → α) (path : String) (entries : List (Yaml.Scalar × α)) :
    Result (SettingsOf α × List LogLine) :=
  match Yaml.Scalar.sort? ((entries.map Prod.fst).filter fun key => (settingName? key).isNone) with
  | none => .error .mistyped
  | some unknown =>
      .ok ((standard.map lift).override (knownEntries entries),
        if unknown.isEmpty then [] else [unknownNote path unknown])

/-- The settings that the document of a file gives; an empty one gives the standard settings. -/
def ofDocument (lift : Value → α) (path : String) :
    Yaml.Document α → Result (SettingsOf α × List LogLine)
  | .empty => .ok (standard.map lift, [])
  | .record entries => ofEntries lift path entries
  | .other => .error (.settings (.notRecord path))

/-- The settings that a file's content gives. -/
def ofContent (yaml : Yaml.Reader κ α) (lift : Value → α) (path : String) (content : κ) :
    Result (SettingsOf α × List LogLine) :=
  match yaml content with
  | .ok document => ofDocument lift path document
  | .error failure => .error (failure.fault (.settings (.notYaml path)))

/-- The settings of a file, given how YAML is read and how files are opened. Without a path the
usual one counts, and without both, or with an empty one, the settings are standard. -/
def loadWith (yaml : Yaml.Reader κ α) (lift : Value → α) (open? : String → Option κ)
    (usual path : Option String) : Result (SettingsOf α × List LogLine) :=
  match path.or usual with
  | none => .ok (standard.map lift, [])
  | some "" => .ok (standard.map lift, [])
  | some p => do
      FileName.check p
      match open? p with
      | some content => ofContent yaml lift p content
      | none => .error (.settings (.unreadable p))

end Settings

end PagedForm
