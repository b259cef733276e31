import PagedForm.Fault
import PagedForm.Table

/-!
# Settings

Labels, counts and limits that a form does not say itself. They are values of any shape, since a
settings document may give any.
-/

namespace PagedForm

/-- The settings of schemas, diagnoses and exports, as values of some type. -/
structure SettingsOf (α : Type) where
  submitText : α
  textareaRows : α
  selectPlaceholder : α
  defaultMaxSize : α
  maxSizeCeiling : α
  exportVersion : α
  deriving Repr

/-- The settings that schemas, diagnoses and exports work with. -/
abbrev Settings := SettingsOf Value

namespace SettingsOf

variable {α β : Type}

/-- The settings with one replaced; a name that is no setting replaces nothing. -/
def put (settings : SettingsOf α) (name : String) (value : α) : SettingsOf α :=
  if name = "submit_text" then { settings with submitText := value }
  else if name = "textarea_rows" then { settings with textareaRows := value }
  else if name = "select_placeholder" then { settings with selectPlaceholder := value }
  else if name = "default_max_file_size_mb" then { settings with defaultMaxSize := value }
  else if name = "max_file_size_ceiling_mb" then { settings with maxSizeCeiling := value }
  else if name = "export_version" then { settings with exportVersion := value }
  else settings

/-- The settings by name. -/
def toTable (settings : SettingsOf α) : Table α :=
  [("submit_text", settings.submitText), ("textarea_rows", settings.textareaRows),
   ("select_placeholder", settings.selectPlaceholder),
   ("default_max_file_size_mb", settings.defaultMaxSize),
   ("max_file_size_ceiling_mb", settings.maxSizeCeiling),
   ("export_version", settings.exportVersion)]

/-- The settings with the entries of a table in place of their own. -/
def override (settings : SettingsOf α) (entries : Table α) : SettingsOf α :=
  entries.foldl (fun acc entry => acc.put entry.1 entry.2) settings

/-- The settings with all values changed. -/
def map (change : α → β) (settings : SettingsOf α) : SettingsOf β where
  submitText := change settings.submitText
  textareaRows := change settings.textareaRows
  selectPlaceholder := change settings.selectPlaceholder
  defaultMaxSize := change settings.defaultMaxSize
  maxSizeCeiling := change settings.maxSizeCeiling
  exportVersion := change settings.exportVersion

end SettingsOf

namespace Settings

/-- The settings when nothing else is said. -/
def standard : Settings where
  submitText := .text "Continue"
  textareaRows := .int 4
  selectPlaceholder := .text "Choose an option..."
  defaultMaxSize := .int 10
  maxSizeCeiling := .int 100
  exportVersion := .text "1.0"

/-- The names of the settings. -/
def names : List String :=
  standard.toTable.keys

/-- The settings as a record. -/
def toValue (settings : Settings) : Value :=
  .fields settings.toTable

/-- A name that is no setting replaces nothing. -/
theorem put_of_not_mem {α : Type} {name : String} (h : name ∉ names) (settings : SettingsOf α)
    (value : α) : settings.put name value = settings := by
  simp only [names, standard, SettingsOf.toTable, Table.keys, List.map_cons, List.map_nil,
    List.mem_cons, List.not_mem_nil, or_false, not_or] at h
  simp [SettingsOf.put, h]

end Settings

end PagedForm
