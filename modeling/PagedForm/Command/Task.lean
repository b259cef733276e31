import PagedForm.Command.Invocation
import PagedForm.Diagnosis.Report
import PagedForm.Form.Saved
import PagedForm.Form.Select
import PagedForm.Settings.Load

/-!
# What a command does

A command answers with a status, a text for standard output, lines for the log, and at most one
file to write. The settings are read before the form, so a fault in both is one of the settings.
Faults with a wording of their own end in a log line and status two; other faults are those of the
program that asked. How YAML is read is left open.
-/

namespace PagedForm.Command

/-- What a command sees: how files are opened, the settings file that is usual, and the clock. -/
structure Surroundings where
  open? : String → Option String
  usualSettings : Option String
  now : Moment

/-- What a command answers. -/
structure Response where
  status : Nat
  output : String
  log : List LogLine
  saved : Option (String × String)
  deriving DecidableEq, Repr

/-- The status of a command that found mistakes in a form. -/
def Response.mistaken : Nat := 1

/-- The status of a command that could not do its task. -/
def Response.failed : Nat := 2

/-- The wording when a file cannot be opened. -/
def unopened : String := "<OSError>"

/-- The answer of a command that could not do its task. -/
def Response.failure (log : List LogLine) (message : String) : Response :=
  ⟨Response.failed, "", log ++ [.error "formflow.cli" message], none⟩

/-- The answer when the file of this one cannot be written. -/
def Response.unwritten (response : Response) : Response :=
  .failure response.log unopened

/-- The answer with a text, which goes to the target if one is named. No file can hold a half of a
surrogate pair. -/
def Response.result (log : List LogLine) (text : String) (target : Option String) :
    Result Response :=
  match target with
  | none | some "" => .ok ⟨0, text ++ "\n", log, none⟩
  | some name => do
      FileName.check name
      if text.toList.any Text.isStandIn then throw (.value .halfInText)
      pure ⟨0, "", log, some (name, text ++ "\n")⟩

/-- The answer with what is wrong with a form. -/
def Response.ofReport (log : List LogLine) (form : Form) (report : Report) : Response :=
  let warnings := report.warnings.map fun warning => "- " ++ warning ++ "\n"
  let verdict := if report.isClean then [form.name.shown ++ ": no problems found\n"] else []
  ⟨if report.isClean then 0 else Response.mistaken, "".intercalate (warnings ++ verdict), log,
    none⟩

/-- Do a task with a form. -/
def Task.perform (task : Task) (form : Form) (settings : Settings) (now : Moment)
    (log : List LogLine) : Result Response :=
  match task with
  | .compile selector => do
      let page ← form.select selector
      let compiled ← page.compile settings
      Response.result log (Json.document compiled.toOutput) none
  | .publish target => do
      let (document, notes) ← form.exported now settings
      Response.result (log ++ notes) (Json.document document) target
  | .lint => do
      let report ← Report.ofForm form settings
      pure (.ofReport log form report)
  | .diagram mode target => do
      let text ← Diagram.render form mode
      Response.result log text target

/-- A fault that a command reports by itself. -/
def isReported : Fault → Bool
  | .value _ | .moment _ _ => false
  | _ => true

/-- A result in which the faults that a command reports are answers. -/
def report (log : List LogLine) (result : Result Response) : Result Response :=
  match result with
  | .ok response => .ok response
  | .error fault =>
      if isReported fault then .ok (.failure log fault.message) else .error fault

/-- Do a task with the form in a file. -/
def Task.performOn (yaml : Yaml.Reader String Value) (task : Task) (name : String)
    (surroundings : Surroundings) (settings : Settings) (log : List LogLine) :
    Result Response := do
  FileName.check name
  match surroundings.open? name with
  | none => pure (.failure log unopened)
  | some content => do
      let form ← Form.loadWith yaml name content
      task.perform form settings surroundings.now log

/-- The settings that a command finds. -/
def Invocation.findSettings (yaml : Yaml.Reader String Value) (invocation : Invocation)
    (surroundings : Surroundings) : Result (Settings × List LogLine) :=
  Settings.loadWith yaml.fromFile id surroundings.open? surroundings.usualSettings
    invocation.settings

/-- What a command answers, given how YAML is read. -/
def Invocation.runWith (yaml : Yaml.Reader String Value) (invocation : Invocation)
    (surroundings : Surroundings) : Result Response :=
  match invocation.findSettings yaml surroundings with
  | .error fault => report [] (.error fault)
  | .ok (settings, log) =>
      report log (invocation.task.performOn yaml invocation.form surroundings settings log)

end PagedForm.Command
