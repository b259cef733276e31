import PagedForm.Command.Option
import PagedForm.Diagram

/-!
# What a command line asks for

A command line names one of four tasks and the file of a form, after options for all tasks and
among options of its own. Whatever is left over, a missing file and a mode that does not exist are
refused.
-/

namespace PagedForm.Command

/-- What is done with a form. A target is the file that the result is written to. -/
inductive Task where
  | compile (page : Option String)
  | publish (target : Option String)
  | lint
  | diagram (mode : DiagramMode) (target : Option String)
  deriving DecidableEq, Repr

/-- What a command line asks for: the settings file if one is named, whether much is logged, the
file of a form, and what is done with it. -/
structure Invocation where
  settings : Option String
  verbose : Bool
  form : String
  task : Task
  deriving DecidableEq, Repr

/-- The option that asks for help. -/
def helpOption : OptionSpec := ⟨["-h", "--help"], false⟩

/-- The option that names the settings file. -/
def settingsOption : OptionSpec := ⟨["--config"], true⟩

/-- The option for a longer log. -/
def verboseOption : OptionSpec := ⟨["-v", "--verbose"], false⟩

/-- The option that picks a page. -/
def pageOption : OptionSpec := ⟨["--step"], true⟩

/-- The option that names the target. -/
def targetOption : OptionSpec := ⟨["-o", "--output"], true⟩

/-- The option that picks the mode of a diagram. -/
def modeOption : OptionSpec := ⟨["--mode"], true⟩

/-- The options for all tasks. -/
def sharedOptions : List OptionSpec := [helpOption, settingsOption, verboseOption]

/-- The names of the tasks with their own options. -/
def taskOptions : List (String × List OptionSpec) :=
  [("compile", [helpOption, pageOption]), ("export", [helpOption, targetOption]),
   ("lint", [helpOption]), ("dot", [helpOption, modeOption, targetOption])]

/-- The names of the modes of a diagram. -/
def modeNames : List String :=
  [DiagramMode.simple.name, DiagramMode.detailed.name]

/-- Whether an option that is used can be taken: help is given at once, and a mode has to exist. -/
def allow (use : Use) : Except Refusal Unit :=
  if use.spec = helpOption then .error .help
  else if use.spec = modeOption then
    match use.value with
    | some mode => if modeNames.contains mode then .ok () else .error .usage
    | none => .error .usage
  else .ok ()

/-- What was read of a command line: the options in use, the operand, and whether something was
left over. -/
structure Found where
  uses : List Use
  operand : Option String
  leftover : Bool

namespace Found

/-- Nothing was read. -/
def nothing : Found := ⟨[], none, false⟩

/-- The value of an option; the last use counts. -/
def value? (found : Found) (spec : OptionSpec) : Option String :=
  found.uses.reverse.findSome? fun use => if use.spec = spec then use.value else none

/-- The option is used. -/
def has (found : Found) (spec : OptionSpec) : Bool :=
  found.uses.any fun use => use.spec = spec

/-- With options that are used now. -/
def add (found : Found) (uses : List Use) : Found :=
  { found with uses := found.uses ++ uses }

/-- With an argument that nothing can be done with. -/
def leave (found : Found) : Found :=
  { found with leftover := true }

end Found

/-- The options before the name of a task, and the arguments from there on. -/
def readShared : (fuel : Nat) → Found → List Argument → Except Refusal (Found × List String)
  | 0, _, _ => .error .usage
  | fuel + 1, found, arguments =>
      match arguments with
      | [] => .error .usage
      | ⟨text, .operand⟩ :: rest => .ok (found, text :: rest.map Argument.text)
      | ⟨_, .endOfOptions⟩ :: _ => .error .usage
      | ⟨_, .unknown⟩ :: rest => readShared fuel found.leave rest
      | ⟨_, .option name spec attached⟩ :: rest => do
          let (used, rest) ← usesOf sharedOptions name spec attached rest
          used.forM allow
          readShared fuel (found.add used) rest

/-- The options and the operand of a task. The two dashes that end the options may stand directly
before or after the operand. -/
def readTask (specs : List OptionSpec) :
    (fuel : Nat) → Found → List Argument → Except Refusal Found
  | 0, _, _ => .error .usage
  | fuel + 1, found, arguments =>
      match arguments with
      | [] => .ok found
      | ⟨_, .endOfOptions⟩ :: ⟨text, .operand⟩ :: rest =>
          if found.operand.isNone then readTask specs fuel { found with operand := text } rest
          else .error .usage
      | ⟨_, .endOfOptions⟩ :: _ => .error .usage
      | ⟨text, .operand⟩ :: rest =>
          if found.operand.isNone then
            let rest := match rest with
              | ⟨_, .endOfOptions⟩ :: more => more
              | _ => rest
            readTask specs fuel { found with operand := text } rest
          else readTask specs fuel found.leave rest
      | ⟨_, .unknown⟩ :: rest => readTask specs fuel found.leave rest
      | ⟨_, .option name spec attached⟩ :: rest => do
          let (used, rest) ← usesOf specs name spec attached rest
          used.forM allow
          readTask specs fuel (found.add used) rest

/-- The task of a name with the options in use. -/
def taskOf (name : String) (found : Found) : Task :=
  match name with
  | "compile" => .compile (found.value? pageOption)
  | "export" => .publish (found.value? targetOption)
  | "lint" => .lint
  | _ =>
      let mode := if found.value? modeOption = some DiagramMode.detailed.name then
          DiagramMode.detailed
        else .simple
      .diagram mode (found.value? targetOption)

/-- What a command line asks for. -/
def Invocation.ofArguments (arguments : List String) : Except Refusal Invocation := do
  let marked ← mark sharedOptions arguments
  let (shared, rest) ← readShared (marked.length + 1) .nothing marked
  match rest with
  | [] => throw .usage
  | name :: rest =>
      match taskOptions.lookup name with
      | none => throw .usage
      | some specs => do
          let marked ← mark specs rest
          let own ← readTask specs (marked.length + 1) .nothing marked
          match own.operand with
          | none => throw .usage
          | some form =>
              if shared.leftover || own.leftover then throw .usage
              else
                pure
                  { settings := shared.value? settingsOption
                    verbose := shared.has verboseOption
                    form := form
                    task := taskOf name own }

end PagedForm.Command
