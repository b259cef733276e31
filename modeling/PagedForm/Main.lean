import PagedForm.Command.Response
import Std.Time.DateTime.PlainDateTime
import Std.Time.DateTime.Timestamp

/-!
# The command line

The program reads its arguments, the files that they name and the clock, asks for the response of
the command, and carries it out: it writes the output, the log and the file of the response.
-/

namespace PagedForm.Command

/-- How the program is called. -/
def usageText : String :=
  "usage: pagedform [--config FILE] [-v] (compile FORM [--step PAGE] | export FORM [-o FILE]\n" ++
  "                 | lint FORM | dot FORM [--mode simple|detailed] [-o FILE])"

/-- The content of a file that can be read. -/
def contentOf (name : String) : IO (Option String) := do
  try
    let content ← IO.FS.readFile name
    pure (some content)
  catch _ => pure none

/-- The contents of files by name; those that cannot be read are missing. -/
def contentsOf : List String → IO (List (String × String))
  | [] => pure []
  | name :: rest => do
      let content ← contentOf name
      let others ← contentsOf rest
      pure ((content.map fun c => (name, c)).toList ++ others)

/-- The moment on the clock. -/
def clock : IO Moment := do
  let stamp ← Std.Time.Timestamp.now
  let time := Std.Time.PlainDateTime.ofWallTime
    (Std.Time.WallTime.ofNanoseconds stamp.toNanosecondsSinceUnixEpoch)
  pure
    { year := time.year.toInt.toNat
      month := time.month.toNat
      day := time.day.toNat
      hour := time.hour.toNat
      minute := time.minute.toNat
      second := time.second.toNat
      micro := time.nanosecond.toNat / 1000
      offset := some 0 }

/-- Write the file of a response. The response is another one when that fails. -/
def deliver (response : Response) : IO Response := do
  match response.saved with
  | none => pure response
  | some (name, content) =>
      try
        IO.FS.writeFile name content
        pure response
      catch _ => pure response.unwritten

/-- Carry out what a command line asks for. -/
def carryOut (invocation : Invocation) : IO UInt32 := do
  let usual ← IO.getEnv "FORMFLOW_CONFIG"
  let now ← clock
  let named := invocation.form :: (invocation.settings.or usual).toList
  let contents ← contentsOf named
  match invocation.run ⟨fun name => contents.lookup name, usual, now⟩ with
  | .error fault =>
      IO.eprintln fault.message
      pure 1
  | .ok response => do
      let response ← deliver response
      for line in response.log do
        IO.eprintln line.render
      IO.print response.output
      pure (UInt32.ofNat response.status)

end PagedForm.Command

/-- Run the program. -/
def main (arguments : List String) : IO UInt32 := do
  match PagedForm.Command.Invocation.ofArguments arguments with
  | .ok invocation => PagedForm.Command.carryOut invocation
  | .error .help =>
      IO.println PagedForm.Command.usageText
      pure 0
  | .error .usage =>
      IO.eprintln PagedForm.Command.usageText
      pure 2
