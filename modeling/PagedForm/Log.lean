/-!
# The log

What a program notes beside its result. A line names its level and the part of the program that
wrote it.
-/

namespace PagedForm

/-- A line of the log: its level, the part of the program that wrote it, and what it says. -/
structure LogLine where
  level : String
  origin : String
  text : String
  deriving DecidableEq, Repr

/-- A line of the log as text. -/
def LogLine.render (line : LogLine) : String :=
  line.level ++ " " ++ line.origin ++ ": " ++ line.text

/-- A note of something that does not stop the program. -/
def LogLine.warning (origin text : String) : LogLine :=
  ⟨"WARNING", origin, text⟩

/-- A note of what stopped the program. -/
def LogLine.error (origin text : String) : LogLine :=
  ⟨"ERROR", origin, text⟩

end PagedForm
