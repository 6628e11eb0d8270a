import CrossBench.Table
import CrossBench.Tag

/-!
# The registry of runners

Which command runs a benchmark file is decided by its tag. A registry binds a tag either to a
command, to which the file is appended as the last argument, or to the reason why the runtime
cannot be used; a tag that it does not bind is unsupported. `lookup` gives these three answers.
-/

namespace CrossBench

/-- A program and its arguments. -/
abbrev Command := List String

/-- How the files of one runtime are run. -/
inductive Runner where
  /-- The command that takes the file as its last argument. -/
  | available (command : Command)
  /-- A known runtime that cannot be used, and why. -/
  | unavailable (reason : String)
  deriving DecidableEq

/-- The answer of a registry for a tag. -/
inductive Lookup where
  | available (command : Command)
  | disabled (reason : String)
  | unsupported
  deriving DecidableEq

/-- The runners by tag. -/
structure Registry where
  runners : Table Tag Runner

namespace Registry

/-- The registry that binds no tag. -/
def empty : Registry := ⟨Table.empty⟩

instance : Inhabited Registry := ⟨empty⟩

/-- The registry with `tag` bound to `runner`, whatever it was bound to before. -/
def bind (r : Registry) (tag : Tag) (runner : Runner) : Registry :=
  ⟨r.runners.insert tag runner⟩

/-- The runner that a configured command stands for: an empty command turns its runtime off. -/
def runnerOf (command : Command) : Runner :=
  if command = [] then .unavailable "disabled in config" else .available command

/-- The registry of a list of extensions with their commands. -/
def ofCommands (commands : List (String × Command)) : Registry :=
  commands.foldl (fun r c => r.bind (Tag.ofExtension c.1) (runnerOf c.2)) empty

/-- The runner that a tag is bound to. -/
def get? (r : Registry) (tag : Tag) : Option Runner := r.runners.get? tag

/-- Whether and how the files of a tag are run. -/
def lookup (r : Registry) (tag : Tag) : Lookup :=
  match r.get? tag with
  | some (.available command) => .available command
  | some (.unavailable reason) => .disabled reason
  | none => .unsupported

/-- The bound tags, in ascending order. -/
def tags (r : Registry) : List Tag := r.runners.keys

@[simp] theorem get?_empty (tag : Tag) : empty.get? tag = none := rfl

theorem get?_bind (r : Registry) (tag tag' : Tag) (runner : Runner) :
    (r.bind tag runner).get? tag' = if tag = tag' then some runner else r.get? tag' :=
  Table.get?_insert ..

end Registry

end CrossBench
