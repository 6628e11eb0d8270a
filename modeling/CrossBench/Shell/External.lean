import CrossBench.Shell.Command.Lookup
import CrossBench.Shell.Expand
import CrossBench.Shell.Parser
import CrossBench.Shell.Redirect
import CrossBench.Shell.Unparse

/-!
# Starting programs

A command that is neither a function nor a command of the shell is a program, which gets a process of
its own. A file that the system does not know how to run is taken for a script of the shell that
wants to run it, unless it is no text. The dialects differ in what they say when nothing can be run.
-/

/-!
## Showing what is run

A script can have its commands shown as they are run. The plain dialect shows the values that are set
and the arguments in one line; the extended one shows each value in a line of its own, in quotes where
they are needed, and repeats the first character of the mark in front for scripts within scripts.
-/

namespace CrossBench.Shell.Act

/-- The mark in front of a command that is shown. -/
def traceMark : Act String := do
  let written := (← parameter? "PS4").getD "+ "
  let s ← get
  let text ←
    if written.any fun c => c == '$' || c == '\x60' then
      set { s with settings := s.settings.filter (· ≠ "xtrace") }
      let t ← expandedText written
      modify fun after => { after with settings := s.settings, status := s.status }
      pure t
    else pure written
  match s.dialect, text.toList with
  | .extended, c :: rest =>
    return String.ofList (List.replicate (s.layers + 1) c ++ rest)
  | _, _ => return text

/-- Shows a line, if commands are shown. -/
def trace (fd : Nat) (line : String) : Act Unit := do
  if ← isOn "xtrace" then
    let _ ← writeText fd ((← traceMark) ++ line ++ "\n")

/-- Shows arguments. -/
def traceWords (fd : Nat) (words : List String) : Act Unit := do
  match (← get).dialect with
  | .plain => trace fd (" ".intercalate words)
  | .extended => trace fd (" ".intercalate (words.map (Quoting.shown (← get).isWide)))

/-- A value that is set, as it is shown. -/
def shownAssignment (s : Session) (a : Assignment) (value : String) : String :=
  match a with
  | .mk name subscript append _ _ =>
    let element :=
      match subscript with
      | some w => "[" ++ w.written ++ "]"
      | none => ""
    let shown :=
      match s.dialect with
      | .plain => value
      | .extended => if value = "" then "" else Quoting.shown s.isWide value
    name ++ element ++ (if append then "+=" else "=") ++ shown

/-- Shows a value that is set. -/
def traceAssignment (fd : Nat) (a : Assignment) (value : String) : Act Unit := do
  trace fd (shownAssignment (← get) a value)

end CrossBench.Shell.Act

namespace CrossBench.Shell

/-- The parameters that come with a program; none if the program is not started yet. -/
abbrev Given := Option (List (String × String))

/-- What the system makes of a file that it is to run. -/
def executed (t : Tree) (given : Given) (path : String) (words : List String) : Except IoError Launch :=
  match runnableFile t (pathOf path) with
  | .error e => .error e
  | .ok bytes =>
    if given.any fun environment => isOversized environment words then .error .tooManyArguments
    else launchOf t interpreterLimit (words.headD "") path bytes (words.drop 1)

/-- What comes of an attempt to run something: a program, or lines to be said and a status. A line may
be one that does not say where the script is. -/
inductive Attempt where
  | program (l : Launch) (path : String)
  | refused (lines : List (Bool × String)) (status : Nat)

/-- Whether something on the way to a file is missing. -/
def isMissing (e : IoError) : Bool := e = .notFound || e = .notDirectory

/-- What the plain dialect runs: the first file on the search path that can be run. -/
def plainAttempt (t : Tree) (given : Given) (searchPath : String) (words : List String) : Attempt :=
  let name := words.headD ""
  let paths :=
    if name.toList.contains '/' then [name] else (searchPath.splitOn ":").map fun d => pathIn d name
  let result : Except IoError (Launch × String) :=
    paths.foldl (fun result path =>
      match result with
      | .ok r => .ok r
      | .error reason =>
        match executed t given path words with
        | .ok l => .ok (l, path)
        | .error .badFormat =>
          match t.contents (pathOf path) with
          | .error e => .error e
          | .ok bytes =>
            if isBinary bytes then .error .badFormat
            else .ok (⟨"dash", "/bin/sh", path :: words.drop 1⟩, path)
        | .error e => .error (if isMissing e then reason else e)) (.error .notFound)
  match result with
  | .ok (l, path) => .program l path
  | .error e =>
    let status := if isMissing e || e = .linkLoop || e = .nameTooLong then 127 else 126
    .refused [(true, name ++ ": " ++ if isMissing e then "not found" else e.plainMessage)] status

/-- Why the extended dialect cannot run a file. -/
def extendedRefusal (t : Tree) (path : String) (e : IoError) : Attempt :=
  let plain (why : String) (status : Nat) : Attempt := .refused [(true, path ++ ": " ++ why)] status
  let bytes := runnableFile t (pathOf path)
  if e = .badFormat then
    plain "cannot execute binary file: Exec format error" 126
  else if t.isDirectory (pathOf path) then plain "Is a directory" 126
  else
    match bytes with
    | .error _ => plain e.plainMessage (if e = .notFound then 127 else 126)
    | .ok bytes =>
      if e = .tooManyArguments then plain e.plainMessage 126
      else if e = .notFound then plain "cannot execute: required file not found" 127
      else
        match interpreter? bytes with
        | some (program, _) =>
          .refused [(false, path ++ ": " ++ program ++ ": bad interpreter: " ++ e.plainMessage)] 126
        | none => plain e.plainMessage 126

/-- What the extended dialect runs, if a file is to be run. -/
def extendedFile (t : Tree) (given : Given) (path : String) (words : List String) : Attempt :=
  match executed t given path words with
  | .ok l => .program l path
  | .error .badFormat =>
    match t.contents (pathOf path) with
    | .error _ => .program ⟨"bash", "bash", path :: words.drop 1⟩ path
    | .ok bytes =>
      if isBinary bytes then extendedRefusal t path .badFormat
      else if bytes.isEmpty then .program ⟨"true", path, []⟩ path
      else .program ⟨"bash", "bash", path :: words.drop 1⟩ path
  | .error e => extendedRefusal t path e

/-- What the extended dialect runs; `wide` says that characters have several bytes. -/
def extendedAttempt (wide : Bool) (t : Tree) (given : Given) (searchPath : Option String) (words : List String) : Attempt :=
  let name := words.headD ""
  if name.toList.contains '/' then extendedFile t given name words
  else
    match extendedSearch t searchPath name with
    | some path => extendedFile t given path words
    | none => .refused [(true, Quoting.displayed wide name ++ ": command not found")] 127

namespace Act

/-- Says why nothing can be run. -/
def sayRefusal (lines : List (Bool × String)) : Act Unit := do
  let s ← get
  lines.forM fun (placed, why) =>
    if placed then fault why
    else complain ((if s.file = "" then s.title else s.file) ++ ": " ++ why)

/-- What is to be run for words. -/
def attempt (given : Given) (words : List String) (searchPath : Option String) : Act Attempt := do
  let t ← tree
  let path ← parameter? "PATH"
  match (← get).dialect with
  | .plain => return plainAttempt t given ((searchPath.orElse fun _ => path).getD defaultSearchPath) words
  | .extended =>
    return extendedAttempt (← get).isWide t given (searchPath.orElse fun _ => path) words

/-- The parameters that a program gets that is started from a path. -/
def environmentFor (path : String) : Act (List (String × String)) := do
  let s ← get
  let own := s.environment
  match s.dialect with
  | .plain => return own
  | .extended => return own.filter (fun e => e.1 ≠ "_") ++ [("_", path)]

/-- Turns the process into what words mean. -/
def becomeProgram (words : List String) : Act Nat := do
  match ← attempt (some (← get).environment) words none with
  | .program l path => turnInto (← environmentFor path) l
  | .refused lines status =>
    sayRefusal lines
    return status

/-- Runs a program in a process of its own, unless this one ends behind it. -/
def runProgram (words : List String) (searchPath : Option String) : Act Nat := do
  let s ← get
  let name := words.headD ""
  let refused ←
    if name.toList.contains '/' then pure none
    else
      match s.dialect, ← attempt none words searchPath with
      | .plain, .refused lines status => pure (some (lines, if status = 126 then 127 else status))
      | .extended, .refused lines status => pure (some (lines, status))
      | _, .program _ path =>
        remember name path
        pure none
  match refused with
  | some (lines, status) =>
    sayRefusal lines
    return status
  | none =>
    let job : Job := .external words
    let start (s : Session) : Session :=
      match searchPath with
      | some path => s.store "PATH" none path
      | none => s
    if s.last && s.traps.isEmpty then
      modify start
      callStatus job
    else
      makeRoom
      let shown := ((← get).running.map (·.written)).getD ""
      waitForeground (← forkWith start job) shown

/-- Whether an error of the system forbids to run a file that is there. -/
def forbids (lines : List (Bool × String)) : Bool :=
  lines.any fun l => l.2.endsWith ": Permission denied"

/-- The command `exec` with words behind it. -/
def execWords (arguments : List String) : Act Nat := do
  let s ← get
  match s.dialect with
  | .plain =>
    let words := if arguments.head? = some "--" then arguments.drop 1 else arguments
    match ← attempt (some s.environment) words none with
    | .program l path => turnInto (← environmentFor path) l
    | .refused lines status =>
      sayRefusal lines
      throw (.exit status)
  | .extended =>
    match ← optionsOf "exec" "cl" "a" arguments with
    | .error status => return status
    | .ok o =>
      match o.rest with
      | [] => return 0
      | name :: more =>
        let words := (o.value? 'a').getD name :: more
        let leave (status : Nat) : Act Nat :=
          if s.isOn "execfail" then return status else throw (.exit status)
        let t ← tree
        let found :=
          if name.toList.contains '/' then
            some (if name.startsWith "/" then name
              else absolutePath s.directory name)
          else extendedSearch t (s.parameters.findSome? fun p =>
            if p.name = "PATH" then p.content.text? else none) name
        match found with
        | none =>
          faultOf "exec" (name ++ ": not found")
          leave 127
        | some path =>
          match extendedFile t (some s.environment) path words with
          | .program l path =>
            let environment ← environmentFor path
            turnInto (if o.has 'c' then [] else environment) l
          | .refused lines status =>
            sayRefusal lines
            if forbids lines then
              faultOf "exec" (path ++ ": cannot execute: Permission denied")
            leave status
where
  /-- A relative path behind a directory, without dots in front. -/
  absolutePath (directory name : String) : String :=
    let name := if name.startsWith "./" then String.ofList (name.toList.drop 2) else name
    (if directory = "/" then "" else directory) ++ "/" ++ name

end Act

end CrossBench.Shell
