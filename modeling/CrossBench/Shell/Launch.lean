import CrossBench.Shell.Complaint

/-!
# What a command starts

A command names a program by a path or, without a slash, by a name that is looked for in the
directories of a search path. `prepare` says what would be started: one of the programs of this
system, with its arguments, or the reason why nothing can be. A script names its interpreter in its
first line; a file that is neither a program nor such a script has no format that can be run.
-/

namespace CrossBench.Shell

/-- What a file begins with that is a program of its own. -/
def programMark : List UInt8 := 0x7F :: toBytes "ELF" ++ [2, 1, 1, 0]

/-- The bytes of the file that is this program. -/
def programImage (name : String) : ByteArray := (programMark ++ toBytes name).toByteArray

/-- The name of the program that a file is. -/
def programOf? (bytes : ByteArray) : Option String :=
  let n := programMark.length
  if (bytes.extract 0 n).toList = programMark then some (textOf (bytes.extract n bytes.size)) else none

/-- The directories that are searched for programs unless a program says otherwise. -/
def defaultSearchPath : String := "/usr/local/sbin:/usr/local/bin:/usr/sbin:/usr/bin:/sbin:/bin"

/-- The bytes of a program file, if the file can be run. -/
def runnableFile (tree : Tree) (p : Path) : Except IoError ByteArray :=
  match tree.find p true with
  | .error e => .error e
  | .ok (.file number) =>
    if tree.allows (.file number) 1 then .ok (tree.disk.record number).data else .error .denied
  | .ok _ => .error .denied

/-- Whether arguments and parameters take more room than a program can be given: one of them, or all
together with a place for each. -/
def isOversized (environment : List (String × String)) (words : List String) : Bool :=
  let sizes := words.map (fun w => w.length + 1) ++ environment.map fun e => e.1.length + e.2.length + 2
  sizes.any (131072 < ·) || 2097152 < sizes.foldl (fun n size => n + size + 8) 0

/-- The path of a name in a directory of a search path. -/
def pathIn (directory name : String) : String :=
  if directory = "" then name
  else if directory.endsWith "/" then directory ++ name
  else directory ++ "/" ++ name

/-- The path and the bytes of a program that is named without a slash: the first that can be run. A
file that cannot be run is remembered as the reason. -/
def searchProgram (tree : Tree) (name : String) (reason : IoError) :
    List String → Except IoError (String × ByteArray)
  | [] => .error reason
  | directory :: rest =>
    let path := pathIn directory name
    match runnableFile tree (pathOf path) with
    | .ok bytes => .ok (path, bytes)
    | .error e => searchProgram tree name (if e = .denied then e else reason) rest

/-- The path and the bytes of a program. -/
def findProgram (tree : Tree) (searchPath name : String) : Except IoError (String × ByteArray) :=
  if name = "" then .error .notFound
  else if name.toList.contains '/' then
    (runnableFile tree (pathOf name)).map fun bytes => (name, bytes)
  else if Tree.nameLimit < name.length then .error .nameTooLong
  else searchProgram tree name .notFound (searchPath.splitOn ":")

/-- The file that the extended dialect finds for a name: one that can be run, or else the first one
that is there. -/
def extendedSearch (t : Tree) (searchPath : Option String) (name : String) : Option String :=
  match searchPath with
  | none => some name
  | some "" => some name
  | some path =>
    if name = "" then none
    else
      let paths := (path.splitOn ":").map fun d => pathIn (if d = "" then "." else d) name
      let there := paths.filter fun p => !t.isDirectory (pathOf p) && (t.find (pathOf p) true).isOk
      match there.find? fun p => (runnableFile t (pathOf p)).isOk with
      | some p => some p
      | none => there.head?

/-- How many bytes of a script the system looks at. -/
def scriptBuffer : Nat := 256

/-- The interpreter that the first line of a script names, and the one argument for it. A line that
does not fit into the buffer may be cut in its argument, but not in its program. -/
def interpreter? (bytes : ByteArray) : Option (String × Option String) :=
  match charsOf (bytes.extract 0 scriptBuffer) with
  | '#' :: '!' :: behind =>
    let blank (c : Char) : Bool := c == ' ' || c == '\t'
    let ends (c : Char) : Bool := blank c || c == Char.ofNat 0
    let padding := List.replicate (scriptBuffer - bytes.size) (Char.ofNat 0)
    let buffer := behind ++ padding
    let whole := buffer.contains '\n'
    let line := buffer.takeWhile (· != '\n')
    let cut := !whole && !((line.dropWhile blank).any ends)
    let line := if whole then line else line.dropLast
    let line := ((line.reverse.dropWhile blank).reverse).dropWhile blank
    let program := line.takeWhile fun c => !ends c
    let argument :=
      match line.drop program.length with
      | c :: rest => if blank c then (rest.dropWhile blank).takeWhile (· != Char.ofNat 0) else []
      | [] => []
    if cut || program = [] then none
    else some (String.ofList program, if argument = [] then none else some (String.ofList argument))
  | _ => none

/-- What a file starts. Interpreters that are scripts themselves are followed at most `depth`
times. -/
def launchOf (tree : Tree) : Nat → String → String → ByteArray → List String →
    Except IoError Launch
  | depth, calledAs, path, bytes, arguments =>
    match programOf? bytes with
    | some program => .ok ⟨program, calledAs, arguments⟩
    | none =>
      match interpreter? bytes with
      | none => .error .badFormat
      | some (program, argument) =>
        match depth with
        | 0 => .error .linkLoop
        | depth + 1 =>
          match runnableFile tree (pathOf program) with
          | .error e => .error e
          | .ok image =>
            launchOf tree depth program program image (argument.toList ++ path :: arguments)

/-- How many interpreters the system follows. -/
def interpreterLimit : Nat := 5

/-- What a command starts with parameters. -/
def prepare (tree : Tree) (searchPath : String) (environment : List (String × String))
    (words : List String) : Except IoError Launch :=
  match words with
  | [] => .error .notFound
  | name :: arguments =>
    match findProgram tree searchPath name with
    | .error e => .error e
    | .ok (path, bytes) =>
      if isOversized environment words then .error .tooManyArguments
      else launchOf tree interpreterLimit name path bytes arguments

/-- Whether a file is no script: it has a zero byte in its first line. -/
def isBinary (bytes : ByteArray) : Bool :=
  let front := (bytes.extract 0 80).toList
  front.take 4 = programMark.take 4 || (front.takeWhile (· != 10)).contains 0

/-- The session of a program at its start. -/
def Session.ofLaunch (environment : List (String × String)) (l : Launch) (pid : Pid)
    (start : Instant) : Session where
  dialect := .plain
  title := l.calledAs
  file := ""
  inline := false
  command := none
  line := 0
  reached := 0
  outer := 0
  origin := 1
  arguments := l.arguments
  parameters := (environment.map fun (name, v) =>
    ({ Parameter.fresh name with content := .text v, exported := true } : Parameter)).reverse
  frames := []
  functions := []
  callers := []
  running := none
  aliases := []
  remembered := []
  settings := []
  status := 0
  tested := false
  last := false
  loops := 0
  calls := 0
  traps := []
  trapping := []
  formerTraps := []
  layers := 0
  shell := pid
  process := pid
  subshells := 0
  jobs := .empty
  completions := []
  disabled := []
  captured := none
  coprocess := none
  lastBackground := none
  substituted := none
  channels := []
  directory := ""
  directories := []
  lastArgument := ""
  optionPlace := 0
  seed := pid * 7919 + start.nanos
  unlinked := []
  started := start

namespace Act

/-- The search path of the program. -/
def searchPath : Act String := do return (← parameter? "PATH").getD defaultSearchPath

/-- Turns the process into another program, which keeps what is open and what is exported. -/
def turnInto {α : Type} (environment : List (String × String)) (l : Launch) : Act α := do
  alter fun pid k => k.alterProcess pid fun p =>
    { p with
      descriptors := p.descriptors.filter fun d => d.1 < Kernel.keptFrom
      dispositions := p.dispositions.filter fun d => d.2 == .ignored }
  set (Session.ofLaunch environment l (← pid) (← now))
  let status ← callStatus (.launch l)
  gone status

end Act

end CrossBench.Shell
