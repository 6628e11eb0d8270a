import CrossBench.Shell.Builtin
import CrossBench.Shell.External

/-!
# Simple commands

A simple command sets parameters and runs what its first word means: a function, a command of the
shell, or a program. Its redirections and the parameters in front of it are there for this command
only, unless there is no command, or one that is special in the plain dialect.
-/

namespace CrossBench.Shell

/-- What the first word of a command means. -/
inductive Target where
  /-- A command of the shell; if `special`, its failure ends a script of the plain dialect. -/
  | command (name : String) (special : Bool)
  | function (f : Function)
  | program

/-- A command that has been found: what is to be run, its words, and the search path if it is not the
usual one. -/
structure Resolved where
  target : Target
  words : List String
  path : Option String

namespace Act

/-! ## Functions -/

/-- Puts back what a function has made its own. -/
def leaveFrame (frames : List Frame) : Act Unit := do
  let s ← get
  let wrong := (s.frames.head?.map fun f => f.own.filter fun o => !isName o.1).getD []
  modify fun s =>
    match s.frames with
    | frame :: _ =>
      let s := frame.own.foldl (fun (s : Session) (name, old) =>
        match old with
        | some p => s.put p
        | none => s.forget name) s
      { s with frames, settings := frame.settings.getD s.settings }
    | [] => { s with frames }
  if s.dialect = .plain then
    wrong.forM fun o => do
      modify fun s => { s with command := none }
      fail (o.1 ++ ": bad variable name")

/-- What is done at these events is not done in a function, unless it is asked for. -/
def untraced (s : Session) (f : Function) : List (String × String) :=
  let traced := f.traced || s.isOn "functrace"
  s.traps.filter fun t =>
    !(((t.1 = "DEBUG" || t.1 = "RETURN") && !traced) || (t.1 = "ERR" && !s.isOn "errtrace"))

/-- How deep functions may be nested. -/
def depthLimit : Dialect → Nat
  | .plain => 1000
  | .extended => 5000

/-- Runs a function. -/
def callFunction (f : Function) (arguments : List String) : Act Nat := do
  let s ← get
  let plain := s.dialect == .plain
  if depthLimit s.dialect ≤ s.frames.length then
    if plain then fail "Maximum function recursion depth (1000) reached"
    else throw (.gone (.signal 11))
  let index := s.find? "OPTIND"
  modify fun s : Session =>
    { s with
      arguments
      frames := ⟨[], none⟩ :: s.frames
      callers := ⟨f.name, f.file, s.line⟩ :: s.callers
      traps := untraced s f
      loops := 0
      calls := s.calls + 1
      file := if plain then s.file else f.file
      origin := if plain then f.line else 1
      outer := f.line
      optionPlace := if plain then 0 else s.optionPlace
      last := false }
  if plain then setParameter "OPTIND" "1"
  let result ← outcome do
    unless plain do
      modify fun s => { s with line := f.line }
      runTrapOf "DEBUG" "debug trap: "
    run f.body
  unless plain do runTrapOf "RETURN" "return trap: "
  leaveFrame s.frames
  modify fun after : Session =>
    let missing := s.traps.filter fun t =>
      (t.1 = "DEBUG" || t.1 = "RETURN" || t.1 = "ERR") && !(after.traps.any fun u => u.1 = t.1)
    let after := { after with traps := after.traps ++ missing }
    let after :=
      match plain, index with
      | true, some p => after.put p
      | _, _ => after
    { after with
      arguments := s.arguments
      callers := s.callers
      loops := s.loops
      calls := s.calls
      file := s.file
      origin := s.origin
      outer := s.outer
      line := s.line
      optionPlace := if plain then s.optionPlace else after.optionPlace
      last := s.last }
  match result with
  | .ok () => return (← get).status
  | .error (.return_ n) => return n
  | .error e => throw e

/-! ## Finding what is to be run -/

/-- What words mean. Functions, and being special, only count if nothing in front of the words says
otherwise. -/
def resolve (first : Bool) (path : Option String) : Nat → List String → Act Resolved
  | 0, words => return ⟨.program, words, path⟩
  | fuel + 1, words => do
    let s ← get
    let name := words.headD ""
    let special := specialCommands.contains name
    let function := s.functions.find? fun f => f.name = name
    match (if first && !(special && s.dialect = .plain) then function else none) with
    | some f => return ⟨.function f, words, path⟩
    | none =>
      let own : Resolved := ⟨.command name (special && first && s.dialect = .plain), words, path⟩
      if name = "command" then
        let o := Options.of "pvV" "" (words.drop 1)
        if o.wrong.isSome || o.has 'v' || o.has 'V' || o.rest.isEmpty then return own
        else resolve false (if o.has 'p' then some defaultSearchPath else path) fuel o.rest
      else if name = "builtin" && s.dialect = .extended then
        match words.drop 1 with
        | [] => return own
        | inner :: more =>
          if (shellCommands .extended).contains inner && !s.disabled.contains inner then resolve false path fuel (inner :: more)
          else return own
      else if (shellCommands s.dialect).contains name && !s.disabled.contains name then return own
      else return ⟨.program, words, path⟩

/-- The commands that look for others. -/
def lookupCommand (name : String) (arguments : List String) : Act Nat := do
  if name = "builtin" then
    match arguments with
    | [] => return 0
    | inner :: _ =>
      faultOf name (inner ++ ": not a shell builtin")
      return 1
  else
    match ← optionsOf name "pvV" "" arguments with
    | .error status => return status
    | .ok o =>
      if o.rest.isEmpty then return 0
      else
        let names := if (← get).dialect = .plain then o.rest.take 1 else o.rest
        let path ← searchPath
        describe name (o.has 'v' && !o.has 'V') (if o.has 'p' then defaultSearchPath else path) names

/-- Says why something could not be written that a command has told; whether all could. The extended dialect
does not look at that after some commands. -/
def sayUnwritten (name : String) : Act Bool := do
  let s ← get
  match s.unwritten with
  | none => return true
  | some e =>
    modify fun s => { s with unwritten := none }
    match s.dialect with
    | .plain =>
      fault (name ++ ": I/O error")
      return false
    | .extended =>
      if ["command", "kill", "ulimit", "jobs"].contains name then return true
      else
        faultOf name ("write error: " ++ e.plainMessage)
        return false

/-- Runs a command of the shell. A failure of one that is not special is only its status. -/
def runCommand (name : String) (special : Bool) (arguments : List String) : Act Nat := do
  let s ← get
  let plain := s.dialect = .plain
  if plain then modify fun s => { s with command := some name }
  let framed := plain && name = "local" && !special
  if framed then modify fun s => { s with frames := ⟨[], none⟩ :: s.frames }
  let result ← outcome (
    if name = "exec" then
      if arguments.isEmpty then return 0 else execWords arguments
    else if name = "command" ∨ name = "builtin" then lookupCommand name arguments
    else builtin name arguments)
  let wrote ← sayUnwritten name
  if plain then modify fun after => { after with command := s.command }
  if framed then leaveFrame s.frames
  match result with
  | .ok n => return if wrote then n else 1
  | .error (.failure n) => if plain && !special then return n else throw (.failure n)
  | .error e => throw e

/-- Runs what has been found. -/
def execute (r : Resolved) : Act Nat := do
  match r.target with
  | .function f => callFunction f (r.words.drop 1)
  | .command name special => runCommand name special (r.words.drop 1)
  | .program => runProgram r.words r.path

/-! ## Arguments -/

/-- The arguments that a word of a declaring command stands for. Arrays are set at once, and the name is
left; `before` are the words in front. -/
def declaredArgument (command : String) (before : List String) (w : Word) : Act (List String) := do
  match w.parts.getLast?, w.parts.head? with
  | some (.array elements), some (.text front _) =>
    let adds := front.endsWith "+="
    let name := String.ofList (front.toList.takeWhile continuesName)
    declareArray command (before.takeWhile fun o => o.startsWith "-" || o.startsWith "+") name adds elements
    return [name]
  | _, _ => if isAssigning w then return [← text w .assigned] else fields [w]

/-- Whether a word is the name of a command that declares parameters. -/
def isDeclaring (d : Dialect) (w : Word) : Bool :=
  match w.plainText? with
  | some name =>
    name = "export" || name = "readonly" || name = "local" ||
      (d = .extended && (name = "declare" || name = "typeset"))
  | none => false

/-- The arguments that the words of a command stand for. -/
def argumentsOf (words : List Word) : Act (List String) := do
  let d := (← get).dialect
  let front := words.takeWhile fun w => w.plainText? == some "command" || w.plainText? == some "builtin"
  match words.drop front.length with
  | first :: rest =>
    if isDeclaring d first then
      let command := (first.plainText?).getD ""
      let found ← rest.foldlM (fun found w => do
        return found ++ (← declaredArgument command found w)) ([] : List String)
      return (← fields (front ++ [first])) ++ found
    else fields words
  | [] => fields words

/-! ## Parameters in front of a command -/

/-- Sets a parameter for a command only; what it was before. -/
def lend (a : Assignment) (value : String) : Act (Option (String × Option Parameter)) := do
  match a with
  | .mk name _ _ _ _ =>
    let old := (← get).find? name
    if ← assign? name none value then
      alterParameter name fun p => { p with exported := true }
      return some (name, old)
    else return none

/-- Puts parameters back. -/
def giveBack (lent : List (String × Option Parameter)) : Act Unit :=
  lent.forM fun (name, old) => modify fun s =>
    match old with
    | some p => s.put p
    | none => s.forget name

/-- The value that an assignment sets. -/
def assignedValue (a : Assignment) : Act String := do
  match a with
  | .mk name subscript append value _ =>
    let v ← text value .assigned
    if append then appended name (← subscript.mapM (element name)) v else return v

/-- Makes assignments that stay, and shows them. -/
def setAll (fd : Nat) : List Assignment → Act Bool
  | [] => return true
  | a :: rest => do
    let ok ←
      match a with
      | .mk _ _ _ (.mk [.array _] _) written => do
        trace fd written
        makeAssignment a
      | .mk name subscript append value _ => do
        let e ← subscript.mapM (element name)
        let v ← text value .assigned
        traceAssignment fd a v
        let v ← if append then appended name e v else pure v
        assign? name e v
    if ok then setAll fd rest else return false

/-! ## The two dialects -/

/-- The status of a command without words. -/
def bareStatus : Act Nat := do return (← get).substituted.getD 0

/-- Sets the status of a command, and the statuses of the stages of which it was the only one. -/
def setOutcome (status : Nat) : Act Unit := do
  setStatus status
  if (← get).dialect = .extended then
    modify fun s =>
      s.put { Parameter.fresh "PIPESTATUS" with content := .indexed [(0, toString status)] }

/-- A simple command of the plain dialect. -/
def plainSimple (assignments : List Assignment) (words : List Word)
    (redirections : List Redirection) : Act Nat := do
  let arguments ← argumentsOf words
  let r ← resolve true none (arguments.length + 1) arguments
  let special :=
    match r.target with
    | .command _ special => special
    | _ => false
  let isExec :=
    match r.target with
    | .command "exec" _ => true
    | _ => false
  let (ok, kept) ← redirectAll redirections []
  if !ok then
    restore kept
    setStatus 2
    if special then throw (.failure 2) else return 2
  else
    let fd := traceDescriptor kept
    let result ← outcome (do
      if arguments.isEmpty then
        let shown ← assignments.mapM fun a => do
          let v ← assignedValue a
          match a with
          | .mk name .. => assign name v
          return shownAssignment (← get) a v
        unless shown.isEmpty do trace fd (" ".intercalate shown)
        bareStatus
      else
        let exports := isExec && 1 < r.words.length
        let given ← assignments.mapM fun a => do
          let v ← assignedValue a
          let shown := shownAssignment (← get) a v
          if special then
            match a with
            | .mk name .. =>
              assign name v
              if exports then alterParameter name fun p => { p with exported := true }
              return (shown, none)
          else return (shown, ← lend a v)
        let lent := given.filterMap (·.2)
        trace fd (" ".intercalate (given.map (·.1) ++ arguments))
        let status ← outcome (execute r)
        giveBack lent.reverse
        match status with
        | .ok n => return n
        | .error e => throw e)
    if isExec && r.words.length ≤ 1 && result.isOk then release kept else restore kept
    match result with
    | .ok n => return n
    | .error e => throw e

/-- A simple command of the extended dialect. -/
def extendedSimple (assignments : List Assignment) (words : List Word)
    (redirections : List Redirection) : Act Nat := do
  let texts ← argumentsOf words
  if texts.isEmpty then
    unless ← setAll 2 assignments do
      setStatus 1
      throw .discard
    let status ← bareStatus
    let (ok, kept) ← redirectAll redirections []
    restore kept
    return if ok then status else 1
  else
    let given ← assignments.mapM fun a => do
      let v ← assignedValue a
      traceAssignment 2 a v
      lend a v
    let lent := given.filterMap id
    traceWords 2 texts
    let r ← resolve true none (texts.length + 1) texts
    let isExec :=
      match r.target with
      | .command "exec" _ => true
      | _ => false
    let result ← outcome (do
      let (ok, kept) ← redirectAll redirections []
      if !ok then
        restore kept
        return 1
      else
        let result ← outcome (execute r)
        if isExec && r.words.length ≤ 1 then release kept else restore kept
        match result with
        | .ok n => return n
        | .error e => throw e)
    giveBack lent.reverse
    modify fun s => { s with lastArgument := texts.getLastD "" }
    match result with
    | .ok n => return n
    | .error e => throw e

/-- Runs a simple command. -/
def simple (line : Nat) (assignments : List Assignment) (words : List Word)
    (redirections : List Redirection) : Act Unit := do
  modify fun s => { s with line, substituted := none }
  let s ← get
  let result ← outcome (
    match s.dialect with
    | .plain => plainSimple assignments words redirections
    | .extended => extendedSimple assignments words redirections)
  closeChannels s.channels
  match result with
  | .ok n => setOutcome n
  | .error e => throw e

end Act

end CrossBench.Shell
