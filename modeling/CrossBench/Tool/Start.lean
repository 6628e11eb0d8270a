import CrossBench.Shell.External
import CrossBench.Shell.Print.Escape
import CrossBench.Tool.Moment

/-!
# Starting other programs

The programs that start others: in other ways, or for a limited time.
-/

namespace CrossBench.Tool

open Shell Shell.Act

/-- What words would start. -/
def launchOf (words : List String) : Act (Except IoError Launch) := do
  let t ← tree
  return prepare t (← searchPath) (← get).environment words

/-- Starts a process for words. -/
def spawn (words : List String) : Act (Except IoError Pid) := do
  match ← launchOf words with
  | .error e => return .error e
  | .ok l => return .ok (← fork (.start (← get).environment l))

/-- Runs words and waits for their end. -/
def runWords (words : List String) : Act (Except IoError WaitStatus) := do
  match ← spawn words with
  | .error e => return .error e
  | .ok child => return .ok (← waitFor child)

/-- Starts a process in which a shell runs a command, in an environment. -/
def spawnShellIn (environment : List (String × String)) (command : String) : Act (Except IoError Pid) := do
  let t ← tree
  match prepare t (← searchPath) environment ["/bin/sh", "-c", command] with
  | .error e => return .error e
  | .ok l => return .ok (← fork (.start environment { l with calledAs := "sh" }))

/-- Starts a process in which a shell runs a command. -/
def spawnShell (command : String) : Act (Except IoError Pid) := do
  spawnShellIn (← get).environment command

/-- Starts a command in a shell; what it writes is read from a descriptor. -/
def startReading (command : String) : Act (Except IoError (Pid × Nat)) := do
  let (reading, writing) ← pipe
  let kept ← freeFrom Kernel.keptFrom
  let had ← duplicate 1 kept
  let _ ← duplicate writing 1
  close writing
  let started ← spawnShell command
  if had then
    let _ ← duplicate kept 1
    close kept
  else close 1
  return started.map fun pid => (pid, reading)

/-- What a command in a shell writes. -/
def outputOf (command : String) : Act ByteArray := do
  match ← startReading command with
  | .error _ => return .empty
  | .ok (pid, fd) =>
    let bytes ← readAll fd
    close fd
    let _ ← waitFor pid
    return bytes.toOption.getD .empty

/-- The exit code for words that cannot be run. -/
def refusalStatus (e : IoError) : Nat := if e = .notFound then 127 else 126

/-- Turns the process into what words mean, in an environment. -/
def become (label : String) (environment : List (String × String)) (path : Option String)
    (words : List String) : Act Nat := do
  let t ← tree
  match prepare t (path.getD defaultSearchPath) environment words with
  | .ok l => turnInto environment l
  | .error e => stop (refusalStatus e) (label ++ cited (words.headD "") ++ ": " ++ e.plainMessage)

/-- Turns the process into what words mean, with its own parameters. -/
def becomeCommand (label : String) (words : List String) : Act Nat := do
  become label (← get).environment (← parameter? "PATH") words

/-! ## In other ways -/

/-- The least and the greatest number of how nice a process is. -/
def nicest : Int × Int := (-20, 19)

/-- Runs a program that is to be nice to others. -/
def nice : Act Nat := do
  let arguments := (← get).arguments
  let arguments :=
    match arguments with
    | a :: rest =>
      match a.toList with
      | '-' :: c :: cs =>
        if c.isDigit || ((c = '-' || c = '+') && cs.head?.any Char.isDigit) then
          "-n" :: String.ofList (c :: cs) :: rest
        else arguments
      | _ => arguments
    | [] => []
  modify fun s => { s with arguments }
  let g ← given { valued := "n", valuedWords := [("adjustment", "n")], anywhere := false, usage := 125 }
  let change : Int ←
    match g.value? "n" with
    | none => pure 10
    | some text =>
      let digits := if text.startsWith "-" || text.startsWith "+" then (text.drop 1).toString else text
      match decimal? digits with
      | some n => pure (if text.startsWith "-" then -(n : Int) else n)
      | none => stop 125 ("invalid adjustment " ++ cited text)
  let present : Int ← look fun pid k => (k.process pid).niceness
  match g.operands with
  | [] =>
    if g.has "n" then misuse 125 "a command must be given with an adjustment"
    else
      out (toString present ++ "\n")
      return 0
  | words =>
    let wanted := max nicest.1 (min nicest.2 (present + change))
    if wanted < present then say ("cannot set niceness: " ++ IoError.denied.plainMessage)
    else alter fun pid k => k.alterProcess pid fun p => { p with niceness := wanted }
    becomeCommand "" words

/-- Runs a program that does not end when its terminal goes. -/
def nohup : Act Nat := do
  let g ← given { anywhere := false, usage := 125 }
  match g.operands with
  | [] => misuse 125 "missing operand"
  | words =>
    alter fun pid k => k.alterProcess pid fun p => { p with dispositions := (1, .ignored) :: p.dispositions }
    let t ← tree
    match prepare t ((← parameter? "PATH").getD defaultSearchPath) (← get).environment words with
    | .ok l => turnInto (← get).environment l
    | .error e =>
      stop (refusalStatus e) ("failed to run command " ++ quoted (words.headD "") ++ ": " ++ e.plainMessage)

/-- Runs a program whose output is collected in other portions. Programs here write at once, so that only
the call is looked at. -/
def stdbuf : Act Nat := do
  let g ← given
    { valued := "ioe", anywhere := false, usage := 125
      valuedWords := [("input", "i"), ("output", "o"), ("error", "e")] }
  for (option, value) in g.options do
    let text := String.ofList (value.toList.dropWhile isSpace)
    if option = "i" && text.startsWith "L" then misuse 125 "line buffering stdin is meaningless"
    if text ≠ "L" then
      match scaled? "EGkKMPTYZ" text with
      | none => stop 125 ("invalid mode " ++ cited text)
      | some n =>
        if 18446744073709551615 < n then
          stop 125 ("invalid mode " ++ cited text ++ ": Value too large for defined data type")
  match g.operands with
  | [] => misuse 125 "missing operand"
  | words =>
    if g.options.isEmpty then misuse 125 "you must specify a buffering mode option"
    else becomeCommand "failed to run command " words

/-- Turns the process into a program, for the programs that say what fails without quotes. -/
def execute (words : List String) : Act Nat := do
  match ← launchOf words with
  | .ok l => turnInto (← get).environment l
  | .error e => stop (refusalStatus e) ("failed to execute " ++ words.headD "" ++ ": " ++ e.plainMessage)

/-- Runs a program in a session of its own. -/
def setsid : Act Nat := do
  let g ← given
    { letters := "cfw", anywhere := false, words := [("ctty", "c"), ("fork", "f"), ("wait", "w")]
      edition := "util-linux 2.38.1)" }
  match g.operands with
  | [] => misuse 1 "no command specified"
  | words =>
    if g.has "f" then
      match ← spawn words with
      | .error e =>
        say ("failed to execute " ++ words.headD "" ++ ": " ++ e.plainMessage)
        return if g.has "w" then refusalStatus e else 0
      | .ok child => if g.has "w" then return statusNumber (← waitFor child) else return 0
    else execute words

/-- The classes of access to disks, in the order of their numbers. -/
def accessClasses : List String := ["none", "realtime", "best-effort", "idle"]

/-- Runs a program with another rank among those that use disks. -/
def ionice : Act Nat := do
  let g ← given
    { letters := "t", valued := "cnpPu", anywhere := false
      words := [("ignore", "t")]
      valuedWords := [("class", "c"), ("classdata", "n"), ("pid", "p"), ("pgid", "P"), ("uid", "u")]
      edition := "util-linux 2.38.1)" }
  let rank ← (g.value? "c").mapM fun text => do
    match decimal? text with
    | some n => return n
    | none =>
      match accessClasses.findIdx? (· = text.toLower) with
      | some n => return n
      | none => stop 1 ("unknown scheduling class: '" ++ text ++ "'")
  match g.operands with
  | [] =>
    if g.options.isEmpty then
      out "none: prio 0\n"
      return 0
    else misuse 1 "bad usage"
  | words =>
    if rank.any (3 < ·) then say ("unknown prio class " ++ toString (rank.getD 0))
    if rank.any (fun n => n = 1 || 3 < n) && !g.has "t" then
      stop 1 ("ioprio_set failed: " ++ IoError.notPermitted.plainMessage)
    else execute words

/-! ## Limited time -/

/-- The processes that a process has started, at any depth. -/
def descendants (k : Kernel) : Nat → Pid → List Pid
  | 0, _ => []
  | depth + 1, parent =>
    let children := ((List.range k.processes.size).map (· + Kernel.firstPid)).filter fun pid =>
      (k.process pid).parent = parent && pid ≠ parent
    children.flatMap fun pid => pid :: descendants k depth pid

/-- The number of a signal that is told by its number or its name. -/
def signalOf? (text : String) : Option Nat :=
  match decimal? text with
  | some n => if n < 65 then some n else none
  | none =>
    let name := text.map Char.toUpper
    Signal.number? (if name.startsWith "SIG" then String.ofList (name.toList.drop 3) else name)

/-- Waits until a process has ended, or some time has gone by. -/
def waitAtMost (child : Pid) (nanos : Nat) : Act (Option WaitStatus) := do
  let wake := (← now).plus nanos
  alter fun pid k => k.alterProcess pid fun p => { p with wakes := some wake }
  step fun pid k =>
    match (k.process child).ended with
    | some status => some (some status, k.alterProcess pid fun p => { p with wakes := none })
    | none =>
      if wake.later k.now then none
      else some (none, k.alterProcess pid fun p => { p with wakes := none })

/-- Runs a program for some time at most. -/
def timeout : Act Nat := do
  let g ← given
    { letters := "v", valued := "ks", anywhere := false, usage := 125
      words := [("preserve-status", "preserve"), ("foreground", "f"), ("verbose", "v")]
      valuedWords := [("kill-after", "k"), ("signal", "s")] }
  let signal ←
    match g.value? "s" with
    | none => pure Signal.terminate
    | some text =>
      match signalOf? text with
      | some n => pure n
      | none => misuse 125 (cited text ++ ": invalid signal")
  let pause (text : String) : Act Nat := do
    match pauseOf? text with
    | some n => return n
    | none => misuse 125 ("invalid time interval " ++ cited text)
  let killAfter ← (g.value? "k").mapM pause
  match g.operands with
  | [] => giveHint 125
  | [_] => giveHint 125
  | time :: words =>
    let nanos ← pause time
    match ← spawn words with
    | .error e =>
      stop (refusalStatus e) ("failed to run command " ++ cited (words.headD "") ++ ": " ++ e.plainMessage)
    | .ok child =>
      let send (number : Nat) : Act Unit := do
        if g.has "v" then
          say ("sending signal " ++ (Signal.name? number).getD (toString number) ++ " to command "
            ++ cited (words.headD ""))
        alter fun pid k =>
          let all := if g.has "f" then [child] else descendants k 1000 pid
          all.foldl (fun k p => (k.signal p number).signal p Signal.resume) k
      let ended (status : WaitStatus) : Act Nat := do
        match status.signal? with
        | some n => throw (.gone (.signal n))
        | none => return statusNumber status
      /- What is left when the time is over and the command has ended. -/
      let over_ (status : WaitStatus) : Nat :=
        if g.has "preserve" || status.signal? = some Signal.kill then statusNumber status else 124
      /- A signal that cannot be ignored ends this program with the command. -/
      let strike (number : Nat) : Act Unit := do
        send number
        if number = Signal.kill && !g.has "f" then throw (.gone (.signal Signal.kill))
      let early ← if nanos = 0 then (some <$> waitFor child) else waitAtMost child nanos
      match early with
      | some status => ended status
      | none =>
        strike signal
        let after ←
          match killAfter.filter (0 < ·) with
          | none => some <$> waitFor child
          | some n => waitAtMost child n
        match after with
        | some status => return over_ status
        | none =>
          strike Signal.kill
          return over_ (← waitFor child)

/-- Sends signals to processes. -/
def kill : Act Nat := do
  let s ← get
  let (signal, pids) : Option Nat × List String :=
    match s.arguments with
    | "-s" :: name :: rest => (signalOf? name, rest)
    | "-n" :: name :: rest => (signalOf? name, rest)
    | "--" :: rest => (some Signal.terminate, rest)
    | a :: rest =>
      if a.startsWith "-" then (signalOf? (String.ofList (a.toList.drop 1)), rest)
      else (some Signal.terminate, s.arguments)
    | [] => (some Signal.terminate, [])
  match signal, pids with
  | none, _ => stop 1 ("unknown signal " ++ s.arguments.headD "")
  | some _, [] => stop 1 "not enough arguments"
  | some number, pids =>
    forAll pids fun text => do
      match decimal? text with
      | none =>
        say ("cannot find process \"" ++ text ++ "\"")
        return false
      | some child =>
        let alive ← look fun _ k => k.isAlive child
        if alive then
          alter fun _ k => if number = 0 then k else k.signal child number
          return true
        else
          say ("sending signal to " ++ text ++ " failed: " ++ IoError.noProcess.plainMessage)
          return false

end CrossBench.Tool
