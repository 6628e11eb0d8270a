import CrossBench.Shell.Command.Complete
import CrossBench.Shell.Command.Control
import CrossBench.Shell.Command.Directory
import CrossBench.Shell.Command.Input
import CrossBench.Shell.Command.Process
import CrossBench.Shell.Print.Escape
import CrossBench.Shell.Print.Format
import CrossBench.Shell.Script
import CrossBench.Shell.Test

/-!
# The shell's own commands

`builtin` runs a command of the shell by its name. What replaces the shell or looks for another
command is left to whoever runs simple commands.
-/

namespace CrossBench.Shell.Act

/-- Tells something; the status of a command that does only that. -/
def put (text : String) : Act Nat := do
  tell text
  return 0

/-- The command `echo`. -/
def echoCommand (arguments : List String) : Act Nat := do
  match (← get).dialect with
  | .plain => put (plainEcho arguments)
  | .extended =>
    put (optionEcho (← get).isWide Escapes.extendedEcho (← isOn "xpg_echo") true arguments)

/-- Complains of what could not be printed. The extended dialect first writes the lines that are
complete; what is left to write. -/
def printComplaints (k : Printing) (printed : Printed) : Act String := do
  if k = .plain then
    printed.complaints.forM (faultOf "printf")
    return printed.text
  else
    let (parts, last) := printed.parts
    let pending ← parts.foldlM (fun pending (text, complaint) => do
      let cs := (pending ++ text).toList.reverse
      let unfinished := cs.takeWhile (· != '\n')
      let _ ← put (String.ofList (cs.drop unfinished.length).reverse)
      faultOf "printf" complaint
      return String.ofList unfinished.reverse) ""
    return pending ++ last

/-- The command `printf`. -/
def printfCommand (arguments : List String) : Act Nat := do
  let d := (← get).dialect
  let usage : Act Nat := do
    match d with
    | .plain => fail "usage: printf format [arg ...]"
    | .extended =>
      complain ("printf: usage: " ++ usageOf "printf")
      return 2
  match ← optionsOf "printf" "" (if d = .plain then "" else "v") arguments with
  | .error status => return status
  | .ok o =>
    match o.rest with
    | [] => usage
    | form :: more =>
      let k : Printing := if d = .plain then .plain else .extended
      let s ← get
      let printed := k.print ⟨s.isWide, ← now, s.started, s.zone⟩ form more
      match o.value? 'v' with
      | some name =>
        let (n, subscript, _, _) := dividedName name
        if !isName n then
          faultOf "printf" ("\x60" ++ name ++ "': not a valid identifier")
          return 2
        else
          let e ← subscript.mapM fun t => element n (.ofQuoted t)
          printed.complaints.forM (faultOf "printf")
          let ok ← assign? n e printed.text
          return if ok then printed.status else 1
      | none =>
        let left ← printComplaints k printed
        let status ← put left
        return if status = 0 then printed.status else status

/-- The place from which the function that is under way, or one around it, has been called. -/
def callerCommand (arguments : List String) : Act Nat := do
  let s ← get
  match ← optionsOf "caller" "" "" arguments with
  | .error status => return status
  | .ok o =>
    match s.callers, o.rest with
    | [], _ => return 1
    | c :: around, [] =>
      put (toString c.line ++ " " ++ ((around.head?.map (·.file)).getD "NULL") ++ "\n")
    | callers, a :: _ =>
      match Arithmetic.integer? (some 10) a with
      | none =>
        faultOf "caller" (a ++ ": invalid number")
        complain ("caller: usage: " ++ usageOf "caller")
        return 2
      | some n =>
        if n < 0 || s.frames.isEmpty then return 1
        else
          match callers.drop n.toNat with
          | c :: around :: _ =>
            put (toString c.line ++ " " ++ around.name ++ " " ++ around.file ++ "\n")
          | _ => return 1

/-- The command `enable`. -/
def enableCommand (arguments : List String) : Act Nat := do
  match ← optionsOf "enable" "adnps" "f" arguments with
  | .error status => return status
  | .ok o =>
    let all := (shellCommands .extended).mergeSort fun a b => a ≤ b
    let off := (← get).disabled
    let isSpecialHere (n : String) : Bool :=
      n = "source" || (n ≠ "local" && specialCommands.contains n)
    if o.rest.isEmpty || o.has 'p' then
      let all := if o.has 's' then all.filter isSpecialHere else all
      let shown := all.filter fun n => o.has 'a' || off.contains n == o.has 'n'
      put (String.join (shown.map fun n =>
        "enable " ++ (if off.contains n then "-n " else "") ++ n ++ "\n"))
    else
      o.rest.foldlM (fun status n => do
        if o.has 'f' then
          let file := (o.value? 'f').getD ""
          faultOf "enable" ("cannot open shared object " ++ file ++ ": " ++ file
            ++ ": cannot open shared object file: No such file or directory")
          return 1
        else if !all.contains n then
          faultOf "enable" (n ++ ": not a shell builtin")
          return 1
        else if o.has 'd' then
          faultOf "enable" (n ++ ": not dynamically loaded")
          return 1
        else
          modify fun s =>
            let others := s.disabled.filter (· ≠ n)
            { s with disabled := if o.has 'n' then n :: others else others }
          return status) 0

/-- The command `help`, which knows how commands are used. -/
def helpCommand (arguments : List String) : Act Nat := do
  match ← optionsOf "help" "dms" "" arguments with
  | .error status => return status
  | .ok o =>
    let all := (shellCommands .extended).mergeSort fun a b => a ≤ b
    let shown := all.filter fun n => o.rest.any fun a => n.startsWith a
    let exact := all.filter o.rest.contains
    let shown := if exact.isEmpty then shown else exact
    if o.rest.isEmpty then return 0
    else if shown.isEmpty then
      let last := o.rest.getLastD ""
      faultOf "help" ("no help topics match \x60" ++ last
        ++ "'.  Try \x60help help' or \x60man -k " ++ last ++ "' or \x60info " ++ last ++ "'.")
      return 1
    else put (String.join (shown.map fun n => n ++ ": " ++ usageOf n ++ "\n"))

/-- Refuses what needs jobs that can be stopped. -/
def jobControlCommand (command : String) : Act Nat := do
  match (← get).dialect with
  | .plain => fail "No current job"
  | .extended =>
    faultOf command "no job control"
    return 1

/-- Lists the parameters as they are set. -/
def listAll : Act Nat := do put (← parameterLines)

/-- Runs a command of the shell. -/
def builtin (name : String) (arguments : List String) : Act Nat := do
  match name with
  | ":" => return 0
  | "true" => return 0
  | "false" => return 1
  | "echo" => echoCommand arguments
  | "printf" => printfCommand arguments
  | "test" => test name arguments
  | "[" => test name arguments
  | "exit" => exitCommand arguments
  | "logout" =>
    faultOf name "not login shell: use \x60exit'"
    return 1
  | "return" => returnCommand arguments
  | "break" => breakCommand arguments
  | "continue" => continueCommand arguments
  | "shift" => shiftCommand arguments
  | "set" => setCommand arguments
  | "cd" => cdCommand name arguments
  | "chdir" => cdCommand name arguments
  | "pwd" => pwdCommand arguments
  | "pushd" => pushdCommand arguments
  | "popd" => popdCommand arguments
  | "dirs" => dirsCommand arguments
  | "export" => declareCommand listAll name arguments
  | "readonly" => declareCommand listAll name arguments
  | "local" => declareCommand listAll name arguments
  | "declare" => declareCommand listAll name arguments
  | "typeset" => declareCommand listAll name arguments
  | "unset" => unsetCommand arguments
  | "let" => letCommand arguments
  | "shopt" => shoptCommand arguments
  | "read" => readCommand arguments
  | "mapfile" => mapfileCommand name arguments
  | "readarray" => mapfileCommand name arguments
  | "getopts" => getoptsCommand arguments
  | "kill" => killCommand arguments
  | "wait" => waitCommand arguments
  | "jobs" => jobsCommand arguments
  | "trap" => trapCommand arguments
  | "umask" => umaskCommand arguments
  | "ulimit" => ulimitCommand arguments
  | "times" => timesCommand
  | "type" => typeCommand arguments
  | "hash" => hashCommand arguments
  | "alias" => aliasCommand arguments
  | "unalias" => unaliasCommand arguments
  | "eval" => evalCommand arguments
  | "." => sourceCommand name arguments
  | "source" => sourceCommand name arguments
  | "caller" => callerCommand arguments
  | "compgen" => compgenCommand arguments
  | "complete" => completeCommand arguments
  | "compopt" => compoptCommand arguments
  | "help" => helpCommand arguments
  | "bind" =>
    faultOf name "warning: line editing not enabled"
    return 0
  | "enable" => enableCommand arguments
  | "bg" => jobControlCommand name
  | "fg" => jobControlCommand name
  | "suspend" =>
    faultOf name "cannot suspend: no job control"
    return 1
  | "disown" => disownCommand arguments
  | _ => return 0

end CrossBench.Shell.Act
