import CrossBench.Files.Permission
import CrossBench.Shell.Command.Jobs
import CrossBench.Shell.Quoting

/-!
# Commands for processes

Sending signals, arranging what is to be done when one comes, and the bits that new files do not
get.
-/

namespace CrossBench.Shell

/-- The number of the signal that a text names, or is. In the extended dialect a name may have three
letters in front, and its letters may be small. -/
def signalNamed? (d : Dialect) (s : String) : Option Nat :=
  match decimal? s with
  | some n => if n ≤ 64 then some n else none
  | none =>
    let name := s.map Char.toUpper
    let name :=
      if d = .extended && name.startsWith "SIG" then String.ofList (name.toList.drop 3) else name
    if name = "EXIT" then some 0
    else if name = "POLL" then some 29
    else Signal.number? name

namespace Act

/-- Sends a signal to a process; whether there is one of that number. The plain dialect leaves one
that has ended in place until its end has been seen. -/
def sendSignal (target : Int) (number : Nat) : Act Bool := do
  let s ← get
  let unseen :=
    if s.dialect = .plain then
      ((s.jobs.jobs.filter fun b => !b.seen).map fun b => b.stages.map (·.1)).flatten
    else []
  step fun _ k =>
  if 0 < target then
    let n := target.toNat
    if k.isAlive n then some (true, if number = 0 then k else k.signal n number)
    else some (unseen.contains n, k)
  else if target < -1 then some (false, k)
  else
    let everyone := (List.range k.processes.size).map (· + Kernel.firstPid)
    let alive := everyone.filter k.isAlive
    some (true, if number = 0 then k else alive.foldl (fun k n => k.signal n number) k)

/-- The list of all signals. -/
def signalList (d : Dialect) : String :=
  match d with
  | .plain => "EXIT\n" ++ String.join (Signal.table.map fun e => e.1 ++ "\n")
  | .extended =>
    String.join (Signal.table.zipIdx.map fun (e, i) =>
      let n := toString (i + 1)
      String.ofList (List.replicate (2 - n.length) ' ') ++ n ++ ") SIG" ++ e.1
        ++ (if (i + 1) % 5 = 0 then "\n" else "\t"))

/-- What names a signal: its name, or the number that a process has been ended by it with. -/
def describeSignals (arguments : List String) : Act Nat := do
  let d := (← get).dialect
  if arguments.isEmpty then
    tell (signalList d)
    return 0
  else
    arguments.foldlM (fun status a => do
      let refuse (why : String) : Act Nat := do
        match d with
        | .plain => fail why
        | .extended =>
          faultOf "kill" (a ++ ": invalid signal specification")
          return 1
      match decimal? a with
      | some n =>
        let n := if 128 < n then n - 128 else n
        match Signal.name? n with
        | some name =>
          tell (name ++ "\n")
          return status
        | none => refuse ("invalid signal number or exit status: " ++ a)
      | none =>
        match d, signalNamed? d a with
        | .extended, some n =>
          tell (toString n ++ "\n")
          return status
        | _, _ => refuse ("Illegal number: " ++ a)) 0

/-- Sends a signal to what an argument means; whether it has been sent. -/
def sendNamed (number : Nat) (a : String) : Act Bool := do
  let d := (← get).dialect
  if a.startsWith "%" then
    match d, ← jobNamed a with
    | .plain, .error why => fail (why.getD "")
    | .extended, .error why =>
      faultOf "kill" (why.getD (a ++ ": no such job"))
      return false
    | .plain, .ok b =>
      if ← sendSignal (-((b.stages.head?.map (·.1)).getD 0 : Int)) number then return true
      else
        fault "No such process\n"
        return false
    | .extended, .ok b =>
      b.stages.forM fun s => do
        let _ ← sendSignal (s.1 : Int) number
      return true
  else
    match Arithmetic.integer? (some 10) a, d with
    | none, .plain => fail ("Illegal number: " ++ a)
    | none, .extended =>
      faultOf "kill" (a ++ ": arguments must be process or job IDs")
      return false
    | some target, d =>
      if ← sendSignal target number then return true
      else
        match d with
        | .plain => fault "No such process\n"
        | .extended => faultOf "kill" ("(" ++ a ++ ") - No such process")
        return false

/-- Sends a signal to what arguments mean. The extended dialect is content if one of them could be
reached. -/
def sendAll (number : Nat) (targets : List String) : Act Nat := do
  let sent ← targets.mapM (sendNamed number)
  let ok := if (← get).dialect = .plain then sent.all id else sent.any id
  return if ok then 0 else 1

/-- The command `kill`. -/
def killCommand (arguments : List String) : Act Nat := do
  let d := (← get).dialect
  let usage : Act Nat := do
    match d with
    | .plain =>
      fail "Usage: kill [-s sigspec | -signum | -sigspec] [pid | job]... or\nkill -l [exitstatus]"
    | .extended =>
      complain ("kill: usage: " ++ usageOf "kill")
      return 2
  let send (number : Nat) (targets : List String) : Act Nat :=
    if targets.isEmpty then usage else sendAll number targets
  let refuse (name : String) : Act Nat := do
    match d with
    | .plain => fail ("invalid signal number or name: " ++ name)
    | .extended =>
      faultOf "kill" (name ++ ": invalid signal specification")
      return 1
  match arguments with
  | [] => usage
  | first :: rest =>
    match first.toList with
    | '-' :: c :: cs =>
      let word := String.ofList (c :: cs)
      if word = "-" then send Signal.terminate rest
      else if word = "l" || (d = .extended && word = "L") then describeSignals rest
      else
        match signalNamed? d word with
        | some n => send n (if rest.head? = some "--" then rest.drop 1 else rest)
        | none =>
          if c = 's' || (d = .extended && c = 'n') then
            let (name, rest) :=
              if cs = [] then (rest.headD "", rest.drop 1) else (String.ofList cs, rest)
            match signalNamed? d name with
            | some n => send n (if rest.head? = some "--" then rest.drop 1 else rest)
            | none => refuse name
          else
            match d with
            | .plain => fail ("Illegal option -" ++ String.singleton c)
            | .extended => refuse word
    | _ => send Signal.terminate arguments

/-! ## Traps -/

/-- The events that are no signals. -/
def otherEvents (d : Dialect) : List String :=
  match d with
  | .plain => []
  | .extended => ["ERR", "DEBUG", "RETURN"]

/-- The event that a text names. -/
def eventNamed? (d : Dialect) (s : String) : Option String :=
  if (otherEvents d).contains (s.map Char.toUpper) then some (s.map Char.toUpper)
  else
    (signalNamed? d s).map fun n => if n = 0 then "EXIT" else (Signal.name? n).getD (toString n)

/-- The lines that say what is to be done at events. -/
def trapLines (events : List String) : Act String := do
  let s ← get
  let order (e : String) : Nat :=
    if e = "EXIT" then 0 else (Signal.number? e).getD 100
  let known := if s.formerTraps.isEmpty then s.traps else s.formerTraps
  let sorted := known.mergeSort fun a b => order a.1 ≤ order b.1
  let shown := sorted.filter fun t => events.isEmpty || events.contains t.1
  return String.join (shown.map fun (e, text) =>
    match s.dialect with
    | .plain => "trap -- " ++ Quoting.singleDouble text ++ " " ++ e ++ "\n"
    | .extended =>
      "trap -- " ++ Quoting.single text ++ " "
        ++ (if (Signal.number? e).isSome then "SIG" ++ e else e) ++ "\n")

/-- Arranges what is to be done at events. -/
def arrange (text : Option String) (events : List String) : Act Nat := do
  let d := (← get).dialect
  match events with
  | [] => return 0
  | a :: rest =>
    match eventNamed? d a with
    | some e =>
      setTrap e text
      arrange text rest
    | none =>
      match d with
      | .plain =>
        complain ("trap: " ++ a ++ ": bad trap")
        return 1
      | .extended =>
        faultOf "trap" (a ++ ": invalid signal specification")
        let _ ← arrange text rest
        return 1

/-- The command `trap`. -/
def trapCommand (arguments : List String) : Act Nat := do
  let d := (← get).dialect
  let options : Except Nat Options ←
    if arguments.head? = some "-" then pure (.ok ⟨[], arguments, none⟩)
    else optionsOf "trap" (if d = .plain then "" else "lp") "" arguments
  match options with
  | .error status => return status
  | .ok o =>
    if o.has 'l' then
      tell (signalList d)
      return 0
    else if o.has 'p' || o.rest.isEmpty then
      tell (← trapLines (o.rest.filterMap (eventNamed? d)))
      return 0
    else
      match o.rest with
      | [a] =>
        if d = .extended && (eventNamed? d a).isNone then
          complain ("trap: usage: " ++ usageOf "trap")
          return 2
        else arrange none [a]
      | a :: events =>
        if (decimal? a).isSome then arrange none (a :: events)
        else if a = "-" then arrange none events
        else arrange (some a) events
      | [] => return 0

/-! ## Limits -/

/-- The bits that are left to new files, in words. -/
def allowedText (mask : Nat) : String :=
  let part (n : Nat) : String :=
    (if n / 4 % 2 = 0 then "r" else "") ++ (if n / 2 % 2 = 0 then "w" else "")
      ++ (if n % 2 = 0 then "x" else "")
  "u=" ++ part (mask / 64) ++ ",g=" ++ part (mask / 8) ++ ",o=" ++ part mask

/-- The command `umask`. -/
def umaskCommand (arguments : List String) : Act Nat := do
  let d := (← get).dialect
  match ← optionsOf "umask" (if d = .plain then "S" else "pS") "" arguments with
  | .error status => return status
  | .ok o =>
    let mask ← look fun pid k => (k.process pid).mask
    match o.rest with
    | [] =>
      let shown := if o.has 'S' then allowedText mask else Permission.digits 4 mask
      tell
        ((if o.has 'p' then (if o.has 'S' then "umask -S " else "umask ") else "") ++ shown ++ "\n")
      return 0
    | a :: _ =>
      let refuse (plain extended : String) : Act Nat := do
        match d with
        | .plain => fail plain
        | .extended =>
          faultOf "umask" extended
          return 1
      let set (mask : Nat) : Act Nat := do
        alter fun pid k => k.alterProcess pid fun p => { p with mask := mask % 0o1000 }
        return 0
      if a.startsWith "0" || (a.toList.headD 'x').isDigit then
        match Permission.octal? a.toList with
        | some n => set n
        | none => refuse ("Illegal number: " ++ a) (a ++ ": octal number out of range")
      else
        match Permission.parse? a with
        | some changes => set (0o777 - Permission.applyAll changes 0 false (0o777 - mask) % 0o1000)
        | none =>
          refuse ("Illegal mode: " ++ a)
            ("\x60" ++ String.ofList (a.toList.take 1) ++ "': invalid symbolic mode operator")

/-- The command `ulimit`. -/
def ulimitCommand (arguments : List String) : Act Nat := do
  let d := (← get).dialect
  let letters := if d = .plain then "HSatfdscmlpnvwr" else "HSabcdefiklmnpqrstuvxPRT"
  match ← optionsOf "ulimit" letters "" arguments with
  | .error status => return status
  | .ok o =>
    if o.rest.isEmpty then
      let shown :=
        if o.has 'n' then "1048576" else if o.has 's' then "8192" else if o.has 'c' then "0"
        else "unlimited"
      tell (shown ++ "\n")
    return 0

/-- The command `times`. -/
def timesCommand : Act Nat := do
  let zero := if (← get).dialect = .plain then "0m0.000000s" else "0m0.000s"
  let line := zero ++ " " ++ zero ++ "\n"
  tell (line ++ line)
  return 0

end Act

end CrossBench.Shell
