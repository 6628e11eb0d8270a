import CrossBench.Shell.Command.Arguments
import CrossBench.Shell.Expand
import CrossBench.Shell.Quoting
import CrossBench.Shell.Trap

/-!
# Commands for what has been started in the background

An argument names a process by its number, or something in the table of what has been started by a
percent sign and a number, a sign or a text. Waiting leaves off when a signal comes that is caught.
-/

namespace CrossBench.Shell.Act

/-- What is meant in the table of what has been started; or why nothing is, where `none` says that
there is no such thing. -/
def jobNamed (a : String) : Act (Except (Option String) Background) := do
  let s ← get
  let name := if a.startsWith "%" then String.ofList (a.toList.drop 1) else a
  let held (n : Option Nat) : Option Background := n.bind s.jobs.find?
  let isCurrent := name = "" || name = "%" || name = "+"
  match s.dialect with
  | .plain =>
    let missing := some ("No such job: " ++ a)
    let given (b : Option Background) (why : Option String) : Except (Option String) Background :=
      match b with
      | some b => .ok b
      | none => .error why
    if isCurrent then return given s.jobs.jobs.head? (some "No current job")
    else if name = "-" then return given (s.jobs.jobs.drop 1).head? (some "No previous job")
    else
      return given (held (decimal? name)) missing
  | .extended =>
    match decimal? name with
    | some n =>
      return match s.jobs.find? n with
        | some b => .ok b
        | none => .error none
    | none =>
      let found : List Background :=
        if isCurrent then (held s.jobs.current).toList
        else if name = "-" then (held s.jobs.previous).toList
        else
          let (inside, part) :=
            if name.startsWith "?" then (true, String.ofList (name.toList.drop 1)) else (false, name)
          s.jobs.sorted.filter fun b => b.stages.any fun stage =>
            if inside then 1 < (stage.2.splitOn part).length else stage.2.startsWith part
      return match found with
        | [b] => .ok b
        | [] => .error none
        | _ => .error (some (name ++ ": ambiguous job spec"))

/-- Waits for something, but leaves off when a signal comes that is caught: its number. -/
def awaitUnlessCaught {α : Type} (f : Kernel → Option α) : Act (Except Nat α) := step fun pid k =>
  match (k.process pid).pending with
  | n :: _ => some (.error n, k)
  | [] => (f k).map fun a => (.ok a, k)

/-- How the processes have ended that a system knows. -/
def endingsOf (k : Kernel) : Endings := fun pid => (k.process pid).ended

/-- Waits for what has been started in the background: how it ends, or the signal that comes. -/
def waitForJob (b : Background) : Act (Except Nat WaitStatus) := do
  match ← awaitUnlessCaught fun k => b.ending? (endingsOf k) with
  | .error n => return .error n
  | .ok w =>
    let d := (← get).dialect
    if d = .plain then
      match w.signal? with
      | some n => unless b.seen || n = Signal.interrupt || n = Signal.pipe do complain (Signal.text n)
      | none => pure ()
    noteEnds none
    let e ← endings
    modify fun s => { s with jobs := s.jobs.tell e b.number }
    return .ok w

/-- Waits for everything in the background. -/
def waitForAll : Act Nat := do
  noteEnds none
  repeating () fun _ => do
    let s ← get
    let e ← endings
    match s.jobs.sorted.find? (·.isRunning e) with
    | some b =>
      match ← waitForJob b with
      | .error n => return .inr (128 + n)
      | .ok _ => return .inl ()
    | none =>
      modify fun s =>
        let told (b : Background) : Bool := s.dialect = .plain || s.lastBackground ≠ some b.pid
        let jobs := s.jobs.jobs.map fun b => if told b then { b with told := some true } else b
        let table := { (s.jobs.look e) with jobs := jobs.map fun b => { b with seen := true } }
        { s with
          jobs := if s.dialect = .plain then table else { (table.tidy e) with departed := [] } }
      return .inr 0

/-- Waits for what an argument means: the status, and the process if there is one. -/
def waitForNamed (a : String) : Act (Nat × Option Pid) := do
  let d := (← get).dialect
  let waited (b : Background) : Act (Nat × Option Pid) := do
    match ← waitForJob b with
    | .error n => return (128 + n, some b.pid)
    | .ok w => return (statusNumber w, some b.pid)
  if a.startsWith "%" then
    match d, ← jobNamed a with
    | _, .ok b => waited b
    | .plain, .error why => fail (why.getD "")
    | .extended, .error why =>
      faultOf "wait" (why.getD (a ++ ": no such job"))
      return (127, none)
  else
    let number := Arithmetic.integer? (some 10) a
    let number := if (a.toList.headD 'x').isDigit then number else none
    match d, number with
    | .plain, none => fail ("Illegal number: " ++ a)
    | .plain, some n =>
      match (← get).jobs.jobs.find? fun b => (b.pid : Int) = n with
      | some b => waited b
      | none => return (127, none)
    | .extended, none =>
      faultOf "wait" ("\x60" ++ a ++ "': not a pid or valid job spec")
      return (1, none)
    | .extended, some n =>
      let table := (← get).jobs
      match table.jobs.find? fun b => b.stages.any fun s => (s.1 : Int) = n with
      | some b => waited b
      | none =>
        match table.departed? n.toNat with
        | some w => return (statusNumber w, some n.toNat)
        | none =>
          faultOf "wait" ("pid " ++ a ++ " is not a child of this shell")
          return (127, none)

/-- Waits until one of some has ended, of all if none are named: its status and its process. -/
def waitForNext (names : List String) : Act (Nat × Option Pid) := do
  let e ← endings
  modify fun s => { s with jobs := s.jobs.tidy e }
  let chosen ← names.filterMapM fun a => do
    let found : Option Background ←
      if a.startsWith "%" then
        match ← jobNamed a with
        | .ok b => pure (some b)
        | .error _ => pure none
      else do
        let table := (← get).jobs
        pure ((decimal? a).bind fun n =>
          table.jobs.find? fun b => b.stages.any fun s => s.1 = n)
    if found.isNone then faultOf "wait" (a ++ ": no such job")
    return found.map (·.number)
  let s ← get
  let candidates :=
    s.jobs.sorted.filter fun b => names.isEmpty || chosen.contains b.number
  if candidates.isEmpty then return (127, none)
  else
    match ← awaitUnlessCaught fun k =>
      candidates.findSome? fun b => (b.ending? (endingsOf k)).map fun w => (b, w) with
    | .error n => return (128 + n, none)
    | .ok (b, w) =>
      noteEnds none
      let e ← endings
      modify fun s => { s with jobs := s.jobs.drop e b.number }
      return (statusNumber w, some b.pid)

/-- The command `wait`. -/
def waitCommand (arguments : List String) : Act Nat := do
  let d := (← get).dialect
  match ← optionsOf "wait" (if d = .plain then "" else "fn") (if d = .plain then "" else "p")
    arguments with
  | .error status => return status
  | .ok o =>
    let ok : Bool ←
      match o.value? 'p' with
      | none => pure true
      | some name =>
        if !isName name then
          faultOf "wait" ("\x60" ++ name ++ "': not a valid identifier")
          pure false
        else if (← find? name).any (·.readonly) then
          faultOf "wait" (name ++ ": cannot unset: readonly variable")
          pure false
        else
          modify fun s => s.forget name
          pure true
    if !ok then return 1
    else
      let (status, pid) ←
        if o.has 'n' then waitForNext o.rest
        else if o.rest.isEmpty then pure (← waitForAll, none)
        else o.rest.foldlM (fun _ a => waitForNamed a) (0, none)
      match o.value? 'p', pid with
      | some name, some pid =>
        let _ ← assign? name none (toString pid)
      | _, _ => pure ()
      return status

/-! ## Listing -/

/-- Shows something that has been started, and notes that it has been shown. -/
def showJob (long onlyPid : Bool) (b : Background) : Act Unit := do
  let e ← endings
  let s ← get
  let number := toString b.number
  if onlyPid then
    tell (toString ((b.stages.head?.map (·.1)).getD 0) ++ "\n")
  else
    match s.dialect with
    | .plain =>
      let sign (l : List Background) : Bool := l.head?.any fun c => c.number = b.number
      let sign := if sign s.jobs.jobs then "+" else if sign (s.jobs.jobs.drop 1) then "-" else " "
      tell (b.plainReport e sign long)
      unless b.isRunning e do
        modify fun s =>
          { s with jobs := { s.jobs with jobs := s.jobs.jobs.filter fun c => c.number ≠ b.number } }
    | .extended =>
      let front := "[" ++ number ++ "]" ++ s.jobs.sign b.number ++ " "
      tell (front ++ b.extendedReport e s.directory long)
      modify fun s => { s with jobs := s.jobs.tell e b.number }

/-- Runs a command in which jobs that are named stand for their processes. -/
def runWithJobs (words : List String) : Act Nat := do
  let meant ← words.mapM fun w => do
    if w.startsWith "%" then
      match ← jobNamed w with
      | .ok b => return toString ((b.stages.head?.map (·.1)).getD 0)
      | .error _ => return w
    else return w
  callStatus (.script "jobs: " (← get).line (" ".intercalate (meant.map Quoting.single)))

/-- The command `jobs`. -/
def jobsCommand (arguments : List String) : Act Nat := do
  let d := (← get).dialect
  match ← optionsOf "jobs" (if d = .plain then "lp" else "lpnrsx") "" arguments with
  | .error status => return status
  | .ok o =>
    if o.has 'x' then
      if o.rest.isEmpty then return 0 else runWithJobs o.rest
    else
      let e ← endings
      modify fun s =>
        { s with jobs := if d = .plain then s.jobs.look e else s.jobs.tidy e }
      let s ← get
      if o.rest.isEmpty then
        let shown := if d = .plain then s.jobs.jobs else s.jobs.sorted
        (shown.filter fun b =>
          (!o.has 'r' || b.isRunning e) && !o.has 's'
            && (!o.has 'n' || b.told ≠ some (!b.isRunning e))).forM
          (showJob (o.has 'l') (o.has 'p'))
        return 0
      else
        o.rest.foldlM (fun status a => do
          match d, ← jobNamed a with
          | _, .ok b =>
            showJob (o.has 'l') (o.has 'p') b
            return status
          | .plain, .error why => fail (why.getD "")
          | .extended, .error why =>
            why.forM (faultOf "jobs")
            faultOf "jobs" (a ++ ": no such job")
            return 1) 0

/-- The command `disown`. -/
def disownCommand (arguments : List String) : Act Nat := do
  match ← optionsOf "disown" "ahr" "" arguments with
  | .error status => return status
  | .ok o =>
    let e ← endings
    let forget (numbers : List Nat) : Act Unit := do
      unless o.has 'h' do
        modify fun s => { s with jobs := numbers.foldl (fun t n => t.drop e n) s.jobs }
    if o.rest.isEmpty && (o.has 'a' || o.has 'r') then
      forget (((← get).jobs.sorted.filter fun b => !o.has 'r' || b.isRunning e).map (·.number))
      return 0
    else
      let names := if o.rest.isEmpty then ["current"] else o.rest
      names.foldlM (fun status a => do
        let found : Option Background ←
          match decimal? a with
          | some n =>
            let table := (← get).jobs
            pure (table.jobs.find? fun b => b.stages.any fun s => s.1 = n)
          | none => do
            match ← jobNamed (if o.rest.isEmpty then "%" else a) with
            | .ok b => pure (some b)
            | .error _ => pure none
        match found with
        | some b =>
          forget [b.number]
          return status
        | none =>
          faultOf "disown" (a ++ ": no such job")
          return 1) 0

end CrossBench.Shell.Act
