import CrossBench.Shell.Command.Arguments

/-!
# Changing the directory

A script knows its directory by the path on which it has got there, links included. A path is put
behind that one and its dots are taken out before the system is asked.
-/

namespace CrossBench.Shell

/-- A location as a path. -/
def locationText (l : Location) : String :=
  if l.isEmpty then "/" else String.join (l.map fun n => "/" ++ ofBytes n)

/-- An absolute path without dots and without slashes in a row. -/
def withoutDots (path : String) : String :=
  let parts := (path.splitOn "/").foldl (fun (taken : List String) part =>
    if part = "" ∨ part = "." then taken
    else if part = ".." then taken.drop 1
    else part :: taken) []
  if parts.isEmpty then "/" else String.join (parts.reverse.map ("/" ++ ·))

namespace Act

/-- The path of the directory without links. -/
def physicalDirectory : Act String := look fun pid k => locationText (k.process pid).directory

/-- Goes to a directory, unless the system refuses. -/
def enter (path : String) : Act (Except IoError Unit) := step fun pid k =>
  match (k.tree pid).enter (pathOf path) with
  | .error e => some (.error e, k)
  | .ok directory => some (.ok (), k.alterProcess pid fun p => { p with directory })

/-- Sets an exported parameter. -/
def setExported (name value : String) : Act Unit :=
  modify fun s =>
    let s := s.store name none value
    match s.find? name with
    | some p => s.put { p with exported := true }
    | none => s

/-- Goes to the directory that a path says, and notes it. -/
def goTo (physical : Bool) (path : String) : Act (Except IoError Unit) := do
  let s ← get
  let logical := withoutDots (if path.startsWith "/" then path else s.directory ++ "/" ++ path)
  let first ← enter (if physical then path else logical)
  let result ←
    match first with
    | .ok () => pure (Except.ok ())
    | .error e => if physical then pure (.error e) else enter path
  match result with
  | .error e => return .error e
  | .ok () =>
    let now ←
      match physical, first with
      | false, .ok () => pure logical
      | _, _ => physicalDirectory
    setExported "OLDPWD" s.directory
    modify fun s => { s with directory := now }
    setExported "PWD" now
    return .ok ()

/-- The command `cd`, in the name of a command that goes to a directory. -/
def cdCommand (command : String) (arguments : List String) : Act Nat := do
  let d := (← get).dialect
  let options := if d = .plain then "LP" else "LPe@"
  match ← optionsOf command options "" arguments with
  | .error status => return status
  | .ok o =>
    let physical := (o.given.getLast?.any fun g => g.1 = 'P') || (o.given.isEmpty && (← isOn "physical"))
    let refuse (path : String) (e : IoError) : Act Nat := do
      match d with
      | .plain => fail ("can't cd to " ++ path)
      | .extended =>
        let s ← get
        let shown := if s.dialect = .plain then path else Quoting.displayed s.isWide path
        faultOf command (shown ++ ": " ++ e.plainMessage)
        return 1
    let go (path shown : String) (printed : Bool) : Act Nat := do
      match ← goTo physical path with
      | .ok () =>
        if printed then
          tell ((← get).directory ++ "\n")
        return 0
      | .error e => refuse shown e
    let missing (name : String) : Act Nat := do
      faultOf command (name ++ " not set")
      return 1
    match o.rest with
    | [] =>
      match ← parameter? "HOME", d with
      | some home, _ => go (if home = "" then "." else home) home false
      | none, .plain => go "." "" false
      | none, .extended => missing "HOME"
    | a :: more =>
      if !more.isEmpty && d = .extended then
        faultOf command "too many arguments"
        return 1
      else if a = "-" then
        match ← parameter? "OLDPWD", d with
        | some old, _ => go (if old = "" then "." else old) old true
        | none, .plain => go "." "" true
        | none, .extended => missing "OLDPWD"
      else if a = "" then go "." "" false
      else
        let dotted := a = "." || a = ".." || a.startsWith "./" || a.startsWith "../"
        if a.startsWith "/" || dotted then go a a false
        else
          let t ← tree
          let search := ((← parameter? "CDPATH").getD "").splitOn ":"
          let found := search.find? fun directory =>
            directory ≠ "" && t.isDirectory (pathOf (directory ++ "/" ++ a))
          match found with
          | some directory =>
            if search.head? = some "" && t.isDirectory (pathOf a) then go a a false
            else go (directory ++ "/" ++ a) a true
          | none => go a a false

/-- The command `pwd`. -/
def pwdCommand (arguments : List String) : Act Nat := do
  match ← optionsOf "pwd" "LP" "" arguments with
  | .error status => return status
  | .ok o =>
    let physical := o.given.getLast?.any fun g => g.1 = 'P'
    let path ← if physical then physicalDirectory else do pure (← get).directory
    tell (path ++ "\n")
    return 0

/-! ## Kept directories -/

/-- The directory and those that have been kept, the latest first. -/
def allDirectories : Act (List String) := do
  let s ← get
  return s.directory :: s.directories

/-- A path with a tilde in place of the home directory. -/
def withTilde (path : String) : Act String := do
  let home := (← parameter? "HOME").getD ""
  let rest := String.ofList (path.toList.drop home.length)
  return if 1 < home.length && path.startsWith home && (rest = "" || rest.startsWith "/") then "~" ++ rest
    else path

/-- Shows the directory and those that have been kept. -/
def showDirectories : Act Unit := do
  let shown ← (← allDirectories).mapM withTilde
  tell (" ".intercalate shown ++ "\n")

/-- The sign and the number of an argument that counts directories. -/
inductive Counting where
  | place (fromBehind : Bool) (n : Nat)
  /-- A sign behind which there is no number. -/
  | wrong
  | other

/-- How an argument counts directories. -/
def Counting.of (a : String) : Counting :=
  let number (fromBehind : Bool) (digits : List Char) : Counting :=
    match decimal? (String.ofList digits) with
    | some n => .place fromBehind n
    | none => .wrong
  match a.toList with
  | '+' :: digits => number false digits
  | '-' :: digits => number true digits
  | _ => .other

/-- The place that is counted among so many directories; none if there are not so many. -/
def countedPlace (total : Nat) (fromBehind : Bool) (n : Nat) : Option Nat :=
  if n < total then some (if fromBehind then total - 1 - n else n) else none

/-- Complains of a place where no directory is kept. -/
def missingDirectory (command a : String) : Act Nat := do
  if (← get).directories.isEmpty then faultOf command "directory stack empty"
  else faultOf command ((if a = "" then "" else a ++ ": ") ++ "directory stack index out of range")
  return 1

/-- Complains of an argument, and says how a command is used. -/
def wrongArgument (command why : String) : Act Nat := do
  faultOf command why
  complain (command ++ ": usage: " ++ usageOf command)
  return 2

/-- The command `dirs`. -/
def dirsCommand (arguments : List String) : Act Nat := do
  let all ← allDirectories
  let rec take (letters : List Char) (at_ : Option (Option Nat × String)) :
      List String → Act (Except Nat (List Char × Option (Option Nat × String)))
    | [] => return .ok (letters, at_)
    | a :: rest =>
      if a = "--" then return .ok (letters, at_)
      else if ["-l", "-c", "-v", "-p"].contains a then take (a.toList.drop 1 ++ letters) at_ rest
      else
        match Counting.of a with
        | .place fromBehind n =>
          take letters (some (countedPlace all.length fromBehind n, String.ofList (a.toList.drop 1))) rest
        | .wrong => do return .error (← wrongArgument "dirs" (a ++ ": invalid number"))
        | .other => do return .error (← wrongArgument "dirs" (a ++ ": invalid option"))
  match ← take [] none arguments with
  | .error status => return status
  | .ok (letters, at_) =>
    let polite (d : String) : Act String := if letters.contains 'l' then pure d else withTilde d
    let numbered (i : Nat) (d : String) : String :=
      if letters.contains 'v' then (if i < 10 then " " else "") ++ toString i ++ "  " ++ d else d
    if letters.contains 'c' then
      modify fun s => { s with directories := [] }
      return 0
    else
      match at_ with
      | some (none, a) => missingDirectory "dirs" a
      | some (some i, _) =>
        tell (numbered i (← polite (all.getD i "")) ++ "\n")
        return 0
      | none =>
        let shown ← all.zipIdx.mapM fun (d, i) => do return numbered i (← polite d)
        let between := if letters.contains 'v' || letters.contains 'p' then "\n" else " "
        tell (between.intercalate shown ++ "\n")
        return 0

/-- Goes to the first of some directories, and keeps the others. -/
def rotateTo (command : String) (stays : Bool) (directories : List String) : Act Nat := do
  let kept := directories.drop 1
  if stays then
    modify fun s => { s with directories := kept }
    return 0
  else
    let status ← cdCommand command [directories.headD ""]
    if status = 0 then
      modify fun s => { s with directories := kept }
      showDirectories
    return status

/-- The command `pushd`. -/
def pushdCommand (arguments : List String) : Act Nat := do
  let all ← allDirectories
  let rec take (stays : Bool) (at_ : Option (Option Nat × String)) :
      List String → Act (Except Nat (Bool × Option (Option Nat × String) × List String))
    | [] => return .ok (stays, at_, [])
    | a :: rest =>
      if a = "-n" then take true at_ rest
      else if a = "--" then return .ok (stays, at_, rest)
      else if a = "-" then return .ok (stays, at_, a :: rest)
      else
        match Counting.of a with
        | .place fromBehind n => take stays (some (countedPlace all.length fromBehind n, a)) rest
        | .wrong => do return .error (← wrongArgument "pushd" (a ++ ": invalid number"))
        | .other => return .ok (stays, at_, a :: rest)
  if arguments.isEmpty then
    match all with
    | here :: d :: rest => rotateTo "pushd" false (d :: here :: rest)
    | _ =>
      faultOf "pushd" "no other directory"
      return 1
  else
    match ← take false none arguments with
    | .error status => return status
    | .ok (_, some (none, a), _) => missingDirectory "pushd" a
    | .ok (stays, some (some i, _), _) => rotateTo "pushd" stays (all.drop i ++ all.take i)
    | .ok (_, none, []) => return 0
    | .ok (stays, none, a :: _) =>
      if stays then
        modify fun s => { s with directories := a :: s.directories }
        showDirectories
        return 0
      else
        let here := (← get).directory
        let status ← cdCommand "pushd" [a]
        if status = 0 then
          modify fun s => { s with directories := here :: s.directories }
          showDirectories
        return status

/-- The command `popd`. -/
def popdCommand (arguments : List String) : Act Nat := do
  let all ← allDirectories
  let rec take (stays : Bool) (at_ : Option (Option Nat × String)) :
      List String → Act (Except Nat (Bool × Option (Option Nat × String)))
    | [] => return .ok (stays, at_)
    | a :: rest =>
      if a = "-n" then take true at_ rest
      else if a = "--" then return .ok (stays, at_)
      else
        match Counting.of a with
        | .place fromBehind n => take stays (some (countedPlace all.length fromBehind n, a)) rest
        | .wrong => do return .error (← wrongArgument "popd" (a ++ ": invalid number"))
        | .other =>
          if a = "" then return .ok (stays, at_)
          else do return .error (← wrongArgument "popd" (a ++ ": invalid argument"))
  match ← take false none arguments with
  | .error status => return status
  | .ok (stays, at_) =>
    match at_.getD (some 0, ""), all with
    | (none, a), _ => missingDirectory "popd" a
    | (some _, a), [_] => missingDirectory "popd" a
    | (some 0, _), _ :: d :: rest =>
      if stays then
        modify fun s => { s with directories := rest }
        showDirectories
        return 0
      else
        let status ← cdCommand "popd" [d]
        if status = 0 then
          modify fun s => { s with directories := rest }
          showDirectories
        return status
    | (some i, _), _ =>
      modify fun s => { s with directories := s.directories.eraseIdx (i - 1) }
      showDirectories
      return 0

end Act

end CrossBench.Shell
