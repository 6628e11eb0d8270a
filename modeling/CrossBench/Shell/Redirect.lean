import CrossBench.Shell.Expand
import CrossBench.Shell.Unparse

/-!
# Redirections

A redirection leads a descriptor elsewhere. What it led to before is kept under a number that scripts
do not use, so that it can be put back.
-/

namespace CrossBench.Shell

/-- A descriptor that leads elsewhere for a while, and where it is kept if it was open. -/
structure Kept where
  descriptor : Nat
  place : Option Nat

/-- The words for a file that cannot be opened. -/
def openFault (d : Dialect) (creating : Bool) (path : String) (reason : IoError) : String :=
  let missing := reason = .notFound || reason = .notDirectory
  match d with
  | .extended =>
    if reason = .taken then path ++ ": cannot overwrite existing file"
    else path ++ ": " ++ reason.plainMessage
  | .plain =>
    if creating then
      "cannot create " ++ path ++ ": "
        ++ (if missing then "Directory nonexistent" else reason.plainMessage)
    else "cannot open " ++ path ++ ": " ++ (if missing then "No such file" else reason.plainMessage)

namespace Act

/-- Keeps what a descriptor leads to. -/
def keep (fd : Nat) : Act Kept := do
  if ← isOpen fd then
    let place ← freeFrom Kernel.keptFrom
    let _ ← duplicate fd place
    return ⟨fd, some place⟩
  else return ⟨fd, none⟩

/-- Puts descriptors back to where they led. -/
def restore (kept : List Kept) : Act Unit :=
  kept.forM fun k =>
    match k.place with
    | some place => do
      let _ ← duplicate place k.descriptor
      close place
    | none => close k.descriptor

/-- Forgets what has been kept of descriptors. -/
def release (kept : List Kept) : Act Unit := (kept.filterMap (·.place)).forM close

/-- The name of the file that a redirection leads to; none if it is not one name. -/
def redirectionTarget (w : Word) : Act (Option String) := do
  match (← get).dialect with
  | .plain => return some (← text w .whole)
  | .extended =>
    match ← fields [w] with
    | [t] => return some t
    | _ => return none

/-- Opens a file under a descriptor; whether that is possible. -/
def openFile (fd : Nat) (path : String) (a : Access) : Act Bool := do
  let s ← get
  let result ←
    if path = "" then pure (.error IoError.notFound) else openAt fd (pathOf path) a 0o666
  match result with
  | .ok () => return true
  | .error e =>
    fault (openFault s.dialect a.create path e)
    return false

/-- Leads a descriptor to a text. -/
def openText (fd : Nat) (content : String) : Act Unit :=
  alter fun pid k =>
    let (pipe, k) := k.addPipe none
    let k := { k with pipes := k.pipes.modify pipe fun p => { p with data := packed content } }
    let (number, k) := k.addOpen ⟨.pipe pipe, 0, true, false, false⟩
    k.redirect pid fd (some number)

/-- Leads a descriptor to where another one leads, as a word says; whether that is possible. -/
def duplicateTo (fd : Nat) (reading : Bool) (target : String) (written : String) : Act Bool := do
  let d := (← get).dialect
  if target = "-" then
    close fd
    return true
  else
    let moved := d = .extended && target.endsWith "-"
    let digits := if moved then String.ofList target.toList.dropLast else target
    match decimal? digits with
    | some n =>
      if n = fd then
        if ← isOpen n then return true
      else if ← duplicate n fd then
        if moved then close n
        return true
      fault (digits ++ ": Bad file descriptor")
      return false
    | none =>
      match d with
      | .plain => fail "Syntax error: Bad fd number"
      | .extended =>
        if !reading && fd = 1 then
          if ← openFile 1 target .writing then duplicate 1 2 else return false
        else
          fault (written ++ ": ambiguous redirect")
          return false

/-- Makes a redirection; whether that is possible. -/
def redirect (r : Redirection) (fd : Nat) : Act Bool := do
  match r with
  | .mk _ _ direction w =>
    match direction with
    | .document .. =>
      openText fd (← text w .document)
      return true
    | .wordText =>
      openText fd ((← text w .whole) ++ "\n")
      return true
    | direction =>
      match ← redirectionTarget w with
      | none =>
        fault (w.written ++ ": ambiguous redirect")
        return false
      | some target =>
        let making : Access := if ← isOn "noclobber" then .making else .writing
        match direction with
        | .read => openFile fd target .reading
        | .write => openFile fd target making
        | .overwrite => openFile fd target .writing
        | .append => openFile fd target .appending
        | .update => openFile fd target .updating
        | .duplicate reading => duplicateTo fd reading target (w.written)
        | .writeBoth =>
          if ← openFile 1 target making then duplicate 1 2 else return false
        | .appendBoth =>
          if ← openFile 1 target .appending then duplicate 1 2 else return false
        | _ => return true

/-- The descriptor of a redirection. One that has a parameter for its number gets the first that is
free, or the one that the parameter has if it is closed. -/
def redirectionDescriptor (r : Redirection) : Act Nat := do
  match r with
  | .mk fd none _ _ => return fd
  | .mk _ (some holder) direction w =>
    let closing : Bool :=
      match direction with
      | .duplicate _ => Word.plainText? w == some "-"
      | _ => false
    let (name, subscript) := (targetOf holder).getD (holder, none)
    if closing then return (((← found name subscript).values.head?).bind decimal?).getD 0
    else
      let fd ← freeFrom 10
      let _ ← assign? name (← subscript.mapM (element name)) (toString fd)
      return fd

/-- The descriptors that a redirection changes. -/
def changedBy (r : Redirection) (fd : Nat) : List Nat :=
  match r with
  | .mk _ _ .writeBoth _ => [1, 2]
  | .mk _ _ .appendBoth _ => [1, 2]
  | .mk _ (some _) _ _ => []
  | _ => [fd]

/-- Makes redirections in order, as far as that is possible; whether it was, and what has been
kept. -/
def redirectAll : List Redirection → List Kept → Act (Bool × List Kept)
  | [], kept => return (true, kept)
  | r :: rest, kept => do
    let fd ← redirectionDescriptor r
    let more ← ((changedBy r fd).filter fun fd => kept.all fun k => k.descriptor ≠ fd).mapM keep
    let kept := more ++ kept
    match ← outcome (redirect r fd) with
    | .ok true => redirectAll rest kept
    | .ok false => return (false, kept)
    | .error e =>
      restore kept
      throw e

/-- The status of redirections that cannot be made. -/
def redirectionFailure : Act Nat := do
  return match (← get).dialect with
    | .plain => 2
    | .extended => 1

/-- Where the commands are shown that are run: not where their errors are led. -/
def traceDescriptor (kept : List Kept) : Nat :=
  ((kept.find? fun k => k.descriptor = 2).bind (·.place)).getD 2

end Act

end CrossBench.Shell
