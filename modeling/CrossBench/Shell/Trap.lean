import CrossBench.Shell.Expand

/-!
# Traps

A script can have something done when a signal comes, at its end, or when a command fails. What a
signal asks for is done between two commands.
-/

namespace CrossBench.Shell.Act

/-- The text of what is to be done at an event. -/
def trap? (event : String) : Act (Option String) := do
  return ((← get).traps.find? fun t => t.1 = event).map (·.2)

/-- Does what is to be done at an event. The status is afterwards what it was before. What is done
because of a command is taken to stand in its line. -/
def runTrap (event label text : String) : Act Unit := do
  let s ← get
  unless text = "" do
    set { s with trapping := event :: s.trapping, tested := false, last := false, layers := s.layers + 1 }
    let line := if ["DEBUG", "ERR", "RETURN"].contains event then s.line else 1
    let result ← outcome (call (.script label line text))
    modify fun after =>
      { after with
        trapping := s.trapping, tested := s.tested, last := s.last, layers := s.layers
        line := s.line, reached := s.reached, outer := s.outer }
    match result with
    | .ok _ => setStatus s.status
    | .error e => throw e

/-- Does what is to be done at an event of this name, unless that is being done already. -/
def runTrapOf (event label : String) : Act Unit := do
  if let some text ← trap? event then
    unless (← get).trapping.contains event do runTrap event label text

/-- Notes the statement that is about to be run, and does what is to be done before it is. -/
def announce (line : Nat) (s : Statement) : Act Unit := do
  modify fun t : Session =>
    { t with line, running := if t.trapping.isEmpty then some s else t.running }
  runTrapOf "DEBUG" "debug trap: "

/-- The oldest signal that has been caught. -/
def takeSignal : Act (Option Nat) := step fun pid k =>
  match (k.process pid).pending with
  | [] => some (none, k)
  | n :: rest => some (some n, k.alterProcess pid fun p => { p with pending := rest })

/-- Does what the signals ask for that have come. -/
def interrupts : Act Unit := do
  unless (← get).traps.isEmpty do
    again do
      match ← takeSignal with
      | none => return false
      | some n =>
        let event := (Signal.name? n).getD ""
        match (← trap? event) with
        | some text => runTrap event "trap: " text
        | none => pure ()
        return true

/-- What a process does about a signal from now on. -/
def setDisposition (n : Nat) (d : Disposition) : Act Unit := alter fun pid k =>
  k.alterProcess pid fun p =>
    let others := p.dispositions.filter fun e => e.1 ≠ n
    { p with dispositions := if d == .usual then others else (n, d) :: others }

/-- Arranges what is to be done at an event, or that nothing is. -/
def setTrap (event : String) (text : Option String) : Act Unit := do
  modify fun s =>
    let others := s.traps.filter fun t => t.1 ≠ event
    { s with
      formerTraps := []
      traps :=
        match text with
        | some t => others ++ [(event, t)]
        | none => others }
  match Signal.number? event with
  | none => pure ()
  | some n =>
    setDisposition n <|
      match text with
      | none => .usual
      | some "" => .ignored
      | some _ => .caught

/-- Forgets what is to be done, but for the signals that are ignored, as a process of its own does. -/
def clearTraps : Act Unit := do
  let s ← get
  let (kept, dropped) := s.traps.partition fun t =>
    match t.1 with
    | "EXIT" => false
    | "DEBUG" => s.isOn "functrace"
    | "RETURN" => s.isOn "functrace"
    | "ERR" => s.isOn "errtrace"
    | _ => t.2 = ""
  set { s with traps := kept, formerTraps := if s.dialect = Dialect.plain then [] else s.traps }
  dropped.forM fun t =>
    match Signal.number? t.1 with
    | some n => setDisposition n .usual
    | none => pure ()

/-- Does at the end of a shell what is to be done there. -/
def runExitTrap (status : Nat) : Act Nat := do
  match ← trap? "EXIT" with
  | none => return status
  | some text =>
    modify fun s =>
      { s with traps := s.traps.filter fun t => t.1 ≠ "EXIT", status, loops := 0, calls := 0 }
    match ← outcome (runTrap "EXIT" "exit trap: " text) with
    | .ok () => return status
    | .error (.exit n) => return n
    | .error (.gone w) => throw (.gone w)
    | .error _ => return status

/-- How a shell ends that has left off, or has come to its end. -/
def conclude {α : Type} (result : Except Leave α) : Act Nat := do
  let s ← get
  let status : Nat ←
    match result with
    | .ok _ => pure s.status
    | .error (.exit n) => pure n
    | .error (.gone w) => throw (.gone w)
    | .error (.failure n) => pure n
    | .error .fatal => pure (if s.inline && s.subshells = 0 then 127 else 1)
    | .error .discard => pure (if s.status = 0 then 1 else s.status)
    | .error (.return_ n) => pure n
    | .error _ => pure s.status
  runExitTrap (status % 256)

end CrossBench.Shell.Act
