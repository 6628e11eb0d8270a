import CrossBench.Os.Kernel
import CrossBench.Os.WaitStatus

/-!
# What a script has started in the background

A script knows what it has started in the background by numbers, and by the processes. A `JobTable`
holds them, the latest first. A number is used again as soon as it is free. The extended dialect
calls one of them the current one and another the previous one, and remembers how those have ended
that it has dropped.
-/

namespace CrossBench.Shell

/-- How processes have ended, those that have. -/
abbrev Endings := Pid → Option WaitStatus

/-- What has been started in the background: the processes that are linked, each with the text of
what it does. -/
structure Background where
  number : Nat
  stages : List (Pid × String)
  /-- The directory from which it has been started. -/
  directory : String
  /-- Whether its end has been seen while something was waited for. -/
  seen : Bool
  /-- Whether it had ended when something was said about it last. -/
  told : Option Bool

namespace Background

/-- The process that stands for all of them. -/
def pid (b : Background) : Pid := (b.stages.getLast?.map (·.1)).getD 0

/-- The text of what it does. -/
def words (b : Background) : String := " | ".intercalate (b.stages.map (·.2))

/-- How it has ended, if all of its processes have. -/
def ending? (e : Endings) (b : Background) : Option WaitStatus :=
  if b.stages.all fun s => (e s.1).isSome then e b.pid else none

/-- Whether it goes on. -/
def isRunning (e : Endings) (b : Background) : Bool := (b.ending? e).isNone

/-- Whether the script has been told how it has ended. -/
def isKnown (e : Endings) (b : Background) : Bool := !b.isRunning e && b.told = some true

end Background

/-- What a script has started in the background, and what is left of it. -/
structure JobTable where
  /-- The latest first. -/
  jobs : List Background
  current : Option Nat
  previous : Option Nat
  /-- How those have ended that are not in the table any more. -/
  departed : List (Pid × WaitStatus)

namespace JobTable

/-- A table without anything. -/
def empty : JobTable := ⟨[], none, none, []⟩

/-- What has a number. -/
def find? (t : JobTable) (number : Nat) : Option Background :=
  t.jobs.find? fun b => b.number = number

/-- What is there by ascending numbers. -/
def sorted (t : JobTable) : List Background := t.jobs.mergeSort fun a b => a.number ≤ b.number

/-- The first number that is free. -/
def freeNumber (t : JobTable) : Nat :=
  ((List.range (t.jobs.length + 1)).map (· + 1)).find? (fun n => (t.find? n).isNone) |>.getD 1

/-- Changes what has a number. -/
def alter (t : JobTable) (number : Nat) (change : Background → Background) : JobTable :=
  { t with jobs := t.jobs.map fun b => if b.number = number then change b else b }

/-- The latest number below a bound of what goes on. -/
def lastRunning (e : Endings) (bound : Option Nat) (t : JobTable) : Option Nat :=
  (t.sorted.reverse.find? fun b =>
    b.isRunning e && (match bound with
      | some n => b.number < n
      | none => true)).map (·.number)

/-- Makes what has a number the current one. What goes on before it is the previous one then, or else
it is so itself. -/
def choose (e : Endings) (number : Nat) (t : JobTable) : JobTable :=
  let running := (t.find? number).any (·.isRunning e)
  let candidate := t.lastRunning e (if running then some number else none)
  { t with current := some number, previous := some (candidate.getD number) }

/-- Finds the current one and the previous one anew. -/
def remark (e : Endings) (t : JobTable) : JobTable :=
  match t.lastRunning e none with
  | some n => t.choose e n
  | none => { t with current := none, previous := none }

/-- Takes something new in, under the first number that is free. -/
def start (e : Endings) (stages : List (Pid × String)) (directory : String) (t : JobTable) : JobTable :=
  remark e { t with jobs := ⟨t.freeNumber, stages, directory, false, none⟩ :: t.jobs }

/-- Drops what has a number. How it has ended stays known. -/
def drop (e : Endings) (number : Nat) (t : JobTable) : JobTable :=
  match t.find? number with
  | none => t
  | some b =>
    let left : JobTable :=
      { t with
        jobs := t.jobs.filter fun c => c.number ≠ number
        departed := ((b.ending? e).map fun w => (b.pid, w)).toList ++ t.departed }
    if t.current = some number || t.previous = some number then left.remark e else left

/-- Drops what the script has been told the end of. -/
def tidy (e : Endings) (t : JobTable) : JobTable :=
  (t.sorted.filter (·.isKnown e)).foldl (fun t b => t.drop e b.number) t

/-- Makes room for something new: drops what has been waited for, if a number before the first free
one is to be had in this way. -/
def makeRoom (t : JobTable) : JobTable :=
  match (t.sorted.find? fun b => b.seen && b.told = some true) with
  | some b =>
    if b.number < t.freeNumber then { t with jobs := t.jobs.filter fun c => c.number ≠ b.number } else t
  | none => t

/-- Notes which ends can be seen. -/
def look (e : Endings) (t : JobTable) : JobTable :=
  { t with jobs := t.jobs.map fun b => { b with seen := b.seen || !b.isRunning e } }

/-- Notes what the script has been told about what has a number. -/
def tell (e : Endings) (number : Nat) (t : JobTable) : JobTable :=
  t.alter number fun b => { b with told := some (!b.isRunning e) }

/-- How the process has ended that is not in the table any more. -/
def departed? (t : JobTable) (pid : Pid) : Option WaitStatus :=
  (t.departed.find? fun d => d.1 = pid).map (·.2)

/-- The sign in front of what has a number. -/
def sign (t : JobTable) (number : Nat) : String :=
  if t.current = some number then "+" else if t.previous = some number then "-" else " "

end JobTable

/-! ## How it is shown -/

namespace Background

/-- A text with blanks behind it up to a width. -/
def padded (width : Nat) (t : String) : String :=
  t ++ String.ofList (List.replicate (width - t.length) ' ')

/-- The number of a process, with blanks in front. -/
def aligned (pid : Pid) : String :=
  let t := toString pid
  String.ofList (List.replicate (5 - t.length) ' ') ++ t

/-- What the plain dialect says of a process that has ended. -/
def plainState (w : WaitStatus) : String :=
  match w.signal?, w.code? with
  | some n, _ => Signal.text n
  | none, some 0 => "Done"
  | none, some n => "Done(" ++ toString n ++ ")"
  | none, none => ""

/-- What the extended dialect says of a process that has ended. -/
def extendedState (w : WaitStatus) : String :=
  match w.signal?, w.code? with
  | some n, _ => Signal.text n
  | none, some 0 => "Done"
  | none, some n => "Exit " ++ toString n
  | none, none => ""

/-- What the plain dialect says of it; `long` asks for each of its processes. -/
def plainReport (e : Endings) (sign : String) (long : Bool) (b : Background) : String :=
  let front := padded 4 ("[" ++ toString b.number ++ "]") ++ sign ++ " "
  let state := ((b.ending? e).map plainState).getD "Running"
  if long then
    match b.stages with
    | [] => ""
    | (pid, words) :: rest =>
      let first := padded 33 (front ++ toString pid ++ " " ++ state) ++ words
      String.intercalate " |\n" (first :: rest.map fun (pid, words) =>
        padded 33 ("      " ++ toString pid ++ " ") ++ words) ++ "\n"
  else
    padded 33 (front ++ state) ++ b.words ++ "\n"

/-- What the extended dialect says of its processes, each on a line of its own if `long`; `here` is
the directory. -/
def extendedReport (e : Endings) (here : String) (long : Bool) (b : Background) : String :=
  let running := b.isRunning e
  let state (pid : Pid) : String :=
    if running then "Running" else ((e pid).map extendedState).getD ""
  let close :=
    (if running then " &" else "")
      ++ (if b.directory = here then "" else "  (wd: " ++ b.directory ++ ")") ++ "\n"
  if long then
    match b.stages with
    | [] => ""
    | (pid, words) :: rest =>
      let first := aligned pid ++ " " ++ padded 24 (state pid) ++ words
      "\n".intercalate (first :: rest.map fun (p, words) =>
        let shown := if state p = state pid then padded 22 "" else padded 24 (state p)
        "     " ++ aligned p ++ " " ++ shown ++ "| " ++ words) ++ close
  else " " ++ padded 24 (state b.pid) ++ b.words ++ close

end Background

end CrossBench.Shell
