import CrossBench.Os.Program
import CrossBench.Shell.Bytes
import CrossBench.Shell.Jobs
import CrossBench.Shell.Source

/-!
# The state of a running program

A `Session` is what a program keeps to itself: its parameters, its functions, its options. What it
shares with other programs is in the `Kernel`. The same type serves the shells and the small programs
that scripts call, which only use a part of it.

`Act` is the monad in which programs run. A program leaves off by throwing a `Leave`; whatever it has
done to its session stays done. What needs recursion through scripts is left to a `Job`.
-/

namespace CrossBench.Shell

/-- What a parameter holds. -/
inductive Content where
  /-- Nothing; the parameter has been declared but not set. -/
  | nothing
  | text (s : String)
  /-- Elements by number, in ascending order. -/
  | indexed (elements : List (Nat × String))
  /-- Elements by name, the latest first. -/
  | keyed (elements : List (String × String))
  deriving Inhabited

/-- The value of a parameter without elements, or of its first element. -/
def Content.text? : Content → Option String
  | .nothing => none
  | .text s => some s
  | .indexed elements => (elements.find? fun e => e.1 = 0).map (·.2)
  | .keyed elements => (elements.find? fun e => e.1 = "0").map (·.2)

/-- What becomes of the letters of a value. -/
inductive Casing where
  | capitals
  | small
  /-- The first letter is a capital, and the others are small. -/
  | capitalized
  deriving DecidableEq

/-- A parameter with a name. -/
structure Parameter where
  name : String
  content : Content
  /-- Whether programs that are started get it. -/
  exported : Bool
  readonly : Bool
  /-- Whether what it is set to is an expression. -/
  integer : Bool
  /-- What becomes of its letters. -/
  casing : Option Casing
  /-- Whether it stands for the parameter that it names. -/
  reference : Bool
  /-- Whether it has not been set since it was declared, though it is an array. -/
  pending : Bool

/-- A function of a script, and the file in which it stands. -/
structure Function where
  name : String
  line : Nat
  body : Statement
  file : String
  /-- Whether shells that are started get it. -/
  exported : Bool
  readonly : Bool
  /-- Whether what is to be done at events is done in it too. -/
  traced : Bool

/-- A function or a script within the script that is under way: the file in which it stands, and the
line from which it has been called. -/
structure Call where
  name : String
  file : String
  line : Nat

/-- What is to be put back when a function ends: what the parameters were that it has made its own, and
the options if they are its own too. -/
structure Frame where
  own : List (String × Option Parameter)
  settings : Option (List String)

/-- A process whose input and output the script holds the other ends of, under these descriptors. -/
structure Coprocess where
  pid : Pid
  name : String
  reading : Nat
  writing : Nat

/-- How a word may go on that somebody has begun. -/
structure Completion where
  /-- What is asked of those who offer it. -/
  options : List String
  /-- The kinds of words. -/
  kinds : List String
  words : Option String
  pattern : Option String
  function : Option String
  command : Option String
  /-- The words that are left out. -/
  filter : Option String
  front : Option String
  back : Option String

/-- An element of an expanded word. -/
inductive Letter where
  /-- A character that stands in the script. -/
  | plain (c : Char)
  /-- A character of a value, at which a word may fall apart. -/
  | value (c : Char)
  /-- A character that stands for itself. -/
  | quoted (c : Char)
  /-- A place where a word falls apart. -/
  | gap
  /-- What keeps a field that has no characters. -/
  | mark
  /-- What is there instead of values that are not: a field of this and marks only is not kept. -/
  | void
  deriving DecidableEq

/-- What happens to the values in a word. -/
structure Manner where
  /-- Whether the word may fall apart at them. -/
  splits : Bool
  /-- Whether a tilde in front stands for a directory. -/
  tilde : Bool
  /-- Whether a tilde behind a colon does so too. -/
  assigns : Bool
  /-- Whether a tilde behind the first equals sign does so too, and then behind a colon. -/
  names : Bool

namespace Manner

/-- A word that becomes arguments. -/
def argument : Manner := ⟨true, true, false, false⟩

/-- A word that stays one. -/
def whole : Manner := ⟨false, true, false, false⟩

/-- A value that is assigned. -/
def assigned : Manner := ⟨false, true, true, false⟩

/-- An argument that has the form of a value that is set. -/
def assigning : Manner := ⟨true, true, false, true⟩

/-- A text in which only expansions count. -/
def document : Manner := ⟨false, false, false, false⟩

end Manner

/-- What is started: a program of this system, under a name and with arguments. -/
structure Launch where
  program : String
  calledAs : String
  arguments : List String

/-- What a program leaves to be done by itself, so that it need not be recursive. -/
inductive Job where
  | statement (s : Statement)
  /-- What is left of a script; a complaint about it begins with `label`. -/
  | lines (label : String) (s : Source)
  /-- A script that is a text. -/
  | script (label : String) (line : Nat) (text : String)
  /-- The arguments that words stand for. -/
  | fields (words : List Word)
  | letters (w : Word) (manner : Manner)
  /-- A statement as a process of its own, in which descriptors first lead elsewhere and others are
  closed. If `announced`, what is to be done before the statement has been done already. -/
  | process (announced : Bool) (wires : List (Nat × Nat)) (closed : List Nat) (body : Statement)
  /-- A command that the process turns into. -/
  | external (words : List String)
  | launch (l : Launch)
  /-- A program that the process turns into, with the parameters that it gets. -/
  | start (environment : List (String × String)) (l : Launch)

/-- What a job comes to. -/
inductive Value where
  | nothing
  | status (n : Nat)
  | texts (l : List String)
  | letters (l : List Letter)

/-- Why a program leaves off what it does. -/
inductive Leave where
  /-- The shell ends, after what it has been asked to do at its end. -/
  | exit (status : Nat)
  /-- The process ends at once. -/
  | gone (status : WaitStatus)
  /-- A command cannot be done, and neither can the script go on unless somebody minds. -/
  | failure (status : Nat)
  /-- The script cannot go on. -/
  | fatal
  /-- The rest of the line is left out. -/
  | discard
  | return_ (status : Nat)
  | break_ (levels : Nat)
  | continue_ (levels : Nat)

/-- A running program. -/
structure Session where
  dialect : Dialect
  /-- The name of the script. -/
  title : String
  /-- The file in which the statements stand that are run; none if that is no file. -/
  file : String
  /-- Whether the script is an argument. -/
  inline : Bool
  /-- The command of the shell that is being run. -/
  command : Option String
  /-- Why something could not be written that a command of the shell tells. -/
  unwritten : Option IoError := none
  /-- The line of the script that is being run. -/
  line : Nat
  /-- The line of the script that has been read last. -/
  reached : Nat
  /-- The line around the command: that of the statement that has been read last, or that of the
  function or the loop that is under way. -/
  outer : Nat
  /-- The line where the function begins that is under way, if lines are counted from there. -/
  origin : Nat
  arguments : List String
  parameters : List Parameter
  /-- What is to be put back when the functions under way end. -/
  frames : List Frame
  functions : List Function
  /-- The functions and scripts under way, the latest first. -/
  callers : List Call
  /-- The statement that is run, as far as it is known by a parameter. -/
  running : Option Statement
  aliases : List (String × String)
  /-- The programs that have been found by their names, with their paths and how often, the latest
  first. -/
  remembered : List (String × String × Nat)
  /-- The options that are on. -/
  settings : List String
  status : Nat
  /-- Whether the outcome of the statement is looked at by the statement around it. -/
  tested : Bool
  /-- Whether the process ends behind the statement. -/
  last : Bool
  /-- How many loops are under way. -/
  loops : Nat
  /-- How many functions and files are under way. -/
  calls : Nat
  /-- What is to be done at the end, or when a signal comes, or at some other event. -/
  traps : List (String × String)
  /-- The events for which something is being done. -/
  trapping : List String
  /-- What was to be done at events in the process from which this one comes. -/
  formerTraps : List (String × String)
  /-- How many scripts within scripts are under way. -/
  layers : Nat
  /-- The shell that `$$` stands for. -/
  shell : Pid
  /-- The process in which the program runs. -/
  process : Pid
  subshells : Nat
  /-- How deep the process is whose output is put into a word. -/
  captured : Option Nat
  /-- What has been started in the background. -/
  jobs : JobTable
  /-- The statement that the script holds the other ends of. -/
  coprocess : Option Coprocess
  lastBackground : Option Pid
  /-- How the last command ended whose output has been put into a word. -/
  substituted : Option Nat
  /-- The descriptors that words of the command have names of files for. -/
  channels : List Nat
  /-- The directory, as the script knows it. -/
  directory : String
  /-- The directories that have been kept, the latest first. -/
  directories : List String
  lastArgument : String
  /-- How many letters of an argument have been looked at. -/
  optionPlace : Nat
  seed : Nat
  /-- How the words of commands may go on. -/
  completions : List (String × Completion)
  /-- The commands of the shell that are out of use. -/
  disabled : List String
  /-- The names of parameters that mean nothing special any more. -/
  unlinked : List String
  started : Instant

/-- A job and the session that it starts with. -/
structure Task where
  job : Job
  session : Session

/-- What a job comes to, and the session that it leaves. -/
abbrev Answer := Except Leave Value × Session

/-- What programs do. -/
def Act (α : Type) : Type 1 := Session → Program Task Answer (Except Leave α × Session)

namespace Act

/-- One act after another. -/
def andThen {α β : Type} (p : Act α) (rest : α → Act β) : Act β := fun s =>
  (p s).bind fun
    | (.ok a, s) => rest a s
    | (.error e, s) => .done (.error e, s)

instance : Monad Act where
  pure a := fun s => .done (.ok a, s)
  bind := andThen

instance : MonadStateOf Session Act where
  get := fun s => .done (.ok s, s)
  set s := fun _ => .done (.ok (), s)
  modifyGet f := fun s =>
    let (a, s) := f s
    .done (.ok a, s)

instance : MonadExceptOf Leave Act where
  throw e := fun s => .done (.error e, s)
  tryCatch p handle := fun s =>
    (p s).bind fun
      | (.ok a, s) => .done (.ok a, s)
      | (.error e, s) => handle e s

instance {α : Type} : Inhabited (Act α) := ⟨throw .fatal⟩

/-- What an act comes to, if it leaves off too. -/
def outcome {α : Type} (p : Act α) : Act (Except Leave α) := fun s =>
  (p s).bind fun (r, s) => .done (.ok r, s)

/-- Does a job here. -/
def call (job : Job) : Act Value := fun s => .call ⟨job, s⟩ fun (r, s) => .done (r, s)

/-- Starts a process for a job, with a session of its own. -/
def fork (job : Job) : Act Pid := fun s => .fork ⟨job, s⟩ fun pid => .done (.ok pid, s)

/-- A step that may have to wait. -/
def step {α : Type} (act : Pid → Kernel → Option (α × Kernel)) : Act α := fun s =>
  .step act fun a => .done (.ok a, s)

/-- Looks at the system. -/
def look {α : Type} (f : Pid → Kernel → α) : Act α := step fun pid k => some (f pid k, k)

/-- Changes the system. -/
def alter (f : Pid → Kernel → Kernel) : Act Unit := step fun pid k => some ((), f pid k)

/-- Waits until something is there. -/
def await {α : Type} (f : Pid → Kernel → Option α) : Act α :=
  step fun pid k => (f pid k).map fun a => (a, k)

/-- Repeats a step until it comes to an end, but at most so many times. -/
def turns {α β : Type} (step : β → Act (β ⊕ α)) : Nat → β → Act α
  | 0, _ => throw (.gone (.signal Signal.kill))
  | n + 1, b => do
    match ← step b with
    | .inl b => turns step n b
    | .inr a => return a

/-- The number of turns after which a program is taken to go on forever. -/
def manyTurns : Nat := 1000000000000

/-- Repeats a step until it comes to an end. -/
def repeating {α β : Type} (b : β) (step : β → Act (β ⊕ α)) : Act α := turns step manyTurns b

/-- Repeats a step as long as it asks for it. -/
def again (step : Act Bool) : Act Unit :=
  repeating () fun _ => do return if ← step then .inl () else .inr ()

/-! ## Jobs -/

/-- The status that a job comes to. -/
def callStatus (job : Job) : Act Nat := do
  match ← call job with
  | .status n => return n
  | _ => return (← get).status

/-- Runs a statement. -/
def run (s : Statement) : Act Unit := do
  let _ ← call (.statement s)

/-- The arguments that words stand for. -/
def fields (words : List Word) : Act (List String) := do
  match ← call (.fields words) with
  | .texts l => return l
  | _ => return []

/-- A word expanded. -/
def letters (w : Word) (manner : Manner) : Act (List Letter) := do
  match ← call (.letters w manner) with
  | .letters l => return l
  | _ => return []

/-! ## The system -/

/-- The number of this process. -/
def pid : Act Pid := look fun pid _ => pid

/-- The time. -/
def now : Act Instant := look fun _ k => k.now

/-- The disk as the program sees it. -/
def tree : Act Tree := look fun pid k => k.tree pid

/-- Changes the disk, unless the system refuses. -/
def edit (change : Tree → Instant → Except IoError Tree) : Act (Except IoError Unit) :=
  step fun pid k =>
    match change (k.tree pid) k.now with
    | .ok t => some (.ok (), k.withTree t)
    | .error e => some (.error e, k)

/-- Opens a file under a descriptor, and waits for somebody at the other end if it is a named
pipe. -/
def openAt (fd : Nat) (p : Path) (a : Access) (mode : Nat) : Act (Except IoError Unit) := do
  let opened : Except IoError Nat ← step fun pid k =>
    match k.openPath pid p a mode with
    | .error e => some (.error e, k)
    | .ok (number, k) => some (.ok number, k.redirect pid fd (some number))
  match opened with
  | .error e => return .error e
  | .ok number =>
    await fun _ k => if k.isMet (k.opens.getD number default) then some () else none
    return .ok ()

/-- The first descriptor from a number on that is not open. -/
def freeFrom (first : Nat) : Act Nat := look fun pid k =>
  let taken := (k.process pid).descriptors.map (·.1)
  ((List.range (taken.length + 1)).map (· + first)).find? (fun n => !taken.contains n)
    |>.getD first

/-- Closes a descriptor. -/
def close (fd : Nat) : Act Unit := alter fun pid k => k.redirect pid fd none

/-- Leads a descriptor to where another one leads; whether that one is open. -/
def duplicate (source target : Nat) : Act Bool := step fun pid k =>
  match k.opened? pid source with
  | none => some (false, k)
  | some (number, _) => some (true, k.redirect pid target (some number))

/-- Whether a descriptor is open. -/
def isOpen (fd : Nat) : Act Bool := look fun pid k => (k.opened? pid fd).isSome

/-- Opens a pipe under two descriptors that are not used otherwise: to read it, and to write to it. -/
def pipe : Act (Nat × Nat) := do
  let reading ← freeFrom Kernel.keptFrom
  step fun pid k =>
    let ((source, target), k) := k.openPipe
    let k := k.redirect pid reading (some source)
    let writing :=
      let taken := (k.process pid).descriptors.map (·.1)
      ((List.range (taken.length + 1)).map (· + Kernel.keptFrom)).find? (fun n => !taken.contains n)
        |>.getD (reading + 1)
    some ((reading, writing), k.redirect pid writing (some target))

/-- Reads at most so many bytes. -/
def readSome (fd count : Nat) : Act (Except IoError ByteArray) := step fun pid k =>
  k.read pid fd count

/-- How many bytes are read at a time. -/
def blockSize : Nat := 65536

/-- Reads up to the end. -/
def readAll (fd : Nat) : Act (Except IoError ByteArray) :=
  repeating ByteArray.empty fun taken => do
    match ← readSome fd blockSize with
    | .error e => return .inr (.error e)
    | .ok bytes => return if bytes.isEmpty then .inr (.ok taken) else .inl (taken ++ bytes)

/-- Reads up to and with a byte, or up to the end. -/
def readTo (fd : Nat) (stop : UInt8) : Act (Except IoError ByteArray) :=
  repeating ByteArray.empty fun taken => do
    match ← step fun pid k => k.readTo pid fd stop with
    | .error e => return .inr (.error e)
    | .ok bytes =>
      let taken := taken ++ bytes
      return if bytes.isEmpty || taken.data.back? == some stop then .inr (.ok taken) else .inl taken

/-- Writes bytes. -/
def write (fd : Nat) (bytes : ByteArray) : Act (Except IoError Unit) :=
  if bytes.isEmpty then do
    if ← isOpen fd then return .ok () else return .error .badDescriptor
  else
    repeating bytes fun left => do
      match ← step fun pid k => k.write pid fd left with
      | .error e => return .inr (.error e)
      | .ok n => return if left.size ≤ n then .inr (.ok ()) else .inl (left.extract n left.size)

/-- Writes a text. -/
def writeText (fd : Nat) (s : String) : Act (Except IoError Unit) := write fd (packed s)

/-- Writes what a command of the shell tells. That it could not be written is said at the command's end. -/
def tell (text : String) : Act Unit := do
  match ← writeText 1 text with
  | .ok () => return ()
  | .error e => modify fun s => { s with unwritten := s.unwritten.orElse fun _ => some e }

/-- Writes a line to the standard error. -/
def complain (s : String) : Act Unit := do
  let _ ← writeText 2 (s ++ "\n")

/-- Waits for the end of a process. -/
def waitFor (child : Pid) : Act WaitStatus := await fun _ k => (k.process child).ended

/-- Waits until some time has gone by, or a signal has come that is caught. -/
def sleep (nanos : Nat) : Act Unit := do
  let wake := (← now).plus nanos
  alter fun pid k => k.alterProcess pid fun p => { p with wakes := some wake }
  step fun pid k =>
    if wake.later k.now && (k.process pid).pending.isEmpty then none
    else some ((), k.alterProcess pid fun p => { p with wakes := none })

/-- Ends the process at once with an exit code. -/
def gone {α : Type} (code : Nat) : Act α := throw (.gone (.exit (.ofNat code)))

/-! ## Parameters -/

/-- The parameter of a name. -/
def find? (name : String) : Act (Option Parameter) := do
  return (← get).parameters.find? fun p => p.name == name

/-- The value of a parameter with a name, if it is set. -/
def parameter? (name : String) : Act (Option String) := do
  return (← find? name).bind fun p => p.content.text?

/-- Whether an option is on. -/
def isOn (name : String) : Act Bool := do return (← get).settings.contains name

/-- Sets the status that the next command sees. -/
def setStatus (status : Nat) : Act Unit := modify fun s => { s with status }

end Act

/-- The number by which a shell knows how a program ended. -/
def statusNumber (status : WaitStatus) : Nat :=
  match status.code?, status.signal? with
  | some code, _ => code
  | none, some signal => 128 + signal
  | none, none => 128

end CrossBench.Shell
