import CrossBench.Shell.Arithmetic.Plain
import CrossBench.Shell.Arithmetic.Extended

/-!
# Complaints

What a shell says when something cannot be done, and what becomes of the script then. A complaint
begins with the name of the script and the number of a line.

In the plain dialect an error ends the script unless a command of the shell has been asked to try.
In the extended dialect some errors end the script, and others only the line.
-/

namespace CrossBench.Shell.Act

/-- Where the script is, as a complaint says it. -/
def place : Act String := do
  let s ← get
  match s.dialect with
  | .plain =>
    let command := (s.command.map (· ++ ": ")).getD ""
    return s.title ++ ": " ++ toString s.line ++ ": " ++ command
  | .extended =>
    return (if s.file = "" then s.title else s.file) ++ ": line " ++ toString s.line ++ ": "

/-- Complains about something in the script. -/
def fault (why : String) : Act Unit := do complain ((← place) ++ why)

/-- Complains about the arguments of a command of the shell. -/
def faultOf (command why : String) : Act Unit := do
  match (← get).dialect with
  | .plain => fault why
  | .extended => fault (command ++ ": " ++ why)

/-- Complains, and gives up what is being done. -/
def fail {α : Type} (why : String) : Act α := do
  fault why
  setStatus 2
  throw (.failure 2)

/-- Complains, and leaves out the rest of the line. -/
def discard {α : Type} (why : String) : Act α := do
  fault why
  setStatus 1
  throw .discard

/-- Complains, and ends the script. -/
def giveUp {α : Type} (why : String) : Act α := do
  fault why
  match (← get).dialect with
  | .plain =>
    setStatus 2
    throw (.failure 2)
  | .extended =>
    setStatus 1
    throw .fatal

/-- Complains of a parameter that is not set. -/
def unset {α : Type} (name : String) : Act α := do
  match (← get).dialect with
  | .plain => giveUp (name ++ ": parameter not set")
  | .extended =>
    let shown := if (decimal? name).isSome then "$" ++ name else name
    giveUp (shown ++ ": unbound variable")

/-- Complains of a parameter that must not be set; what becomes of the script is left open. -/
def isReadonly (name : String) : Act Unit := do
  match (← get).dialect with
  | .plain => fail (name ++ ": is read only")
  | .extended => fault (name ++ ": readonly variable")

/-- Complains of an expression without a value, in the name of a command. -/
def faultIn (command : String) (expression : String) (e : Arithmetic.Fault) : Act Unit := do
  let d := (← get).dialect
  match e with
  | .because why =>
    match d with
    | .plain => fail ("arithmetic expression: " ++ why ++ ": \"" ++ expression ++ "\"")
    | .extended => fault (command ++ expression ++ ": " ++ why)
  | .near expression why token =>
    fault (command ++ expression ++ ": " ++ why ++ " (error token is \"" ++ token ++ "\")")
  | .unset name => unset name
  | .illegal value => fail ("Illegal number: " ++ value)
  | .readonly name => isReadonly name
  | .subscript name => fault (name ++ ": bad array subscript")

/-- The value of an expression, if it has one; its assignments are made. -/
def evaluate? (command expression : String) : Act (Option Int) := do
  let s ← get
  let t ← now
  let (result, after) :=
    match s.dialect with
    | .plain => Arithmetic.Plain.evaluate s t expression
    | .extended => Arithmetic.Extended.evaluate s t expression
  set after
  match result with
  | .ok n => return some n
  | .error e =>
    faultIn command expression e
    return none

/-- The value of an expression. Without one the rest of the line is left out. -/
def evaluate (expression : String) : Act Int := do
  match ← evaluate? "" expression with
  | some n => return n
  | none =>
    setStatus 1
    throw .discard

/-! ## Setting parameters -/

/-- Does what a value means that some parameters are set to. -/
def noteAssignment (name value : String) : Act Unit := do
  let n := ((Arithmetic.integer? (some 10) value).getD 0)
  match name, (← get).dialect with
  | "OPTIND", _ => modify fun s => { s with optionPlace := 0 }
  | "RANDOM", .extended => modify fun s => { s with seed := (n % Nat.pow 2 32).toNat }
  | "SECONDS", .extended =>
    let t ← now
    modify fun s => { s with started := { t with seconds := t.seconds - n } }
  | "BASH_ARGV0", .extended => modify fun s => { s with title := value }
  | "GLOBIGNORE", .extended => unless value = "" do modify fun s => s.switch "dotglob" true
  | "LINENO", .extended =>
    modify fun s => if s.unlinked.contains name then s else s.forget name
  | _, _ => pure ()

/-- Sets a parameter, or an element of it; whether that is possible. -/
def assign? (name : String) (element : Option (Int ⊕ String)) (value : String) : Act Bool := do
  let s ← get
  let (name, element) ←
    match element, s.elementMeant? name with
    | none, some (array, inside) =>
      if (s.contentOf array).isKeyed then pure (array, some (.inr inside))
      else pure (array, (← evaluate? "" inside).map .inl)
    | _, _ => pure (name, element)
  if s.isProtected name then
    isReadonly name
    return false
  else
    let p := s.get? name
    let value ←
      if p.any (·.integer) then
        match ← evaluate? "" value with
        | some n => pure (some (toString n))
        | none => pure none
      else pure (some value)
    match value with
    | none => return false
    | some value =>
      match element with
      | some (.inl n) =>
        if ((s.contentOf name).place? n).isNone then
          fault (name ++ "[" ++ toString n ++ "]: bad array subscript")
          return false
      | _ => pure ()
      modify fun s => s.store name element value
      noteAssignment name value
      return true

/-- Sets a parameter. -/
def assign (name value : String) : Act Unit := do
  unless ← assign? name none value do
    setStatus 1
    throw .discard

/-- Sets a parameter, whatever protects it. -/
def setParameter (name value : String) : Act Unit := modify fun s => s.store name none value

end CrossBench.Shell.Act
