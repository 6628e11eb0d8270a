import CrossBench.Shell.Command.Declare

/-!
# Commands for the flow of a script

Leaving the script, a function or a loop, and the arguments and options of the script.
-/

namespace CrossBench.Shell.Act

/-- The status that is an argument of a command that leaves something. -/
def statusArgument (command : String) (arguments : List String) : Act (Except Nat Nat) := do
  let s ← get
  match arguments with
  | [] => return .ok s.status
  | a :: more =>
    match s.dialect with
    | .plain => return .ok (← plainNumber a)
    | .extended =>
      match Arithmetic.integer? (some 10) a with
      | none =>
        faultOf command (a ++ ": numeric argument required")
        return .error 2
      | some n =>
        if more.isEmpty then return .ok (n % 256).toNat
        else
          faultOf command "too many arguments"
          return .error 1

/-- Ends the script. -/
def exitCommand (arguments : List String) : Act Nat := do
  match ← statusArgument "exit" (if arguments.head? = some "--" then arguments.drop 1 else arguments) with
  | .ok n => throw (.exit (n % 256))
  | .error 1 => return 1
  | .error n => throw (.exit n)

/-- Ends a function or a script that has been read in. -/
def returnCommand (arguments : List String) : Act Nat := do
  let s ← get
  if s.dialect = .extended && s.calls = 0 then
    faultOf "return" "can only \x60return' from a function or sourced script"
    return 2
  match ← statusArgument "return" arguments with
  | .ok n => throw (.return_ n)
  | .error 1 => throw .discard
  | .error n => throw (.return_ n)

/-- How many loops are to be left. -/
def levelsArgument (command : String) (arguments : List String) : Act (Except Nat Nat) := do
  let s ← get
  if s.dialect = .extended && s.loops = 0 then
    faultOf command "only meaningful in a \x60for', \x60while', or \x60until' loop"
    return .error 0
  match arguments, s.dialect with
  | [], _ => return .ok (min 1 s.loops)
  | a :: _, .plain =>
    let n ← plainNumber a
    if n = 0 then fail ("Illegal number: " ++ a)
    return .ok (min n s.loops)
  | a :: more, .extended =>
    match Arithmetic.integer? (some 10) a with
    | none =>
      faultOf command (a ++ ": numeric argument required")
      throw (.exit 128)
    | some n =>
      if !more.isEmpty then
        faultOf command "too many arguments"
        throw .discard
      else if n ≤ 0 then
        faultOf command (a ++ ": loop count out of range")
        setStatus 1
        throw (.break_ s.loops)
      else return .ok (min n.toNat s.loops)

/-- Leaves loops. -/
def breakCommand (arguments : List String) : Act Nat := do
  match ← levelsArgument "break" arguments with
  | .error n => return n
  | .ok 0 => return 0
  | .ok n =>
    setStatus 0
    throw (.break_ n)

/-- Goes on with the next turn of a loop. -/
def continueCommand (arguments : List String) : Act Nat := do
  match ← levelsArgument "continue" arguments with
  | .error n => return n
  | .ok 0 => return 0
  | .ok n =>
    setStatus 0
    throw (.continue_ n)

/-- Drops arguments of the script. -/
def shiftCommand (arguments : List String) : Act Nat := do
  let s ← get
  let drop (n : Nat) : Act Nat := do
    if n ≤ s.arguments.length then
      modify fun s => { s with arguments := s.arguments.drop n }
      return 0
    else
      match s.dialect with
      | .plain => fail "can't shift that many"
      | .extended => return 1
  match arguments, s.dialect with
  | [], _ => drop 1
  | a :: _, .plain => drop (← plainNumber a)
  | a :: _, .extended =>
    match Arithmetic.integer? (some 10) a with
    | none =>
      faultOf "shift" (a ++ ": numeric argument required")
      return 1
    | some n =>
      if n < 0 then
        faultOf "shift" (a ++ ": shift count out of range")
        return 1
      else drop n.toNat

/-! ## Options -/

/-- A name with blanks behind it. -/
def padName (width : Nat) (name : String) : String :=
  name ++ String.ofList (List.replicate (width - name.length) ' ')

/-- Lists the options. -/
def listOptions (again : Bool) : Act Unit := do
  let s ← get
  let names := Session.optionNames s.dialect
  let lines := names.map fun n =>
    if again then "set " ++ (if s.isOn n then "-o " else "+o ") ++ n ++ "\n"
    else padName (if s.dialect = .plain then 16 else 15) n
      ++ (if s.dialect = .plain then "" else "\t") ++ (if s.isOn n then "on" else "off") ++ "\n"
  let front := if s.dialect = .plain && !again then "Current option settings\n" else ""
  tell (front ++ String.join lines)

/-- Sets an option by its name; whether there is one. -/
def setNamed (on : Bool) (name : String) : Act Bool := do
  if (Session.optionNames (← get).dialect).contains name then
    modify fun s => s.switch name on
    return true
  else return false

/-- Sets an option by its letter; whether there is one. -/
def setLetter (on : Bool) (c : Char) : Act Bool := do
  match (Session.letterOptions (← get).dialect).find? fun o => o.1 = c with
  | some (_, name) =>
    modify fun s => s.switch name on
    return true
  | none => return false

/-- Sets the options in front of other arguments; the letters among them that are in `others`, what
follows, and whether the options have an end of their own. -/
def takeSettings (others : List Char) : Nat → List String →
    Act (Except String (List Char × List String × Bool))
  | 0, rest => return .ok ([], rest, false)
  | _, [] => return .ok ([], [], false)
  | fuel + 1, a :: rest => do
    match a.toList with
    | sign :: letters =>
      if a = "--" then return .ok ([], rest, true)
      else if a = "-" then
        modify fun s => (s.switch "xtrace" false).switch "verbose" false
        return .ok ([], rest, !rest.isEmpty)
      else if (sign ≠ '-' ∧ sign ≠ '+') ∨ (letters = [] ∧ (← get).dialect = .extended) then
        return .ok ([], a :: rest, false)
      else
        let on := sign = '-'
        let found := letters.filter others.contains
        let (behind, wrong) ← letters.foldlM (fun ((rest, wrong) : List String × Option String) c => do
          if wrong.isSome || others.contains c then return (rest, wrong)
          else if c = 'o' then
            match rest with
            | [] =>
              listOptions (!on)
              return ([], none)
            | name :: more =>
              return (more, if ← setNamed on name then none else some ("o " ++ name))
          else return (rest, if ← setLetter on c then none else some (String.singleton c)))
          (rest, none)
        match wrong with
        | some e => return .error e
        | none =>
          match ← takeSettings others fuel behind with
          | .ok (more, rest, ended) => return .ok (found ++ more, rest, ended)
          | .error e => return .error e
    | [] => return .ok ([], a :: rest, false)

/-- Sets options and the arguments of the script. -/
def setCommand (arguments : List String) : Act Nat := do
  if arguments.isEmpty then
    tell (← parameterLines)
    return 0
  match ← takeSettings [] (arguments.length + 1) arguments with
  | .ok (_, rest, ended) =>
    if ended || !rest.isEmpty then modify fun s => { s with arguments := rest }
    return 0
  | .error e =>
    match (← get).dialect with
    | .plain => fail ("Illegal option -" ++ e)
    | .extended =>
      if e.startsWith "o " then
        faultOf "set" (String.ofList (e.toList.drop 2) ++ ": invalid option name")
      else
        faultOf "set" ("-" ++ e ++ ": invalid option")
        complain ("set: usage: " ++ usageOf "set")
      return 2

end CrossBench.Shell.Act
