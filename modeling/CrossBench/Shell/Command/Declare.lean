import CrossBench.Shell.Command.Arguments
import CrossBench.Shell.Expand

/-!
# Declaring parameters

The commands that give parameters values and properties, make them a function's own, and forget them.
-/

namespace CrossBench.Shell.Act

/-- An argument divided at its first equals sign. -/
def divided (w : String) : String × Option String :=
  let name := w.toList.takeWhile (· != '=')
  (String.ofList name,
    if name.length < w.length then some (String.ofList (w.toList.drop (name.length + 1))) else none)

/-- Makes a parameter the own one of the function that is under way. -/
def makeLocal (name : String) : Act Unit := do
  let s ← get
  match s.frames with
  | [] => pure ()
  | frame :: rest =>
    unless frame.own.any fun f => f.1 = name do
      set { s with frames := { frame with own := (name, s.find? name) :: frame.own } :: rest }
      if s.dialect = .extended then
        let exported := (s.find? name).any (·.exported)
        modify fun s => s.put { Parameter.fresh name with exported }

/-- Changes what is known of a parameter, which is there afterwards. -/
def alterParameter (name : String) (change : Parameter → Parameter) : Act Unit :=
  modify fun s =>
    let name := s.meant name 10
    s.put (change ((s.find? name).getD (.fresh name)))

/-! ## The plain dialect -/

/-- Lists parameters by a command that makes them so. -/
def listParameters (command : String) (p : Parameter → Bool) : Act Unit := do
  let shown := ((← get).parameters.filter p).mergeSort fun a b => a.name ≤ b.name
  let lines := shown.map fun p =>
    command ++ " " ++ p.name ++
      (match p.content.text? with
        | some v => "=" ++ Quoting.singleDouble v
        | none => "") ++ "\n"
  tell (String.join lines)

/-- Gives parameters values and a property. -/
def plainDeclare (change : Parameter → Parameter) (arguments : List String) : Act Nat := do
  arguments.forM fun a => do
    let (name, value) := divided a
    unless isName name do fail (name ++ ": bad variable name")
    if let some v := value then
      let _ ← assign? name none v
    alterParameter name change
  return 0

/-- The commands `export` and `readonly` of the plain dialect. -/
def plainExport (command : String) (arguments : List String) : Act Nat := do
  match ← optionsOf command "p" "" arguments with
  | .error status => return status
  | .ok o =>
    let exports := command = "export"
    if o.has 'p' || o.rest.isEmpty then
      listParameters command fun p => if exports then p.exported else p.readonly
      return 0
    else
      plainDeclare (fun p => if exports then { p with exported := true } else { p with readonly := true })
        o.rest

/-- The command `local` of the plain dialect. -/
def plainLocal (arguments : List String) : Act Nat := do
  if (← get).frames.isEmpty then
    fail "not in a function"
  else
    arguments.forM fun a => do
      let (name, value) := divided a
      unless name = "-" do
        unless isName name || value.isSome do fail (name ++ ": bad variable name")
        makeLocal name
        if let some v := value then
          let _ ← assign? name none v
    return 0

/-! ## The extended dialect -/

/-- A parameter with its properties and its value, as a command that declares it. -/
def declaration (wide : Bool) (p : Parameter) : String :=
  let letters := attributes p
  "declare -" ++ (if letters = "" then "-" else letters) ++ " " ++ p.name ++ declaredValue wide p

/-- A function with its properties, as the command that shows functions has it. -/
def functionDeclaration (nameOnly : Bool) (f : Function) : String :=
  let letters := "f" ++ (if f.readonly then "r" else "") ++ (if f.traced then "t" else "")
    ++ (if f.exported then "x" else "")
  let line := "declare -" ++ letters ++ " " ++ f.name ++ "\n"
  if nameOnly then line
  else writtenFunction f.name true f.body ++ "\n" ++ (if letters = "f" then "" else line)

/-- The functions by their names. -/
def sortedFunctions (s : Session) : List Function := s.functions.mergeSort fun a b => a.name ≤ b.name

/-- A name with its subscript, whether a value is added to what is there, and the value. -/
def dividedName (a : String) : String × Option String × Bool × Option String :=
  let (left, value) := divided a
  let adds := value.isSome && left.endsWith "+"
  let left := if adds then String.ofList left.toList.dropLast else left
  let name := String.ofList (left.toList.takeWhile (· != '['))
  let subscript :=
    if name.length < left.length && left.endsWith "]" then
      some (String.ofList ((left.toList.drop (name.length + 1)).dropLast))
    else none
  (if subscript.isSome then name else left, subscript, adds, value)

/-- The lines that say what the parameters are worth. -/
def parameterLines : Act String := do
  let s ← get
  let sorted := s.listed
  let shown := sorted.filterMap fun p =>
    match p.content, s.dialect with
    | .nothing, _ => none
    | .indexed [], _ => if p.pending then none else some (p.name ++ "=()\n")
    | .keyed [], _ => if p.pending then none else some (p.name ++ "=()\n")
    | .text v, .plain => some (p.name ++ "=" ++ Quoting.singleDouble v ++ "\n")
    | .text v, .extended => some (p.name ++ "=" ++ (if v = "" then "" else Quoting.asNeeded s.isWide v) ++ "\n")
    | _, _ => some (p.name ++ declaredValue s.isWide p ++ "\n")
  let functions := (s.functions.mergeSort fun a b => a.name ≤ b.name).map fun f =>
    if s.dialect = .plain || s.isOn "posix" then "" else writtenFunction f.name true f.body ++ "\n"
  return String.join (shown ++ functions)

/-- Gives a parameter the properties of some letters, or takes them. -/
def withLetters (given taken : List Char) (p : Parameter) : Parameter :=
  let recase (p : Parameter) (on : Bool) (c : Casing) : Parameter :=
    { p with casing := if on then some c else if p.casing = some c then none else p.casing }
  let put (p : Parameter) (on : Bool) (c : Char) : Parameter :=
    match c with
    | 'x' => { p with exported := on }
    | 'i' => { p with integer := on }
    | 'u' => recase p on .capitals
    | 'l' => recase p on .small
    | 'c' => recase p on .capitalized
    | 'n' => { p with reference := on }
    | 'a' =>
      match p.content, on with
      | .nothing, true => { p with content := .indexed [], pending := true }
      | .text v, true => { p with content := .indexed [(0, v)] }
      | _, _ => p
    | 'A' =>
      match p.content, on with
      | .nothing, true => { p with content := .keyed [], pending := true }
      | .text v, true => { p with content := .keyed [("0", v)] }
      | _, _ => p
    | _ => p
  taken.foldl (fun p c => put p false c) (given.foldl (fun p c => put p true c) p)

/-- How a command declares parameters: the letters of the properties that it gives and takes. -/
structure Declaring where
  command : String
  given : List Char
  taken : List Char

namespace Declaring

/-- Whether the parameters become those of the function that is under way. -/
def isLocal (d : Declaring) : Bool :=
  d.command ≠ "export" && d.command ≠ "readonly" && !d.given.contains 'g'

/-- Refuses to declare a parameter. -/
def refuse (d : Declaring) (why : String) : Act Bool := do
  faultOf d.command why
  return false

/-- Sets what has been kept of a parameter outside of all functions, if one of them has made it its
own. -/
def setOutside? (s : Session) (name : String) (change : Parameter → Parameter) : Option Session :=
  if s.frames.any fun f => f.own.any fun o => o.1 = name then
    let rec go : List Frame → List Frame
      | [] => []
      | f :: rest =>
        if rest.any fun f => f.own.any fun o => o.1 = name then f :: go rest
        else
          { f with
            own := f.own.map fun o =>
              if o.1 = name then (name, some (change (o.2.getD (.fresh name)))) else o } :: rest
    some { s with frames := go s.frames }
  else none

/-- Declares a parameter that stands for another one. -/
def reference (d : Declaring) (name : String) (value : Option String) : Act Bool := do
  let s ← get
  match value with
  | none => alterParameter name fun p => { p with reference := true }
  | some target =>
    let base := String.ofList (target.toList.takeWhile (· != '['))
    if target = name then
      if s.frames.isEmpty then
        return ← d.refuse (name ++ ": nameref variable self references not allowed")
      else faultOf d.command ("warning: " ++ name ++ ": circular name reference")
    else if target ≠ "" && !isName base then
      return ← d.refuse ("\x60" ++ target ++ "': invalid variable name for name reference")
    modify fun s =>
      s.put { (s.parameters.find? fun p => p.name = name).getD (.fresh name) with
        reference := true, content := .text target }
  if d.given.contains 'r' then
    modify fun s =>
      match s.parameters.find? fun p => p.name = name with
      | some p => s.put { p with readonly := true }
      | none => s
  return true

/-- Declares a parameter; whether that is possible. -/
def declare (d : Declaring) (a : String) : Act Bool := do
  let (name, subscript, adds, value) := dividedName a
  let s ← get
  if a = "-" && d.command = "local" then
    modify fun s =>
      { s with
        frames :=
          match s.frames with
          | f :: rest => { f with settings := some (f.settings.getD s.settings) } :: rest
          | [] => [] }
    return true
  else if !isName name then d.refuse ("\x60" ++ a ++ "': not a valid identifier")
  else if d.isLocal && !s.frames.isEmpty && d.given.all (· ≠ 'n') && s.isProtected name
      && !((s.frames.head?.map (·.own)).getD []).any (fun o => o.1 = name) then
    d.refuse (name ++ ": readonly variable")
  else
    if d.isLocal && !s.frames.isEmpty then
      let inherited := if d.given.contains 'I' then s.find? name else none
      makeLocal name
      if let some p := inherited then
        if ((← get).find? name).any fun q => q.content matches .nothing then modify fun s => s.put p
    if d.given.contains 'n' then return ← d.reference name value
    let s ← get
    let p := (s.get? name).getD (.fresh name)
    if d.taken.contains 'n' && p.reference then
      alterParameter name fun p => { p with reference := false }
    if p.readonly && d.taken.contains 'r' then d.refuse (name ++ ": readonly variable")
    else if p.readonly && value.isSome then
      match d.command with
      | "readonly" | "export" =>
        isReadonly name
        return false
      | _ => d.refuse (name ++ ": readonly variable")
    else if (d.taken.contains 'a' || d.taken.contains 'A') && p.content.isArray then
      d.refuse (name ++ ": cannot destroy array variables in this way")
    else if d.given.contains 'a' && p.content.isKeyed then
      d.refuse (name ++ ": cannot convert associative to indexed array")
    else if d.given.contains 'A' && p.content.isArray && !p.content.isKeyed then
      d.refuse (name ++ ": cannot convert indexed to associative array")
    else
      let given := d.given.filter (· ≠ 'r')
      let given := if subscript.isSome && !p.content.isArray && !given.contains 'A' then 'a' :: given else given
      let change := withLetters given d.taken
      match (if d.given.contains 'g' then setOutside? s name change else none), value with
      | some outside, none =>
        set outside
        return true
      | some _, some v =>
        modify fun s =>
          (setOutside? s name fun p => { change p with content := .text v }).getD s
        return true
      | none, _ =>
        alterParameter name change
        let ok ←
          match value with
          | none => pure true
          | some v => do
            let e ← subscript.mapM fun t => element name (.ofQuoted t)
            let v ← if adds then appended name e v else pure v
            assign? name e v
        if d.given.contains 'r' then alterParameter name fun p => { p with readonly := true }
        return ok

/-- Shows functions, or gives them properties. -/
def functions (d : Declaring) (names : List String) : Act Nat := do
  let nameOnly := d.given.contains 'F'
  let changes := d.given.any (fun c => c == 'r' || c == 'x' || c == 't') || !d.taken.isEmpty
  if names.any fun n => n.toList.contains '=' && isName (String.ofList (n.toList.takeWhile (· != '='))) then
    faultOf d.command "cannot use \x60-f' to make functions"
    return 1
  else if names.isEmpty then
    let wanted := (sortedFunctions (← get)).filter fun f =>
      (!d.given.contains 'x' || f.exported) && (!d.given.contains 'r' || f.readonly)
        && (!d.given.contains 't' || f.traced)
    tell (String.join (wanted.map (functionDeclaration nameOnly)))
    return 0
  else
    names.foldlM (fun status n => do
      match (← get).functions.find? fun f => f.name = n with
      | none =>
        if d.command = "export" || d.command = "readonly" then
          faultOf d.command (n ++ ": not a function")
        else if d.given.contains 'p' then faultOf d.command (n ++ ": not found")
        return 1
      | some f =>
        if changes then
          if f.readonly && d.taken.contains 'r' then
            faultOf d.command (n ++ ": readonly function")
            return 1
          else
            let flag (c : Char) (old : Bool) : Bool :=
              (old || d.given.contains c) && !d.taken.contains c
            let f := { f with
              readonly := flag 'r' f.readonly, exported := flag 'x' f.exported
              traced := flag 't' f.traced }
            modify fun s : Session =>
              { s with functions := s.functions.map fun g => if g.name = n then f else g }
            return status
        else
          tell <|
            if d.given.contains 'p' then functionDeclaration nameOnly f
            else if nameOnly then n ++ "\n"
            else writtenFunction n true f.body ++ "\n"
          return status) 0

/-- Shows the parameters with the properties that are asked for. -/
def list (d : Declaring) : Act Nat := do
  let s ← get
  let g := d.given
  if d.command = "local" then
    let own := (s.frames.head?.map (·.own)).getD []
    let shown := (own.filterMap fun o => s.find? o.1).mergeSort fun a b => a.name ≤ b.name
    tell (String.join (shown.map fun p => declaration s.isWide p ++ "\n"))
    return 0
  else
    let wanted (p : Parameter) : Bool :=
      (!g.contains 'x' || p.exported) && (!g.contains 'r' || p.readonly) &&
        (!g.contains 'a' || (p.content.isArray && !p.content.isKeyed)) &&
        (!g.contains 'A' || p.content.isKeyed) && (!g.contains 'i' || p.integer) &&
        (!g.contains 'n' || p.reference) && (!g.contains 'u' || p.casing = some .capitals) &&
        (!g.contains 'l' || p.casing = some .small)
    let shown := s.listed.filter wanted
    tell (String.join (shown.map fun p => declaration s.isWide p ++ "\n"))
    return 0

/-- Shows parameters by their names. -/
def showNamed (d : Declaring) (names : List String) : Act Nat := do
  let s ← get
  names.foldlM (fun status n => do
    match (s.listed.find? fun p => p.name = n).orElse fun _ => s.find? n with
    | some p =>
      tell (declaration s.isWide p ++ "\n")
      return status
    | none =>
      faultOf d.command (n ++ ": not found")
      return 1) 0

end Declaring

/-- The letters behind a sign in front of arguments, and the other arguments. -/
def signedLetters : List String → List Char × List Char × List String
  | [] => ([], [], [])
  | a :: rest =>
    match a.toList with
    | '-' :: '-' :: [] => ([], [], rest)
    | '-' :: c :: cs =>
      let (given, taken, rest) := signedLetters rest
      (c :: cs ++ given, taken, rest)
    | '+' :: c :: cs =>
      let (given, taken, rest) := signedLetters rest
      (given, c :: cs ++ taken, rest)
    | _ => ([], [], a :: rest)

/-- The commands of the extended dialect that declare parameters. What lists all parameters as they are
set is left to `listAll`. -/
def extendedDeclare (listAll : Act Nat) (command : String) (arguments : List String) : Act Nat := do
  let s ← get
  let isSetting := command = "export" || command = "readonly"
  let (given, taken, names) :=
    if isSetting then
      let o := Options.of "aAfnp" "" arguments
      match o.wrong with
      | some (c, _) => ([c], [], o.rest)
      | none => (o.given.map (·.1), [], o.rest)
    else signedLetters arguments
  let known := (if isSetting then "fnpaA" else "aAcfFgGiIlnprtux").toList
  match (given ++ taken).find? fun c => !known.contains c with
  | some c =>
    faultOf command ((if given.contains c then "-" else "+") ++ String.singleton c ++ ": invalid option")
    complain (command ++ ": usage: " ++ usageOf command)
    return 2
  | none =>
    if command = "local" && s.frames.isEmpty then
      faultOf command "can only be used in a function"
      return 1
    let undoes := isSetting && given.contains 'n'
    let letter := if command = "export" then 'x' else 'r'
    let letters := given.filter fun c => !(isSetting && c == 'n')
    let d : Declaring :=
      if !isSetting then ⟨command, given, taken⟩
      else if undoes then ⟨command, letters, [letter]⟩
      else ⟨command, letter :: letters, []⟩
    if given.contains 'f' || given.contains 'F' then d.functions names
    else if names.isEmpty then
      if !isSetting && given.isEmpty && taken.isEmpty && command ≠ "local" then listAll else d.list
    else if given.contains 'p' && !isSetting then d.showNamed names
    else
      names.foldlM (fun status a => do return if ← d.declare a then status else 1) 0

/-- A command that declares parameters. -/
def declareCommand (listAll : Act Nat) (command : String) (arguments : List String) : Act Nat := do
  match (← get).dialect with
  | .extended => extendedDeclare listAll command arguments
  | .plain => if command = "local" then plainLocal arguments else plainExport command arguments

/-- Sets an array that is among the arguments of a command that declares it. `options` are the
arguments in front. -/
def declareArray (command : String) (options : List String) (name : String) (append : Bool)
    (elements : List Element) : Act Unit := do
  let letters := (signedLetters options).1.filter "aAgIilucn".toList.contains
  let ok ←
    if command = "readonly" || command = "export" then do
      if letters.contains 'A' then alterParameter name (withLetters ['A'] [])
      pure true
    else (⟨command, letters, []⟩ : Declaring).declare name
  if (← get).isProtected name then
    isReadonly name
    setStatus 1
    throw .discard
  if ok then
    unless append do
      alterParameter name fun p =>
        if p.content.isKeyed then { p with content := .keyed [] } else { p with content := .indexed [] }
    assignArray name append elements
  else throw .discard

/-! ## Forgetting -/

/-- Forgets a function; whether that is possible. -/
def unsetFunction (name : String) : Act Bool := do
  let s ← get
  match s.functions.find? fun f => f.name = name with
  | some f =>
    if f.readonly then
      faultOf "unset" (name ++ ": cannot unset: readonly function")
      return false
    else
      set { s with functions := s.functions.filter fun f => f.name ≠ name }
      return true
  | none => return true

/-- Forgets an element of an array; whether that is possible. -/
def unsetElement (name subscript : String) : Act Bool := do
  let s ← get
  match s.get? name with
  | none => return true
  | some p =>
    if p.readonly then
      faultOf "unset" (name ++ ": cannot unset: readonly variable")
      return false
    else if (subscript = "@" || subscript = "*") && !p.content.isKeyed then
      modify fun s =>
        if p.content.isArray then s.put { p with content := .indexed [] } else s.forget p.name
      return true
    else
      match ← element name (.ofQuoted subscript), p.content with
      | .inl n, .indexed elements =>
        match p.content.place? n with
        | some n =>
          modify fun s => s.put { p with content := .indexed (elements.filter fun e => e.1 ≠ n) }
          return true
        | none =>
          faultOf "unset" ("[" ++ subscript ++ "]: bad array subscript")
          return false
      | .inr key, .keyed elements =>
        modify fun s => s.put { p with content := .keyed (elements.filter fun e => e.1 ≠ key) }
        return true
      | .inl 0, _ =>
        modify fun s => s.forget p.name
        return true
      | _, _ =>
        faultOf "unset" (name ++ ": not an array variable")
        return false

/-- Forgets a parameter. One that the function under way has made its own stays its own. -/
def unsetParameter (name : String) : Act Unit := modify fun s =>
  let isOwn := (s.frames.head?.map (·.own)).getD [] |>.any fun o => o.1 = name
  let inner := s.frames.drop 1
  match inner.findSome? fun f => f.own.find? fun o => o.1 = name with
  | some (_, old) =>
    if isOwn || s.dialect = .plain then s.forget name
    else
      let rec go : List Frame → List Frame
        | [] => []
        | f :: rest =>
          if f.own.any fun o => o.1 = name then
            { f with own := f.own.filter fun o => o.1 ≠ name } :: rest
          else f :: go rest
      let s := { s with frames := go s.frames }
      match old with
      | some p => s.put p
      | none => s.forget name
  | none => s.forget name

/-- The command `unset`. -/
def unsetCommand (arguments : List String) : Act Nat := do
  let d := (← get).dialect
  match ← optionsOf "unset" (if d = .plain then "fv" else "fvn") "" arguments with
  | .error status => return status
  | .ok o =>
    if d = .extended && o.has 'f' && o.has 'v' then
      faultOf "unset" "cannot simultaneously unset a function and a variable"
      return 1
    o.rest.foldlM (fun status a => do
      if o.has 'f' then return if ← unsetFunction a then status else 1
      else
        let (name, subscript, _, _) := dividedName a
        match subscript, d with
        | some t, .extended =>
          if isName name then return if ← unsetElement name t then status else 1
          else
            faultOf "unset" ("\x60" ++ a ++ "': not a valid identifier")
            return 1
        | _, _ =>
          let s ← get
          let target := if o.has 'n' then a else s.meant a 10
          if d = .plain && !isName a then fail (a ++ ": bad variable name")
          else if d = .extended && s.unlinked.all (· ≠ target) && Session.linkedNames.contains target then
            modify fun s => { s.forget target with unlinked := target :: s.unlinked }
            return status
          else if d = .extended && !isName a && o.has 'v' then
            faultOf "unset" ("\x60" ++ a ++ "': not a valid identifier")
            return 1
          else if (s.find? target).any (·.readonly) then
            match d with
            | .plain => fail (a ++ ": is read only")
            | .extended =>
              faultOf "unset" (a ++ ": cannot unset: readonly variable")
              return 1
          else if (s.find? target).isNone && d = .extended && !o.has 'v' then
            return if ← unsetFunction a then status else 1
          else
            unsetParameter target
            return status) 0

/-- The command `let`. -/
def letCommand (arguments : List String) : Act Nat := do
  if arguments.isEmpty then
    faultOf "let" "expression expected"
    return 1
  else
    arguments.foldlM (fun _ a => do
      match ← evaluate? "let: " a with
      | some n => return if n = 0 then 1 else 0
      | none => return 1) 1

/-- The command `shopt`. -/
def shoptCommand (arguments : List String) : Act Nat := do
  match ← optionsOf "shopt" "pqsuo" "" arguments with
  | .error status => return status
  | .ok o =>
    let s ← get
    let letters := o.has 'o'
    let all := if letters then Session.optionNames s.dialect else Session.shoptNames
    let line (n : String) (on : Bool) : String :=
      if o.has 'p' then
        if letters then "set " ++ (if on then "-o " else "+o ") ++ n ++ "\n"
        else "shopt " ++ (if on then "-s " else "-u ") ++ n ++ "\n"
      else
        n ++ String.ofList (List.replicate (15 - n.length) ' ') ++ "\t"
          ++ (if on then "on" else "off") ++ "\n"
    if o.has 's' && o.has 'u' then
      faultOf "shopt" "cannot set and unset shell options simultaneously"
      return 1
    else if o.rest.isEmpty then
      let wanted (n : String) : Bool :=
        if o.has 's' then s.isOn n else if o.has 'u' then !s.isOn n else true
      unless o.has 'q' do
        tell (String.join ((all.filter wanted).map fun n => line n (s.isOn n)))
      return 0
    else
      o.rest.foldlM (fun status n => do
        if !all.contains n then
          faultOf "shopt" (n ++ ": invalid " ++ (if letters then "option" else "shell option") ++ " name")
          return 1
        else if o.has 's' || o.has 'u' then
          modify fun s => s.switch n (o.has 's')
          return status
        else
          let on ← isOn n
          unless o.has 'q' do
            tell (line n on)
          return if on then status else 1) 0

end CrossBench.Shell.Act
