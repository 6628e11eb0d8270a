import CrossBench.Tool.Editor.Script
import CrossBench.Tool.Input
import CrossBench.Tool.Make
import CrossBench.Tool.Name
import CrossBench.Tool.Start

/-!
# The line editor

`sed` reads its input line by line and does for each line what its script says.
-/

namespace CrossBench.Tool.Editor

open Shell Shell.Act

/-- A line that has been read, and whether it ended with a line break. -/
abbrev Line := List Char × Bool

/-- What is kept while a script is run. -/
structure Editing where
  space : List Char := []
  hold : List Char := []
  number : Nat := 0
  /-- Whether the line ended with a line break. -/
  whole : Bool := true
  /-- What is printed behind the line: a text, or a file. -/
  queue : List (Bool × String) := []
  /-- The ranges under way, by the place of their command, and their last lines if those are known. -/
  ranges : List (Nat × Option Nat) := []
  /-- Whether there has been a substitution since the last line was read. -/
  replaced : Bool := false
  lastExpression : Option Expression := none
  /-- The files that have not been opened. -/
  files : List String := []
  /-- The file that is being read. -/
  current : Option (Nat × String) := none
  /-- The next line, if it has been looked at. -/
  ahead : Option (Option Line) := none
  /-- The files that are written or read line by line, and their descriptors. -/
  channels : List (String × Nat) := []
  /-- Whether the last line that has been printed lacks a line break. -/
  open_ : Bool := false
  /-- What is to become of the file that is being read. -/
  output : List Char := []
  status : Nat := 0
  /-- Whether the next round begins without reading a line. -/
  keepsSpace : Bool := false

/-- How a script is run. -/
structure Setting where
  quiet : Bool
  separate : Bool
  /-- Whether files are changed, and the ending for what they were. -/
  inPlace : Option String
  zero : Bool
  /-- Whether a character may take several bytes. -/
  wide : Bool
  width : Nat
  script : Array Instruction

/-- How a round ends. -/
inductive Ending where
  | usual
  /-- Without printing the line. -/
  | silent
  | quit (silent : Bool) (status : Nat)

namespace Editing

/-- Prints bytes to the standard output, or to what a file becomes. -/
def emitBytes (s : Setting) (e : Editing) (bytes : List Char) (whole : Bool) : Act Editing := do
  let mark := lineMark s.zero
  let text := (if e.open_ then [mark] else []) ++ bytes ++ (if whole then [mark] else [])
  let e := { e with open_ := !whole }
  if s.inPlace.isSome then return { e with output := text.reverse ++ e.output }
  else
    outChars text
    return e

/-- Prints characters. -/
def emit (s : Setting) (e : Editing) (cs : List Char) (whole : Bool) : Act Editing :=
  emitBytes s e (Letters.narrow cs) whole

/-- Opens a file for writing, unless it is open. -/
def channel (e : Editing) (name : String) : Option Nat := (e.channels.find? fun c => c.1 = name).map (·.2)

/-- Writes a line to a file that a command names. -/
def writeTo (s : Setting) (e : Editing) (name : String) (cs : List Char) : Act Editing := do
  if name = "/dev/stdout" then emit s e cs true
  else if name = "/dev/stderr" then
    let _ ← Act.write 2 (packedChars (Letters.narrow cs ++ [lineMark s.zero]))
    return e
  else
    match e.channel name with
    | some fd =>
      let _ ← Act.write fd (packedChars (Letters.narrow cs ++ if e.whole then [lineMark s.zero] else []))
      return e
    | none => return e

/-- Puts the changed file in the place of the one that has been read. -/
def finishFile (s : Setting) (e : Editing) : Act Editing := do
  match e.current, s.inPlace with
  | some (fd, name), some ending =>
    closeInput fd
    let p := pathOf name
    let backup :=
      if ending.toList.contains '*' then ending.replace "*" (lastName name) else name ++ ending
    let _ ← Act.edit fun t present => do
      let mode ← (t.find p true).map t.disk.mode
      let t ← if ending = "" then pure t else t.rename present p (pathOf backup)
      let location ← t.place p false
      let (directory, n) ←
        match location with
        | .present l => .ok (l.dropLast, l.getLastD [])
        | .absent directory n => .ok (directory, n)
      let t := t.drop present (directory ++ [n])
      let (number, t) := t.addFile present directory n mode
      let t := t.setData present number fun _ => packedChars e.output.reverse
      t.setMode (fun _ => mode) p
    return { e with current := none, output := [], open_ := false }
  | some (fd, _), none =>
    closeInput fd
    return { e with current := none }
  | none, _ => return e

/-- Opens the next file that can be read. -/
def openNext (s : Setting) : Nat → Editing → Act Editing
  | 0, e => return e
  | fuel + 1, e => do
    match e.files with
    | [] => return e
    | name :: files =>
      let e := { e with files }
      let t ← tree
      let refuse (why : String) (status : Nat) : Act Editing := do
        say why
        openNext s fuel { e with status := max e.status status }
      let irregular :=
        match t.find (pathOf name) true with
        | .ok node => !node.isFile
        | .error _ => false
      if s.inPlace.isSome && irregular then
        refuse ("couldn't edit " ++ name ++ ": not a regular file") 4
      else
        match ← openInput name with
        | .error e => refuse ("can't read " ++ name ++ ": " ++ e.plainMessage) 2
        | .ok fd =>
          let directory := match t.locate (pathOf name) true with
            | .ok l => l.dropLast
            | .error _ => []
          if s.inPlace.isSome && !(t.alterableAt directory).isOk then
            stop 4 ("couldn't open temporary file " ++ directoryOf name ++ "/sedXXXXXX: "
              ++ IoError.denied.plainMessage)
          else if s.separate then return { e with current := some (fd, name), number := 0 }
          else return { e with current := some (fd, name) }

/-- Reads a line of the file that is open. -/
def readLine (s : Setting) (e : Editing) (fd : Nat) (name : String) : Act (Option Line × Editing) := do
  match ← readTo fd (lineEnd s.zero) with
  | .error why =>
    stop 4 ((if why = .isDirectory then "read error on " else "couldn't read ") ++ name ++ ": "
      ++ why.plainMessage)
  | .ok bytes =>
    if bytes.isEmpty then return (none, e)
    else
      let cs := charsOf bytes
      let whole := cs.getLast? = some (lineMark s.zero)
      return (some (Letters.decode s.wide (if whole then cs.dropLast else cs), whole), e)

/-- The next line of the file that is open, which stays there. -/
def peek (s : Setting) (e : Editing) : Act (Option Line × Editing) := do
  match e.ahead, e.current with
  | some l, _ => return (l, e)
  | none, some (fd, name) =>
    let (l, e) ← readLine s e fd name
    return (l, { e with ahead := some l })
  | none, none => return (none, e)

/-- Reads the next line of the input. -/
def nextLine (s : Setting) : Nat → Editing → Act (Option Line × Editing)
  | 0, e => return (none, e)
  | fuel + 1, e => do
    match e.current with
    | none =>
      if e.files.isEmpty then return (none, e)
      else
        let e ← openNext s (e.files.length + 1) e
        if e.current.isNone then return (none, e) else nextLine s fuel e
    | some _ =>
      let (l, e) ← peek s e
      let e := { e with ahead := none }
      match l with
      | some l => return (some l, e)
      | none => nextLine s fuel (← finishFile s e)

/-- Whether the line is the last one. -/
def isLast (s : Setting) (e : Editing) : Act (Bool × Editing) := do
  let (l, e) ← peek s e
  return (l.isNone && (s.separate || e.files.isEmpty), e)

/-- An expression, or the one that has been used last. -/
def expression (e : Editing) (x : Option Expression) : Act (Expression × Editing) := do
  match x.orElse fun _ => e.lastExpression with
  | some x => return (x, { e with lastExpression := some x })
  | none => stop 1 "-e expression #1, char 0: no previous regular expression"

/-- The pattern space as a text in which matches are looked for. -/
def subject (s : Setting) (e : Editing) (x : Expression) : Regex.Subject :=
  ⟨e.space.toArray, x.fold, x.lines, !s.wide⟩

/-- Whether an address means the line. -/
def isAt (s : Setting) (e : Editing) (a : Address) : Act (Bool × Editing) := do
  match a with
  | .line n => return (e.number = n, e)
  | .every first gap =>
    if gap = 0 then return (e.number = first, e)
    else return (first ≤ e.number && (e.number - first) % gap = 0, e)
  | .last => isLast s e
  | .fitting x =>
    let (x, e) ← expression e x
    return ((x.regex.find? (e.subject s x) 0).isSome, e)

/-- Whether a command is meant for the line. -/
def isMeant (s : Setting) (e : Editing) (place : Nat) (g : Guard) : Act (Bool × Editing) := do
  let (hit, e) ← unsigned
  return (hit != g.negated, e)
where
  /-- The same, before it is turned round. -/
  unsigned : Act (Bool × Editing) := do
    match g.first, g.second with
    | none, _ => return (true, e)
    | some a, none => isAt s e a
    | some a, some b =>
      let others := e.ranges.filter fun r => r.1 ≠ place
      match e.ranges.find? fun r => r.1 = place with
      | some (_, some stop) =>
        let e := if stop ≤ e.number then { e with ranges := (place, some 0) :: others } else e
        if stop = 0 then start a b others else return (e.number ≤ stop, e)
      | some (_, none) => ending b others
      | none => if g.early then ending b others else start a b others
  /-- A line that may be the last of the range. -/
  ending (b : RangeEnd) (others : List (Nat × Option Nat)) : Act (Bool × Editing) := do
    match b with
    | .at_ b =>
      let (hit, e) ← isAt s e b
      return (true, { e with ranges := (place, if hit then some 0 else none) :: others })
    | _ => return (true, e)
  /-- A line that may be the first of the range. -/
  start (a : Address) (b : RangeEnd) (others : List (Nat × Option Nat)) : Act (Bool × Editing) := do
    if g.early then return (false, e)
    else
      let (hit, e) ← isAt s e a
      if !hit then return (false, e)
      else
        let until_ (n : Nat) : Editing :=
          if n ≤ e.number then { e with ranges := (place, some 0) :: others }
          else { e with ranges := (place, some n) :: others }
        match b with
        | .plus n => return (true, until_ (e.number + n))
        | .multiple n => return (true, until_ (if n = 0 then 0 else (e.number + n - 1) / n * n))
        | .at_ (.line n) => return (true, until_ n)
        | .at_ .last =>
          let (last, e) ← isLast s e
          return (true, if last then e else { e with ranges := (place, none) :: others })
        | .at_ _ => return (true, { e with ranges := (place, none) :: others })

/-! ## Substitutions -/

/-- Characters as the casing that is under way has them, for one letter and for all; and the casing
behind them. -/
def cased (cs : List Char) : Option Char × Option Char → List Char × (Option Char × Option Char)
  | (once, always) =>
    let all : List Char :=
      match always with
      | some 'U' => cs.map Letters.toUpper
      | some 'L' => cs.map Letters.toLower
      | _ => cs
    match once, all with
    | some 'u', c :: rest => (Letters.toUpper c :: rest, none, always)
    | some 'l', c :: rest => (Letters.toLower c :: rest, none, always)
    | once, all => (all, once, always)

/-- What is put in for a match. -/
def replacement (pieces : List Piece) (m : Regex.Match) (subject : Regex.Subject) : List Char :=
  (pieces.foldl (fun (cs, casing) p =>
    let add (more : List Char) : List Char × (Option Char × Option Char) :=
      let (more, casing) := cased more casing
      (cs ++ more, casing)
    match p with
    | .text t => add t
    | .group n => add (m.text subject n)
    | .casing 'E' => (cs, (none, none))
    | .casing c => if c = 'u' || c = 'l' then (cs, (some c, casing.2)) else (cs, (none, some c)))
    (([] : List Char), ((none, none) : Option Char × Option Char))).1

/-- A text with matches replaced from a place on, and whether any was. -/
def replaceFrom (x : Substitution) (regex : Regex) (subject : Regex.Subject) :
    Nat → Nat → Nat → Option Nat → List Char × Bool
  | 0, _, _, _ => ([], false)
  | fuel + 1, place, count, before =>
    let size := subject.text.size
    match if size < place then none else regex.find? subject place with
    | none => ((subject.text.extract place size).toList, false)
    | some m =>
      let skipped := (subject.text.extract place m.start).toList
      if m.start = m.stop && before = some m.start then
        let (rest, hit) := replaceFrom x regex subject fuel (m.start + 1) count none
        (skipped ++ (subject.text.extract m.start (m.start + 1)).toList ++ rest, hit)
      else
        let count := count + 1
        let hit := count = x.number || (x.every && x.number < count)
        let own := if hit then replacement x.pieces m subject else (subject.text.extract m.start m.stop).toList
        if hit && !x.every then
          (skipped ++ own ++ (subject.text.extract m.stop size).toList, true)
        else
          let (step, next) : List Char × Nat :=
            if m.start = m.stop then ((subject.text.extract m.stop (m.stop + 1)).toList, m.stop + 1)
            else ([], m.stop)
          let (rest, more) := replaceFrom x regex subject fuel next count (some next)
          (skipped ++ own ++ step ++ rest, hit || more)

/-! ## Commands -/

/-- A line as `l` shows it, cut into lines of some width. -/
def listed (width : Nat) (cs : List Char) : List Char :=
  let shown (c : Char) : List Char :=
    match c with
    | '\\' => ['\\', '\\']
    | '\n' => ['\\', 'n']
    | '\t' => ['\\', 't']
    | '\r' => ['\\', 'r']
    | c =>
      if c = Char.ofNat 7 then ['\\', 'a']
      else if c = Char.ofNat 8 then ['\\', 'b']
      else if c = Char.ofNat 11 then ['\\', 'v']
      else if c = Char.ofNat 12 then ['\\', 'f']
      else if Quoting.isPrintable c then [c]
      else '\\' :: (Quoting.octal c.toNat).toList
  let (done, _) := cs.foldl (fun (done, column) c =>
    let t := shown c
    if 1 < width && width < column + t.length + 1 then (done ++ ['\\', '\n'] ++ t, t.length)
    else (done ++ t, column + t.length)) (([] : List Char), 0)
  done ++ ['$']

/-- Prints what is to stand behind the line. -/
def printQueue (s : Setting) (e : Editing) : Act Editing := do
  let e ← e.queue.foldlM (fun e (isFile, text) => do
    if isFile then
      match ← contents text with
      | .ok bytes =>
        if bytes.isEmpty then return e
        else
          let cs := charsOf bytes
          let whole := cs.getLast? = some '\n'
          emitBytes s e (if whole then cs.dropLast else cs) whole
      | .error _ => return e
    else if text = "" then return e
    else emitBytes s e text.toList.dropLast true) e
  return { e with queue := [] }

/-- Ends a round: the line is printed, unless that is not wanted, and what stands behind it. -/
def endRound (s : Setting) (e : Editing) (silent : Bool) : Act Editing := do
  let e ← if silent || s.quiet then pure e else emit s e e.space e.whole
  printQueue s e

/-- Reads a line into the pattern space, or behind what is there. -/
def readInto (s : Setting) (e : Editing) (behind : Bool) : Act (Bool × Editing) := do
  let (l, e) ← nextLine s (2 * e.files.length + 4) e
  match l with
  | none => return (false, e)
  | some (cs, whole) =>
    let space := if behind then e.space ++ '\n' :: cs else cs
    return (true, { e with space, whole, number := e.number + 1 })

/-- The place of a label. -/
def placeOf (s : Setting) (label : String) : Nat :=
  if label = "" then s.script.size
  else (s.script.findIdx? fun i => i.label == some label).getD s.script.size

/-- Does one command that is meant for the line; where it goes on, or how the round ends. -/
def perform (s : Setting) (e : Editing) (place : Nat) (c : Command) (g : Guard) :
    Act (Editing × (Nat ⊕ Ending)) := do
  let on (e : Editing) : Act (Editing × (Nat ⊕ Ending)) := return (e, .inl (place + 1))
  match c with
  | .block _ => on e
  | .nothing => on e
  | .lines 'a' text => on { e with queue := e.queue ++ [(false, String.ofList (Letters.narrow text))] }
  | .lines 'i' text => on (← if text = [] then pure e else emit s e text.dropLast true)
  | .lines _ text =>
    let underWay := g.second.isSome && !g.negated && e.ranges.any fun r => r.1 = place && r.2 ≠ some 0
    let e ← if underWay || text = [] then pure e else emit s e text.dropLast true
    return (e, .inr .silent)
  | .branch c label =>
    if c = 'b' then return (e, .inl (placeOf s label))
    else if e.replaced == (c = 't') then return ({ e with replaced := false }, .inl (placeOf s label))
    else on { e with replaced := false }
  | .quit silent status => return (e, .inr (.quit silent status))
  | .list width => on (← emit s e (listed (width.getD s.width) (Letters.narrow e.space)) true)
  | .file 'r' name => on { e with queue := e.queue ++ [(true, name)] }
  | .file 'R' name =>
    match e.channel name with
    | some fd =>
      match ← readTo fd 10 with
      | .ok bytes =>
        if bytes.isEmpty then on e
        else
          let text := textOf bytes
          on { e with queue := e.queue ++ [(false, if text.endsWith "\n" then text else text ++ "\n")] }
      | .error _ => on e
    | none => on e
  | .file 'W' name => on (← writeTo s e name (e.space.takeWhile (· != '\n')))
  | .file _ name => on (← writeTo s e name e.space)
  | .exchange source target =>
    let swap (c : Char) : Char :=
      match source.findIdx? (· == c) with
      | some i => target.getD i c
      | none => c
    on { e with space := e.space.map swap }
  | .substitute x =>
    let (expression, e) ← expression e x.expression
    let subject := e.subject s expression
    let (space, hit) := replaceFrom x expression.regex subject (2 * e.space.length + 3) 0 0 none
    if !hit then on e
    else
      let e := { e with space, replaced := true }
      let e ← if x.prints = some false then emit s e space e.whole else pure e
      let e ←
        if x.runs then do
          let output ← outputOf (String.ofList (Letters.narrow space))
          let cs := charsOf output
          let cs := if cs.getLast? = some (lineMark s.zero) then cs.dropLast else cs
          pure { e with space := Letters.decode s.wide cs }
        else pure e
      let e ← if x.prints = some true then emit s e e.space e.whole else pure e
      match x.file with
      | some name => on (← writeTo s e name e.space)
      | none => on e
  | .run [] =>
    let cs := charsOf (← outputOf (String.ofList (Letters.narrow e.space)))
    let cs := if cs.getLast? = some (lineMark s.zero) then cs.dropLast else cs
    on { e with space := Letters.decode s.wide cs }
  | .run command =>
    let cs := charsOf (← outputOf (String.ofList (Letters.narrow command)))
    if cs = [] then on e
    else
      let whole := cs.getLast? = some (lineMark s.zero)
      let e ← emitBytes s e (if whole then cs.dropLast else cs) whole
      on { e with open_ := false }
  | .letter c =>
    match c with
    | '=' => on (← emit s e (toString e.number).toList true)
    | 'd' => return (e, .inr .silent)
    | 'D' =>
      if e.space.contains '\n' then
        let rest := (e.space.dropWhile (· != '\n')).drop 1
        return ({ e with space := rest, keepsSpace := true }, .inr .silent)
      else return (e, .inr .silent)
    | 'g' => on { e with space := e.hold }
    | 'G' => on { e with space := e.space ++ '\n' :: e.hold }
    | 'h' => on { e with hold := e.space }
    | 'H' => on { e with hold := e.hold ++ '\n' :: e.space }
    | 'x' => on { e with space := e.hold, hold := e.space }
    | 'z' => on { e with space := [] }
    | 'F' => on (← emit s e ((e.current.map (·.2)).getD "-").toList true)
    | 'p' => on (← emit s e e.space e.whole)
    | 'L' => stop 4 "INTERNAL ERROR: Bad cmd L"
    | 'P' => on (← emit s e (e.space.takeWhile (· != '\n')) true)
    | 'n' =>
      let (last, e) ← isLast s e
      if last && (s.separate || e.files.isEmpty) && e.files.isEmpty then return (e, .inr (.quit false 0))
      else
        let e ← endRound s e false
        let (found, e) ← readInto s e false
        if found then on { e with replaced := e.replaced } else return (e, .inr (.quit true 0))
    | _ =>
      let (last, e) ← isLast s e
      if last && e.files.isEmpty then return (e, .inr (.quit false 0))
      else
        let e ← printQueue s e
        let (found, e) ← readInto s e true
        if found then on e else return (e, .inr (.quit false 0))

/-- Does the commands of the script for a line. -/
def round (s : Setting) (e : Editing) : Act (Editing × Ending) :=
  repeating (e, 0) fun (e, place) => do
    match s.script[place]? with
    | none => return .inr (e, .usual)
    | some i =>
      let (meant, e) ← isMeant s e place i.guard
      if meant then
        let (e, next) ← perform s e place i.command i.guard
        match next with
        | .inl place => return .inl (e, place)
        | .inr ending => return .inr (e, ending)
      else
        match i.command with
        | .block count => return .inl (e, place + count + 1)
        | _ => return .inl (e, place + 1)

/-- Runs the script on all lines; the exit code. -/
def rounds (s : Setting) (e : Editing) : Act Nat :=
  repeating e fun e => do
    let (found, e) ←
      if e.keepsSpace then pure (true, { e with keepsSpace := false })
      else do
        let (found, e) ← readInto s e false
        pure (found, { e with replaced := false })
    if !found then return .inr e.status
    else
      let (e, ending) ← round s e
      match ending with
      | .usual => return .inl (← endRound s e false)
      | .silent => return .inl (← endRound s e true)
      | .quit silent status =>
        let e ← endRound s e silent
        let e ← copyRest s e
        let e ← finishFile s e
        return .inr (if status = 0 then e.status else status)
where
  /-- What is left of a file that is being changed stays as it is. -/
  copyRest (s : Setting) (e : Editing) : Act Editing := do
    match s.inPlace, e.current with
    | some _, some (fd, _) =>
      let first ←
        match e.ahead with
        | some (some (cs, whole)) => emit s e cs whole
        | _ => pure e
      match ← readAll fd with
      | .ok bytes =>
        if bytes.isEmpty then return first
        else
          let cs := charsOf bytes
          let whole := cs.getLast? = some '\n'
          emitBytes s first (if whole then cs.dropLast else cs) whole
      | .error _ => return first
    | _, _ => return e

end Editing

/-- The files that a script writes, and those that it reads line by line. -/
def filesOf (script : List Instruction) : List (String × Bool) :=
  script.filterMap fun i =>
    match i.command with
    | .file 'w' name => some (name, true)
    | .file 'W' name => some (name, true)
    | .file 'R' name => some (name, false)
    | .substitute x => x.file.map fun name => (name, true)
    | _ => none

/-- How the editor is called. -/
def usage : String :=
  "Usage: sed [OPTION]... \x7bscript-only-if-no-other-script\x7d [input-file]...\n\n"
    ++ "  -n, --quiet, --silent\n                 suppress automatic printing of pattern space\n"
    ++ "      --debug\n                 annotate program execution\n"
    ++ "  -e script, --expression=script\n                 add the script to the commands to be executed\n"
    ++ "  -f script-file, --file=script-file\n"
    ++ "                 add the contents of script-file to the commands to be executed\n"
    ++ "  --follow-symlinks\n                 follow symlinks when processing in place\n"
    ++ "  -i[SUFFIX], --in-place[=SUFFIX]\n"
    ++ "                 edit files in place (makes backup if SUFFIX supplied)\n"
    ++ "  -l N, --line-length=N\n"
    ++ "                 specify the desired line-wrap length for the \x60l' command\n"
    ++ "  --posix\n                 disable all GNU extensions.\n"
    ++ "  -E, -r, --regexp-extended\n                 use extended regular expressions in the script\n"
    ++ "                 (for portability use POSIX -E).\n"
    ++ "  -s, --separate\n                 consider files as separate rather than as a single,\n"
    ++ "                 continuous long stream.\n"
    ++ "      --sandbox\n                 operate in sandbox mode (disable e/r/w commands).\n"
    ++ "  -u, --unbuffered\n                 load minimal amounts of data from the input files and flush\n"
    ++ "                 the output buffers more often\n"
    ++ "  -z, --null-data\n                 separate lines by NUL characters\n"
    ++ "      --help     display this help and exit\n"
    ++ "      --version  output version information and exit\n\n"
    ++ "If no -e, --expression, -f, or --file option is given, then the first\n"
    ++ "non-option argument is taken as the sed script to interpret.  All\n"
    ++ "remaining arguments are names of input files; if no input files are\n"
    ++ "specified, then the standard input is read."

/-- The file in which a system keeps the addresses for those who use the editor. -/
def addressFile : String := "/usr/share/doc/sed/addresses"

/-- How the editor is called, and behind it the addresses, if the system has any. -/
def usageText : Act String := do
  match ← contents addressFile with
  | .ok bytes => return usage ++ "\n\n" ++ textOf bytes
  | .error _ => return usage

/-- Edits files line by line. -/
def sed : Act Nat := do
  let title := (← get).title
  let arguments := (← get).arguments.flatMap fun a =>
    match a.toList with
    | '-' :: 'i' :: ending => ["--in-place=" ++ String.ofList ending]
    | '-' :: 'n' :: 'i' :: ending => ["-n", "--in-place=" ++ String.ofList ending]
    | '-' :: 'E' :: 'i' :: ending => ["-E", "--in-place=" ++ String.ofList ending]
    | _ => [a]
  modify fun s => { s with arguments }
  let s ← get
  let grammar : Grammar :=
    { letters := "nErsuz", valued := "efl"
      words := [("quiet", "n"), ("silent", "n"), ("regexp-extended", "E"), ("separate", "s"),
        ("unbuffered", "u"), ("null-data", "z"), ("posix", "posix"), ("debug", "debug"),
        ("sandbox", "sandbox"), ("follow-symlinks", "follow")]
      valuedWords := [("expression", "e"), ("file", "f"), ("line-length", "l")]
      freeWords := [("in-place", "i")] }
  let g ←
    match grammar.parse s.arguments with
    | .ok g => pure g
    | .error why =>
      say why
      complain (← usageText)
      gone 1
  if g.has "help" then
    out ((← usageText) ++ "\n")
    gone 0
  if g.has "version" then
    out (title ++ " (GNU sed) 4.9\n")
    gone 0
  let given_ := g.options.filter fun o => o.1 = "e" || o.1 = "f"
  let (parts, files) : List (String × String) × List String ←
    if given_.isEmpty then
      match g.operands with
      | [] =>
        complain (← usageText)
        gone 1
      | script :: files => pure ([("e", script)], files)
    else pure (given_, g.operands)
  let texts ← parts.mapM fun (kind, text) => do
    if kind = "e" then pure (kind, text)
    else
      match ← contents text with
      | .ok bytes =>
        let script := textOf bytes
        pure (kind, if script.endsWith "\n" then String.ofList script.toList.dropLast else script)
      | .error e => stop 4 ("couldn't open file " ++ text ++ ": " ++ e.plainMessage)
  let script := "\n".intercalate (texts.map (·.2))
  let silent := g.has "n" || script = "#n" || script.startsWith "#n\n"
  let style : Regex.Style := if g.hasAny "Er" then .extendedEditor else .basic
  let wide := s.isWide
  match parse style (Letters.decode wide script.toList) with
  | .error (place, why) =>
    let front :=
      if (parts.head?.map (·.1)) = some "f" && parts.length = 1 then
        "file " ++ (parts.head?.map (·.2)).getD "" ++ " line "
          ++ toString (((script.toList.take place).filter (· == '\n')).length + 1) ++ ": "
      else
        let (number, start) := texts.foldl (fun (number, start) (_, t) =>
          if start + t.length < place then (number + 1, start + t.length + 1) else (number, start)) (1, 0)
        "-e expression #" ++ toString (min number texts.length) ++ ", char "
          ++ toString (place - start) ++ ": "
    stop 1 (front ++ why)
  | .ok instructions =>
    let labels := instructions.filterMap (·.label)
    for i in instructions do
      match i.command with
      | .branch _ label =>
        if label ≠ "" && !labels.contains label then
          stop 4 ("can't find label for jump to \x60" ++ label ++ "'")
      | _ => pure ()
    let channels ← (filesOf instructions).foldlM (fun channels (name, writes) => do
      if channels.any (fun (c : String × Nat) => c.1 = name) || name = "/dev/stdout" || name = "/dev/stderr" then
        return channels
      else
        let fd ← freeFrom firstFile
        match ← openAt fd (pathOf name) (if writes then .writing else .reading) 0o666 with
        | .ok () => return (name, fd) :: channels
        | .error e =>
          if writes then stop 4 ("couldn't open file " ++ name ++ ": " ++ e.plainMessage)
          else return channels) ([] : List (String × Nat))
    let setting : Setting :=
      { quiet := silent
        separate := g.has "s" || g.has "i"
        inPlace := g.value? "i"
        zero := g.has "z"
        wide
        width := ((g.value? "l").bind decimal?).getD 70
        script := instructions.toArray }
    if setting.inPlace.isSome && files.isEmpty then stop 4 "no input files"
    let start : Editing := { files := orInput files, channels }
    start.rounds setting

end CrossBench.Tool.Editor
