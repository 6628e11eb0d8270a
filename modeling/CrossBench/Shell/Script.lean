import CrossBench.Shell.Command.Lookup
import CrossBench.Shell.Parser
import CrossBench.Shell.Trap

/-!
# Running scripts

A script is read line by line, and each line is run before the next one is read. What cannot be read
is complained of: the plain dialect says what is wrong in a line of its own and ends the script, the
extended one shows the line of the script as well.
-/

namespace CrossBench.Shell

/-- A token as a complaint of the plain dialect names it. -/
def Token.plainName : Token → String
  | .word .. => "word"
  | .keyword s => "\"" ++ s ++ "\""
  | .operator s => "\"" ++ s ++ "\""
  | .redirection .. => "redirection"
  | .expression _ => "\"(\""
  | .newline => "newline"
  | .ending => "end of file"

/-- What the plain dialect says about a fault. -/
def Fault.plainText (f : Fault) : String :=
  match f.cause with
  | .unexpected t expected =>
    let wanted :=
      match expected with
      | some "word" => " (expecting word)"
      | some e => " (expecting \"" ++ e ++ "\")"
      | none => ""
    t.plainName ++ " unexpected" ++ wanted
  | .refused why => why
  | .unmatched closing => "Missing '" ++ closing ++ "'"
  | .openArray => "Missing ')'"
  | .condition notes => "; ".intercalate notes

/-- Whether a script begins with a condition in double brackets. -/
def startsWithCondition (written : List Char) : Bool :=
  ['[', '['].isPrefixOf (written.dropWhile fun c => c == ' ' || c == '\t' || c == '\n')

/-- The lines that the extended dialect says about a fault, each with the number of a line; `text` is
the line of the script. -/
def Fault.extendedLines (f : Fault) (written : List Char) (count : Nat) : List (Nat × String) :=
  let lines := linesOf written
  let shown (n : Nat) : String := "\x60" ++ String.ofList (lines.getD (n - count) []) ++ "'"
  match f.cause with
  | .unexpected .ending _ =>
    let last := if written.getLast? = some '\n' then f.last else f.last + 1
    [(last, "syntax error: unexpected end of file")]
  | .unexpected t _ =>
    [(f.first, "syntax error near unexpected token \x60" ++ Grammar.spelled t ++ "'"),
      (f.first, shown f.first)]
  | .refused why => [(f.first, why)]
  | .unmatched closing =>
    [(f.first, "unexpected EOF while looking for matching \x60" ++ closing ++ "'")]
  | .openArray => [(f.first, "unexpected EOF while looking for matching \x60)'")]
  | .condition notes =>
    if startsWithCondition written then (notes.take 1).map fun n => (f.first, n)
    else (notes.map fun n => (f.first, n)) ++ [(f.first, shown f.first)]

namespace Act

/-- Complains of a script that cannot be read on from a place. -/
def syntaxFault (label : String) (src : Source) (f : Fault) : Act Unit := do
  let s ← get
  match s.dialect with
  | .plain =>
    set { s with line := f.last }
    fault ("Syntax error: " ++ f.plainText)
  | .extended =>
    let title := if s.file = "" then s.title else s.file
    let lines := f.extendedLines src.rest src.line
    (if s.isOn "errexit" then lines.take 1 else lines).forM fun (n, why) =>
      complain (title ++ ": " ++ label ++ "line " ++ toString n ++ ": " ++ why)

/-- Runs the statements of a line. In the extended dialect a complaint may leave out the rest of
it. -/
def runLine (statements : List Statement) : Act Unit := do
  match ← outcome (run (Grammar.inSequence statements)) with
  | .ok () => return
  | .error .discard =>
    if (← get).dialect = .extended then
      modify fun s => { s with status := if s.status = 0 then 1 else s.status }
      if ← isOn "errexit" then throw (.exit (← get).status)
    else throw .discard
  | .error e => throw e

/-- Runs what is left of a script. The status is 0 if there is nothing. -/
def runLines (label : String) (src : Source) : Act Nat := do
  let s ← get
  let whole := s.layers = 0 && s.subshells = 0 && s.inline && s.dialect = .extended && s.calls = 0
  let tested := s.tested
  repeating (src, false) fun (src, ran) => do
    let s ← get
    let expands := s.dialect = .plain || s.isOn "expand_aliases"
    let src :=
      { src with aliases := if expands then s.aliases else [], groups := s.isOn "extglob" }
    match src.nextLine with
    | .error f =>
      syntaxFault label src f
      match s.dialect, f.cause with
      | .plain, _ =>
        setStatus 2
        throw (.failure 2)
      | .extended, .openArray =>
        setStatus 2
        if s.isOn "errexit" && !s.tested then throw (.exit 2)
        return .inr 1
      | .extended, cause =>
        let ends := cause matches .condition _ && startsWithCondition src.rest
        unless ends do setStatus 2
        if s.isOn "errexit" && !s.tested then throw (.exit 2)
        return .inr (if !ends then 2 else if ran then s.status else 0)
    | .ok (line, after) =>
      after.warnings.forM fun w => complain ((if s.file = "" then s.title else s.file) ++ ": " ++ w)
      let after := { after with warnings := [] }
      if s.isOn "verbose" then
        let read := src.rest.take (src.rest.length - after.rest.length)
        let _ ← write 2 (packedChars read)
      let reached := if after.rest.isEmpty && src.rest.getLast? ≠ some '\n' then after.line else after.line - 1
      modify fun s => { s with reached := max src.line reached, outer := max src.line reached }
      match line with
      | .ending => return .inr (if ran then s.status else 0)
      | .statements [] => return .inl (after, ran)
      | .statements l =>
        let alone := whole && after.rest.isEmpty && s.traps.isEmpty
        modify fun s => { s with last := alone, tested }
        runLine l
        modify fun s => { s with last := false }
        return .inl (after, true)

/-- Runs a script that is a text. -/
def runText (label : String) (line : Nat) (text : String) : Act Nat := do
  runLines label (Source.ofText (← get).dialect line text.toList)

/-- The command `eval`. -/
def evalCommand (arguments : List String) : Act Nat := do
  let s ← get
  match arguments, s.dialect with
  | [], _ => return 0
  | words, d =>
    let line := if d = .plain then 1 else s.line
    set { s with layers := s.layers + 1 }
    let result ← outcome (callStatus (.script "eval: " line (" ".intercalate words)))
    modify fun after => { after with layers := s.layers, line := s.line, reached := s.reached, outer := s.outer }
    match result with
    | .ok n => return n
    | .error e => throw e

/-- The file that a command reads a script from: a path, or a name that is found on the search
path. -/
def scriptFile? (name : String) : Act (Option String) := do
  if name.toList.contains '/' then return some name
  else
    let t ← tree
    let directories := (← searchPath).splitOn ":"
    match (directories.map fun d => pathIn d name).find? fun p => t.isFile (pathOf p) with
    | some p => return some p
    | none =>
      match (← get).dialect with
      | .plain => return none
      | .extended => return if t.isFile (pathOf name) || t.isDirectory (pathOf name) then some name else none

/-- The bytes of a file, read through a descriptor that is closed again. -/
def readFile (path : String) : Act (Except IoError ByteArray) := do
  let fd ← freeFrom Kernel.keptFrom
  match ← (if path = "" then pure (.error IoError.notFound) else openAt fd (pathOf path) .reading 0) with
  | .error e => return .error e
  | .ok () =>
    let bytes ← readAll fd
    close fd
    return bytes

/-- The commands `.` and `source`. -/
def sourceCommand (command : String) (arguments : List String) : Act Nat := do
  let s ← get
  let arguments := if arguments.head? = some "--" then arguments.drop 1 else arguments
  match arguments, s.dialect with
  | [], .plain => return 0
  | [], .extended =>
    faultOf command "filename argument required"
    complain (command ++ ": usage: " ++ usageOf command)
    return 2
  | name :: more, d =>
    let refuse (why : String) : Act Nat := do
      match d with
      | .plain => fail why
      | .extended =>
        fault why
        return 1
    match ← scriptFile? name with
    | none =>
      refuse (name ++ if d = .plain then ": not found" else ": No such file or directory")
    | some path =>
      match ← readFile path with
      | .error e =>
        match d with
        | .plain =>
          let missing := e = .notFound || e = .notDirectory
          refuse ("cannot open " ++ path ++ ": " ++ if missing then "No such file" else e.plainMessage)
        | .extended =>
          if e = .isDirectory then
            faultOf command (path ++ ": is a directory")
            return 1
          else refuse (path ++ ": " ++ e.plainMessage)
      | .ok bytes =>
        let text := (textOf bytes).toList.filter (· != Char.ofNat 0)
        modify fun s : Session =>
          { s with
            layers := s.layers + 1
            calls := s.calls + 1
            callers := if d = .extended then ⟨"source", path, s.line⟩ :: s.callers else s.callers
            traps := if s.isOn "functrace" then s.traps else s.traps.filter fun t => t.1 ≠ "DEBUG"
            last := false
            command := if d = .plain then some path else none
            file := if d = .extended then path else s.file
            arguments := if d = .extended && !more.isEmpty then more else s.arguments }
        let result ← outcome (callStatus (.lines "" (Source.ofText d 1 text)))
        if d = .extended then
          if let .ok n := result then setStatus n
          runTrapOf "RETURN" "return trap: "
        modify fun after =>
          let missing := s.traps.filter fun t => t.1 = "DEBUG" && !(after.traps.any fun u => u.1 = t.1)
          { after with
            callers := s.callers, traps := after.traps ++ missing
            layers := s.layers, calls := s.calls, command := s.command, file := s.file
            line := s.line, reached := s.reached, outer := s.outer, last := s.last
            arguments := if d = .extended && !more.isEmpty then s.arguments else after.arguments }
        match result with
        | .ok n => return n
        | .error (.return_ n) => return n
        | .error e => throw e

end Act

end CrossBench.Shell
