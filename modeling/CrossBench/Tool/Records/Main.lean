import CrossBench.Tool.Records.Evaluate
import CrossBench.Tool.Records.Parser

/-!
# Calling a program for records

The program is an argument or stands in files, and the other arguments are the input, or set names on
the way.
-/

namespace CrossBench.Tool.Records

open Shell

/-- How deep the evaluation may be nested. -/
def depth : Nat := 1000000000000

/-- A call: the files of the program, what is set at first, and the arguments that are left. -/
structure Invocation where
  files : List String
  settings : List String
  separator : Option String
  rest : List String

/-- What is said about the right call. -/
def usage : String :=
  "Usage: mawk [Options] [Program] [file ...]\n\nProgram:\n" ++
  "    The -f option value is the name of a file containing program text.\n" ++
  "    If no -f option is given, a \"--\" ends option processing; the following\n" ++
  "    parameters are the program text.\n\nOptions:\n" ++
  "    -f program-file  Program  text is read from file instead of from the\n" ++
  "                     command-line.  Multiple -f options are accepted.\n" ++
  "    -F value         sets the field separator, FS, to value.\n" ++
  "    -v var=value     assigns value to program variable var.\n" ++
  "    --               unambiguous end of options.\n\n" ++
  "    Implementation-specific options are prefixed with \"-W\".  They can be\n" ++
  "    abbreviated:\n\n" ++
  "    -W version       show version information and exit.\n" ++
  "    -W dump          show assembler-like listing of program and exit.\n" ++
  "    -W help          show this message and exit.\n" ++
  "    -W interactive   set unbuffered output, line-buffered input.\n" ++
  "    -W exec file     use file as program as well as last option.\n" ++
  "    -W random=number set initial random seed.\n" ++
  "    -W sprintf=number adjust size of sprintf buffer.\n" ++
  "    -W posix_space   do not consider \"\\n\" a space.\n" ++
  "    -W usage         show this message and exit.\n"

/-- The edition of the program, and its limits. -/
def edition : String :=
  "mawk 1.3.4 20200120\n\nrandom-funcs:       srandom/random\n" ++
  "regex-funcs:        internal\ncompiled limits:\nsprintf buffer      8192\n" ++
  "maximum-integer     2147483647\n"

/-- Stops a wrong call. -/
def wrong {α : Type} (why : String) : Act α := stop 2 why

/-- Takes the options from the arguments. -/
def optionsOf : List String → Invocation → Act Invocation
  | [], c => return c
  | a :: rest, c => do
    let valued (letter : Char) (value : List Char) (use : String → List String → Act Invocation) :
        Act Invocation := do
      if value.isEmpty then
        match rest with
        | [] => wrong ("option -" ++ String.singleton letter ++ " lacks argument")
        | v :: rest => use v rest
      else use (String.ofList value) rest
    match a.toList with
    | ['-'] => return { c with rest := a :: rest }
    | ['-', '-'] => return { c with rest }
    | '-' :: '-' :: word =>
      let word := String.ofList word
      if word = "version" then
        out edition
        Act.gone 0
      else if word = "help" || word = "usage" then
        out usage
        Act.gone 0
      else wrong ("not an option: " ++ a)
    | '-' :: 'f' :: value =>
      match value, rest with
      | [], [] => wrong "option -f lacks argument"
      | [], v :: rest => optionsOf rest { c with files := c.files ++ [v] }
      | value, rest => optionsOf rest { c with files := c.files ++ [String.ofList value] }
    | '-' :: 'F' :: value =>
      match value, rest with
      | [], [] => wrong "option -F lacks argument"
      | [], v :: rest => optionsOf rest { c with separator := some v }
      | value, rest => optionsOf rest { c with separator := some (String.ofList value) }
    | '-' :: 'v' :: value =>
      match value, rest with
      | [], [] => wrong "option -v lacks argument"
      | [], v :: rest => optionsOf rest { c with settings := c.settings ++ [v] }
      | value, rest => optionsOf rest { c with settings := c.settings ++ [String.ofList value] }
    | '-' :: 'W' :: value => valued 'W' value fun word rest => do
      if word.startsWith "v" then
        out edition
        Act.gone 0
      else if word.startsWith "u" || word.startsWith "h" then
        out usage
        Act.gone 0
      else
        say ("vacuous option: -W \"" ++ word ++ "\"")
        return { c with rest }
    | '-' :: _ => wrong ("not an option: " ++ a)
    | _ => return { c with rest := a :: rest }

/-- The text of the files of a program. -/
def programText (files : List String) : Act (List Char) := do
  let parts ← files.mapM fun name => do
    match ← contents (if name = "/dev/stdin" then "-" else name) with
    | .ok bytes => return charsOf bytes
    | .error e => wrong (cannotOpen name e)
  return parts.flatten

/-- What a program works with at first. -/
def Machine.first (script : Script) : Machine where
  script
  shared := .ofList
    [("NR", .scalar (.number 0.0)), ("FNR", .scalar (.number 0.0)), ("FILENAME", .scalar (.text "")),
      ("OFS", .scalar (.text " ")), ("ORS", .scalar (.text "\n")), ("FS", .scalar (.text " ")),
      ("RS", .scalar (.text "\n")), ("CONVFMT", .scalar (.text "%.6g")), ("OFMT", .scalar (.text "%.6g")),
      ("SUBSEP", .scalar (.text (String.singleton (Char.ofNat 28))))]
  tables := #[]
  own := #[]
  line := ⟨.input "", #[], true, true, .blanks⟩
  separator := .blanks
  ending := .byte 10
  main := none
  operand := 1
  opened := false
  sources := []
  outlets := []
  patterns := ∅
  ranges := []
  random := seeded 1
  seed := .number 1.0
  status := 0

/-- Whether a rule is for the record. -/
def Condition.applies : Condition → Run Bool
  | .every => return true
  | .holds e => do return (← evaluate depth e).holds
  | .range number first last => do
    let under := (← get).ranges.contains number
    let begins ← if under then pure true else do pure (← evaluate depth first).holds
    if !begins then return false
    else
      let ends := (← evaluate depth last).holds
      modify fun m =>
        { m with ranges := if ends then m.ranges.filter (· ≠ number)
          else if under then m.ranges else number :: m.ranges }
      return true

/-- Does what the rules say with the record. -/
def applyRules (rules : List Rule) : Run Unit := do
  rules.forM fun r => do
    if ← r.condition.applies then execute depth r.action

/-- Goes through the input. -/
def throughInput (rules : List Rule) : Run Unit := repeating do
  match ← nextInput with
  | none => return some ()
  | some text =>
    setRecord text
    tryCatch (applyRules rules) fun
      | .nextRecord => return ()
      | .nextFile => leaveFile
      | e => throw e
    return none

/-- Does something until it ends or the program is to end; whether it has ended by itself. -/
def untilExit (what : Run Unit) : Run Bool := tryCatch (do
    what
    return true) fun _ => return false

/-- Runs a program for records. -/
def wholeRun (c : Invocation) (operands : List String) : Run Unit := do
  let script := (← get).script
  let s ← act get
  let arguments ← tableOf (.shared "ARGV")
  let all := s.title :: operands
  inTable arguments fun t => ((), (all.foldl (fun ((n, t) : Nat × Table Value) a =>
    (n + 1, t.insert (.number (n : Int)) (.input a))) (0, t)).2)
  setShared "ARGC" (.ofNat all.length)
  let environment ← tableOf (.shared "ENVIRON")
  inTable environment fun t => ((), s.environment.foldl (fun t (name, value) =>
    t.insert (.text name) (.input value)) t)
  match c.separator with
  | some value => assignShared "FS" (.text (unescape value))
  | none => pure ()
  c.settings.forM fun setting => do
    match settingOf? setting with
    | some (name, value) => applySetting name value
    | none => stopRun ("improper assignment: -v " ++ setting)
  let more ← untilExit (executeAll depth script.first)
  if more && !(script.rules.isEmpty && script.last.isEmpty) then
    let _ ← untilExit (throughInput script.rules)
  let _ ← untilExit (executeAll depth script.last)
  let m ← get
  match ← act (settle m.outlets) with
  | none => act (Act.gone m.status)
  | some why =>
    act do
      say why
      Act.gone 2

/-- The complaints about a program. -/
def complaints (files : List String) (faults : List String) : List String :=
  let front :=
    match files with
    | [name] => name ++ ": "
    | _ => ""
  faults.map (front ++ ·)

/-- Goes through records and does with them what a program says. -/
def awk : Act Nat := do
  let s ← get
  if s.arguments.isEmpty then
    out usage
    return 0
  let c ← optionsOf s.arguments ⟨[], [], none, []⟩
  let (text, operands) : List Char × List String ←
    match c.files, c.rest with
    | [], [] => Act.gone 0
    | [], program :: operands => pure (program.toList ++ ['\n'], operands)
    | files, operands => do pure (← programText files, operands)
  match Script.parse text with
  | .error faults =>
    (complaints c.files faults).forM say
    return 2
  | .ok script =>
    let _ ← (wholeRun c operands).run (Machine.first script)
    return 0

end CrossBench.Tool.Records
