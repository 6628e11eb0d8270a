import CrossBench.Shell.Run

/-!
# The shells as programs

A shell is started with options, and with a script that is an argument, a file, or what comes from the
standard input. Its process ends when the script does.
-/

namespace CrossBench.Shell.Act

/-- The options that are on in a shell of the extended dialect unless it is told otherwise. -/
def usualSettings : List String :=
  ["braceexpand", "hashall", "interactive-comments", "checkwinsize", "cmdhist", "complete_fullquote",
    "extquote", "force_fignore", "globasciiranges", "globskipdots", "hostcomplete",
    "interactive_comments", "patsub_replacement", "progcomp", "promptvars", "sourcepath"]

/-- Sets a parameter that is not handed on, unless it is there. -/
def provide (name value : String) : Act Unit := do
  if (← find? name).isNone then setParameter name value

/-- Takes the functions over that have been handed on, and drops parameters that have no name. -/
def takeFunctions : Act Unit := modify fun s =>
  let (named, others) := s.parameters.partition fun p => isName p.name
  match s.dialect with
  | .plain => { s with parameters := named }
  | .extended =>
    let functionOf (p : Parameter) : Option Function :=
      let name := String.ofList ((p.name.toList.drop 10).reverse.drop 2).reverse
      match p.content with
      | .text v =>
        if p.name = Session.functionKey name && v.startsWith "() \x7b" then
          match (Source.ofText .extended 1 (name ++ " " ++ v).toList).nextLine with
          | .ok (.statements [.define line n body], _) =>
            some ⟨n, line, body, "environment", true, false, false⟩
          | _ => none
        else none
      | _ => none
    { s with
      parameters := named ++ others.filter fun p => (functionOf p).isNone
      functions := others.filterMap functionOf }

/-- Sets the parameters that a shell has from its start. -/
def provideParameters : Act Unit := do
  takeFunctions
  let d := (← get).dialect
  let parent ← look fun pid k => (k.process pid).parent
  modify fun s => s.forget "IFS"
  setParameter "IFS" " \t\n"
  setParameter "OPTIND" "1"
  provide "PS4" "+ "
  setParameter "PPID" (toString parent)
  let path ← physicalDirectory
  modify fun s => { s with directory := path }
  setExported "PWD" path
  match d with
  | .plain =>
    provide "PATH" defaultSearchPath
    provide "PS1" "# "
    provide "PS2" "> "
  | .extended =>
    provide "PATH" "/usr/local/sbin:/usr/local/bin:/usr/sbin:/usr/bin:/sbin:/bin"
    let level := ((← parameter? "SHLVL").bind decimal?).getD 0 + 1
    setExported "SHLVL" (toString level)
    provide "HOME" "/root"
    provide "SHELL" "/bin/bash"
    provide "TERM" "dumb"
    [("BASH", "/usr/bin/bash"), ("BASH_VERSION", "5.2.15(1)-release"), ("OPTERR", "1"),
      ("UID", "0"), ("EUID", "0"), ("SHELLOPTS", ""), ("BASHOPTS", ""), ("HOSTTYPE", "x86_64"), ("OSTYPE", "linux-gnu"),
      ("MACHTYPE", "x86_64-pc-linux-gnu"), ("HOSTNAME", "localhost")].forM fun (n, v) =>
        setParameter n v
    setElements "BASH_VERSINFO" ["5", "2", "15", "1", "release", "x86_64-pc-linux-gnu"]
    modify fun s : Session =>
      let integers := ["UID", "EUID", "PPID"]
      { s with
        parameters := s.parameters.map fun p =>
          if integers.contains p.name || ["SHELLOPTS", "BASHOPTS", "BASH_VERSINFO"].contains p.name then
            { p with readonly := true, integer := integers.contains p.name, exported := false }
          else p }
    modify fun s => { s with lastArgument := s.title }

/-- How a shell of the extended dialect is called. -/
def shellUsage (title : String) : String :=
  "Usage:\t" ++ title ++ " [GNU long option] [option] ...\n\t" ++ title ++
    " [GNU long option] [option] script-file ...\nGNU long options:\n" ++
    String.join (["debug", "debugger", "dump-po-strings", "dump-strings", "help", "init-file",
      "login", "noediting", "noprofile", "norc", "posix", "pretty-print", "rcfile", "restricted",
      "verbose", "version"].map fun o => "\t--" ++ o ++ "\n") ++
    "Shell options:\n\t-ilrsD or -c command or -O shopt_option\t\t(invocation only)\n" ++
    "\t-abefhkmnptuvxBCEHPT or -o option"

/-- Ends a shell that cannot start. -/
def refuseStart {α : Type} (why : String) (status : Nat) : Act α := do
  complain ((← get).title ++ ": " ++ why)
  gone status

/-- Runs a script that comes from the standard input line by line, so that what it runs can read what
follows. -/
def runInput : Act Nat :=
  repeating (([] : List Char), 1, 0) fun (text, line, status) => do
    let s ← get
    let bytes := ((← readTo 0 10).toOption).getD .empty
    let text := text ++ (charsOf bytes).filter (· != Char.ofNat 0)
    let src :=
      { Source.ofText s.dialect line text with
        aliases := if s.isOn "expand_aliases" then s.aliases else []
        groups := s.isOn "extglob" }
    if bytes.isEmpty then
      if text.isEmpty then return .inr status
      else
        let status ← runLines "" src
        return .inr status
    else
      let joins := (text.reverse.drop 1).takeWhile (· == '\\')
      let open_ :=
        joins.length % 2 = 1 ||
          match src.nextLine with
          | .ok (_, after) => !after.warnings.isEmpty
          | .error f =>
            match f.cause with
            | .unexpected .ending _ => true
            | .unmatched _ => true
            | .openArray => true
            | .condition notes => notes.any (·.endsWith "end of file")
            | _ => false
      if open_ then return .inl (text, line, status)
      else
        let status ← runLines "" src
        return .inl ([], line + text.count '\n', status)

/-- Reads the script that is in a file. -/
def scriptText (name : String) : Act String := do
  let s ← get
  let plain := s.dialect == .plain
  let path ←
    if plain || name.toList.contains '/' then pure name
    else
      let t ← tree
      if (t.find (pathOf name) true).isOk then pure name
      else pure (((← scriptFile? name)).getD name)
  match ← readFile path with
  | .ok bytes =>
    if !plain && isBinary bytes then
      complain (name ++ ": " ++ name ++ ": cannot execute binary file")
      gone 126
    else return textOf bytes
  | .error e =>
    if plain then
      if e = .isDirectory then return ""
      else
        let missing := e = .notFound || e = .notDirectory
        refuseStart ("0: cannot open " ++ name ++ ": " ++ if missing then "No such file" else e.plainMessage) 2
    else if e = .isDirectory then
      complain (name ++ ": " ++ name ++ ": Is a directory")
      gone 126
    else refuseStart (name ++ ": " ++ e.plainMessage) (if e = .notFound then 127 else 126)

/-- Runs the script of a shell: `arguments` are what is left behind the options. -/
def runScript (inline fromInput : Bool) (arguments : List String) : Act Nat := do
  let plain := (← get).dialect == .plain
  let clean (text : String) : List Char := text.toList.filter (· != Char.ofNat 0)
  match inline, arguments with
  | true, text :: rest =>
    modify fun s : Session =>
      { s with
        inline := true
        title := rest.headD s.title
        arguments := rest.drop 1 }
    runLines (if plain then "" else "-c: ") (Source.ofText (← get).dialect 1 (clean text))
  | true, [] =>
    refuseStart (if plain then "0: -c requires an argument" else "-c: option requires an argument") 2
  | false, name :: rest =>
    if fromInput then
      modify fun s => { s with arguments := name :: rest }
      fromStandardInput
    else
      let text ← scriptText name
      modify fun s : Session =>
        { s with
          title := name
          file := if plain then "" else name
          arguments := rest
          callers := if plain then [] else [⟨"main", name, 0⟩] }
      runLines "" (Source.ofText (← get).dialect 1 (clean text))
  | false, [] =>
    modify fun s => { s with arguments := [] }
    fromStandardInput
where
  /-- Runs what comes from the standard input. -/
  fromStandardInput : Act Nat := do
    if (← get).dialect == .plain then
      modify fun s => s.switch "stdin" true
      let bytes := ((← readAll 0).toOption).getD .empty
      runLines "" (Source.ofText .plain 1 ((charsOf bytes).filter (· != Char.ofNat 0)))
    else
      modify fun s => s.switch "stdin" true
      runInput

/-- Takes the long options of a shell of the extended dialect. -/
def takeLongOptions : List String → Act (List String)
  | [] => return []
  | a :: rest => do
    let names :=
      ["--debug", "--debugger", "--dump-po-strings", "--dump-strings", "--login", "--noediting",
        "--noprofile", "--norc", "--posix", "--pretty-print", "--restricted", "--verbose"]
    if a = "--version" then
      let _ ← writeText 1 "GNU bash, version 5.2.15(1)-release (x86_64-pc-linux-gnu)\n"
      gone 0
    else if a = "--help" then
      let _ ← writeText 1 (shellUsage (← get).title ++ "\n")
      gone 0
    else if a = "--rcfile" ∨ a = "--init-file" then takeLongOptions (rest.drop 1)
    else if names.contains a then
      if a = "--verbose" then modify fun s => s.switch "verbose" true
      if a = "--posix" then modify fun s => s.switch "posix" true
      takeLongOptions rest
    else if a.startsWith "--" && a ≠ "--" then
      refuseStart (a ++ ": invalid option\n" ++ shellUsage (← get).title) 2
    else return a :: rest
termination_by arguments => arguments.length
decreasing_by all_goals (simp; try omega)

/-- Runs a shell. -/
def shell (d : Dialect) : Act Nat := do
  let s ← get
  modify fun s : Session =>
    { s with
      dialect := d
      settings := if d = .extended then usualSettings else [] }
  provideParameters
  let arguments ← if d = .extended then takeLongOptions s.arguments else pure s.arguments
  let others := if d = .plain then ['c', 'l'] else ['c', 'l', 's', 'D', 'O']
  match ← takeSettings others (arguments.length + 1) arguments with
  | .error e =>
    match d with
    | .plain => refuseStart ("0: Illegal option -" ++ e) 2
    | .extended =>
      if e.startsWith "o " then
        refuseStart ("line 0: " ++ s.title ++ ": " ++ String.ofList (e.toList.drop 2)
          ++ ": invalid option name") 2
      else refuseStart ("-" ++ e ++ ": invalid option\n" ++ shellUsage s.title) 2
  | .ok (found, rest, _) =>
    let rest ←
      if found.contains 'O' then
        match rest with
        | name :: rest =>
          if Session.shoptNames.contains name then
            modify fun s => s.switch name true
            pure rest
          else refuseStart ("line 0: " ++ name ++ ": invalid shell option name") 2
        | [] => pure []
      else pure rest
    let inline := found.contains 'c'
    let fromInput := found.contains 's' || (← isOn "stdin")
    if inline && d = .extended then modify fun s => s.switch "command" true
    modify fun s => { s with arguments := [] }
    let result ← outcome do
      let status ← runScript inline fromInput rest
      setStatus status
    conclude result

end CrossBench.Shell.Act
