import CrossBench.Shell.Command.Arguments
import CrossBench.Shell.Launch
import CrossBench.Shell.Unparse

/-!
# What a name means

The first word of a command may be a keyword, an alias, a function, a command of the shell or a
program. `meaning` says which of them, and `type`, `command`, `hash` and `alias` tell a script.
-/

namespace CrossBench.Shell

/-- The words that the language keeps for itself. -/
def keywords : Dialect → List String
  | .plain =>
    ["!", "case", "do", "done", "elif", "else", "esac", "fi", "for", "if", "in", "then", "until",
      "while", "\x7b", "\x7d"]
  | .extended =>
    ["!", "[[", "]]", "case", "coproc", "do", "done", "elif", "else", "esac", "fi", "for", "function",
      "if", "in", "select", "then", "time", "until", "while", "\x7b", "\x7d"]

/-- The commands of the shell whose failure ends a script of the plain dialect. -/
def specialCommands : List String :=
  [".", ":", "break", "continue", "eval", "exec", "exit", "export", "local", "readonly", "return",
    "set", "shift", "times", "trap", "unset"]

/-- The commands of the shell that a script of the plain dialect can call. -/
def plainCommands : List String :=
  specialCommands ++
    ["[", "alias", "bg", "cd", "chdir", "command", "echo", "false", "fg", "getopts", "hash", "jobs",
      "kill", "printf", "pwd", "read", "test", "true", "type", "ulimit", "umask", "unalias",
      "wait"]

/-- The commands of the shell that a script can call. -/
def shellCommands : Dialect → List String
  | .plain => plainCommands
  | .extended =>
    plainCommands.filter (· ≠ "chdir") ++
      ["bind", "builtin", "caller", "compgen", "complete", "compopt", "declare", "dirs", "disown",
        "enable", "fc", "help", "history", "let", "logout", "mapfile", "popd", "pushd", "readarray",
        "shopt", "source", "suspend", "typeset"]

/-- What a name means. -/
inductive Meaning where
  | keyword
  | alias (text : String)
  | function (f : Function)
  | special
  | command
  /-- A program, and whether it has been used already. -/
  | program (path : String) (known : Bool)

/-- What a meaning is in a sentence about a name. -/
def Meaning.sentence (d : Dialect) (name : String) : Meaning → String
  | .keyword => name ++ " is a shell keyword"
  | .alias text =>
    match d with
    | .plain => name ++ " is an alias for " ++ text
    | .extended => name ++ " is aliased to \x60" ++ text ++ "'"
  | .function f =>
    if d = .plain then name ++ " is a shell function"
    else name ++ " is a function\n" ++ writtenFunction name true f.body
  | .special => name ++ (if d = .plain then " is a special shell builtin" else " is a shell builtin")
  | .command => name ++ " is a shell builtin"
  | .program path known =>
    match d, known with
    | .plain, true => name ++ " is a tracked alias for " ++ path
    | .extended, true => name ++ " is hashed (" ++ path ++ ")"
    | _, false => name ++ " is " ++ path

/-- The word for a meaning. -/
def Meaning.word : Meaning → String
  | .keyword => "keyword"
  | .alias _ => "alias"
  | .function _ => "function"
  | .special => "builtin"
  | .command => "builtin"
  | .program .. => "file"

/-- What one has to write to get what a name means. -/
def Meaning.brief (name : String) : Meaning → String
  | .alias text => "alias " ++ name ++ "=" ++ Quoting.single text
  | .program path _ => path
  | _ => name

namespace Act

/-- The program that a name means: a path, or a name that is found on a search path. -/
def programNamed? (name searchPath : String) : Act (Option Meaning) := do
  let t ← tree
  if name = "" then return none
  else if name.toList.contains '/' then
    match (← get).dialect, t.find (pathOf name) true with
    | .plain, .ok _ => return some (.program name false)
    | .extended, .ok (.file n) =>
      return if t.allows (.file n) 1 then some (.program name false) else none
    | _, _ => return none
  else
    match (← get).remembered.find? fun r => r.1 = name with
    | some (_, path, _) => return some (.program path true)
    | none =>
      return match (← get).dialect, searchProgram t name .notFound (searchPath.splitOn ":") with
        | .plain, .ok (path, _) => some (.program path false)
        | .plain, .error _ => none
        | .extended, _ => (extendedSearch t (some searchPath) name).map (.program · false)

/-- What a name means. -/
def meaning (name searchPath : String) : Act (Option Meaning) := do
  let s ← get
  let isAlias := (s.aliases.find? fun a => a.1 = name).filter fun _ =>
    s.dialect = .plain || s.isOn "expand_aliases"
  if s.dialect = .plain && (keywords s.dialect).contains name then return some .keyword
  else
    match isAlias with
    | some (_, text) => return some (.alias text)
    | none =>
      if (keywords s.dialect).contains name then return some .keyword
      else
        match s.functions.find? fun f => f.name = name with
        | some f => return some (.function f)
        | none =>
          let disabled := s.disabled.contains name
          if specialCommands.contains name && !disabled then return some .special
          else if (shellCommands s.dialect).contains name && !disabled then return some .command
          else programNamed? name searchPath

/-- Says what names mean. -/
def describe (command : String) (brief : Bool) (searchPath : String) (names : List String) :
    Act Nat := do
  let d := (← get).dialect
  let missing := if d = .plain then 127 else 1
  let oks ← names.mapM fun name => do
    match ← meaning name searchPath with
    | some m =>
      tell ((if brief then m.brief name else m.sentence d name) ++ "\n")
      return true
    | none =>
      unless brief do
        match d with
        | .plain =>
          tell (name ++ ": not found\n")
        | .extended => faultOf command (name ++ ": not found")
      return false
  match d, command with
  | .extended, "command" => return if oks.any id then 0 else missing
  | _, _ => return if oks.all id then 0 else missing

/-- The command `type`. -/
def typeCommand (arguments : List String) : Act Nat := do
  let path ← searchPath
  match (← get).dialect with
  | .plain => describe "type" false path arguments
  | .extended =>
    match ← optionsOf "type" "afptP" "" arguments with
    | .error status => return status
    | .ok o =>
      if o.has 't' || o.has 'p' || o.has 'P' then
        let oks ← o.rest.mapM fun name => do
          let m ← if o.has 'P' then programNamed? name path else meaning name path
          match m with
          | some (.program file known) =>
            tell ((if o.has 't' then (Meaning.program file known).word else file) ++ "\n")
            return true
          | some m =>
            if o.has 't' then
              tell (m.word ++ "\n")
            return true
          | none => return false
        return if oks.all id then 0 else 1
      else describe "type" false path o.rest

/-! ## Programs that have been found -/

/-- Remembers where a program has been found. -/
def remember (name path : String) : Act Unit :=
  modify fun s =>
    if s.remembered.any fun r => r.1 = name then
      { s with
        remembered := s.remembered.map fun r => if r.1 = name then (name, path, r.2.2 + 1) else r }
    else { s with remembered := (name, path, 1) :: s.remembered }

/-- The command `hash`. -/
def hashCommand (arguments : List String) : Act Nat := do
  let d := (← get).dialect
  match ← optionsOf "hash" (if d = .plain then "rv" else "lrdt") (if d = .plain then "" else "p")
    arguments with
  | .error status => return status
  | .ok o =>
    if o.has 'r' then modify fun s => { s with remembered := [] }
    if o.rest.isEmpty && !o.has 'r' then
      let known := (← get).remembered
      match d with
      | .plain =>
        tell (String.join (known.reverse.map fun r => r.2.1 ++ "\n"))
      | .extended =>
        if known.isEmpty then
          tell "hash: hash table empty\n"
        else
          let line (r : String × String × Nat) : String :=
            let n := toString r.2.2
            String.ofList (List.replicate (4 - n.length) ' ') ++ n ++ "\t" ++ r.2.1 ++ "\n"
          tell ("hits\tcommand\n" ++ String.join (known.reverse.map line))
      return 0
    else
      let path ← searchPath
      o.rest.foldlM (fun status name => do
        if name.toList.contains '/' then return status
        else
          modify fun s => { s with remembered := s.remembered.filter fun r => r.1 ≠ name }
          match ← programNamed? name path with
          | some (.program file _) =>
            unless o.has 't' do remember name file
            if o.has 't' then
              tell (file ++ "\n")
            return status
          | _ =>
            faultOf "hash" (name ++ ": not found")
            return 1) 0

/-! ## Aliases -/

/-- The command `alias`. -/
def aliasCommand (arguments : List String) : Act Nat := do
  let s ← get
  let show_ (a : String × String) : String :=
    match s.dialect with
    | .plain => a.1 ++ "=" ++ Quoting.singleDouble a.2 ++ "\n"
    | .extended => "alias " ++ a.1 ++ "=" ++ Quoting.single a.2 ++ "\n"
  let arguments := arguments.filter (· ≠ "-p")
  if arguments.isEmpty then
    let sorted := s.aliases.mergeSort fun a b => a.1 ≤ b.1
    tell (String.join (sorted.map show_))
    return 0
  else
    arguments.foldlM (fun status a => do
      let name := a.toList.takeWhile (· != '=')
      let n := String.ofList name
      if name.length < a.length && name ≠ [] then
        let text := String.ofList (a.toList.drop (name.length + 1))
        modify fun s => { s with aliases := (n, text) :: s.aliases.filter fun e => e.1 ≠ n }
        return status
      else
        match (← get).aliases.find? fun e => e.1 = a with
        | some e =>
          tell (show_ e)
          return status
        | none =>
          match s.dialect with
          | .plain => complain ("alias: " ++ a ++ " not found")
          | .extended => faultOf "alias" (a ++ ": not found")
          return 1) 0

/-- The command `unalias`. -/
def unaliasCommand (arguments : List String) : Act Nat := do
  let d := (← get).dialect
  match ← optionsOf "unalias" "a" "" arguments with
  | .error status => return status
  | .ok o =>
    if o.has 'a' then
      modify fun s => { s with aliases := [] }
      return 0
    else
      o.rest.foldlM (fun status a => do
        if (← get).aliases.any fun e => e.1 = a then
          modify fun s => { s with aliases := s.aliases.filter fun e => e.1 ≠ a }
          return status
        else
          match d with
          | .plain => complain ("unalias: " ++ a ++ " not found")
          | .extended => faultOf "unalias" (a ++ ": not found")
          return 1) 0

end Act

end CrossBench.Shell
