import CrossBench.Os.WaitStatus
import CrossBench.Shell.Command.Arguments
import CrossBench.Shell.Command.Lookup
import CrossBench.Shell.Expand
import CrossBench.Shell.Quoting

/-!
# Commands for completions

A `Completion` says how a word that somebody has begun may go on. One command shows what comes of it,
another one keeps it under the name of a command. Where nobody types, that is all there is to it.
-/

namespace CrossBench.Shell

namespace Completion

/-- The kinds of words that are named by letters. -/
def lettered : List (Char × String) :=
  [('a', "alias"), ('b', "builtin"), ('c', "command"), ('d', "directory"), ('e', "export"),
    ('f', "file"), ('g', "group"), ('j', "job"), ('k', "keyword"), ('s', "service"), ('u', "user"),
    ('v', "variable")]

/-- The kinds of words that only have names. -/
def named : List String :=
  ["arrayvar", "binding", "disabled", "enabled", "function", "helptopic", "hostname", "running",
    "setopt", "shopt", "signal", "stopped"]

/-- What can be asked of those who offer completions. -/
def optionNames : List String :=
  ["bashdefault", "default", "dirnames", "filenames", "noquote", "nosort", "nospace", "plusdirs"]

/-- The command that keeps a completion under a name. -/
def declaration (wide : Bool) (name : String) (c : Completion) : String :=
  let options := (optionNames.filter c.options.contains).map fun o => "-o " ++ o ++ " "
  let letters := (lettered.filter fun l => c.kinds.contains l.2).map fun l =>
    "-" ++ String.singleton l.1 ++ " "
  let kinds := (named.filter c.kinds.contains).map fun k => "-A " ++ k ++ " "
  let quoted (letter : String) (v : Option String) : String :=
    (v.map fun v => letter ++ " " ++ Quoting.single v ++ " ").getD ""
  "complete " ++ String.join options ++ String.join letters ++ String.join kinds
    ++ quoted "-G" c.pattern ++ quoted "-W" c.words ++ quoted "-P" c.front ++ quoted "-S" c.back
    ++ quoted "-X" c.filter
    ++ ((c.function.map fun f => "-F " ++ Quoting.asNeeded wide f ++ " ").getD "")
    ++ quoted "-C" c.command
    ++ (if ["-D", "-E", "-I"].contains name then name else Quoting.asNeeded wide name) ++ "\n"

end Completion

/-- The parts of a list of words, divided by characters that are not in quotes. -/
def wordsDivided (divisions : List Char) : Option Char → List Char → List Char → List String
  | _, [], part => if part = [] then [] else [String.ofList part.reverse]
  | quote, '\\' :: c :: rest, part =>
    if quote = some '\'' then wordsDivided divisions quote (c :: rest) ('\\' :: part)
    else wordsDivided divisions quote rest (c :: '\\' :: part)
  | quote, c :: rest, part =>
    match quote with
    | some q => wordsDivided divisions (if c = q then none else quote) rest (c :: part)
    | none =>
      if divisions.contains c then
        if part = [] then wordsDivided divisions none rest []
        else String.ofList part.reverse :: wordsDivided divisions none rest []
      else if c = '\'' || c = '"' then wordsDivided divisions (some c) rest (c :: part)
      else if c = ' ' || c = '\t' then wordsDivided divisions none rest (c :: '\\' :: part)
      else wordsDivided divisions none rest (c :: part)

namespace Act

/-- The words that a list of them stands for. -/
def listedWords (list : String) : Act (List String) := do
  let s ← get
  let divisions := ((← parameter? "IFS").getD " \t\n").toList
  let parts := wordsDivided divisions none list.toList []
  modify fun s => s.switch "noglob" true
  let words ← parts.mapM fun part => do
    match (Source.ofText .extended s.line ("compgen " ++ part).toList).nextLine with
    | .ok (.statements [.simple _ _ words _], _) => fields (words.drop 1)
    | _ => return [part]
  modify fun now => now.switch "noglob" (s.isOn "noglob")
  return words.flatten

/-- The words of a kind that begin with a text. -/
def wordsOf (begun : String) (kind : String) : Act (List String) := do
  let s ← get
  let begins (l : List String) : List String := l.filter fun w => w.startsWith begun
  let sorted (l : List String) : List String := l.mergeSort fun a b => a ≤ b
  let parameters (p : Parameter → Bool) : List String :=
    begins (sorted ((s.parameters.filter p).map (·.name)))
  let jobs (l : List Background) : List String :=
    begins (l.map fun b => String.ofList (b.words.toList.takeWhile (· != ' ')))
  let files (p : Node → Bool) : Act (List String) := do
    let letters := begun.toList
    let directory := String.ofList (letters.reverse.dropWhile (· != '/')).reverse
    let t ← tree
    let entries := (t.list (pathOf (if directory = "" then "." else directory))).toOption.getD []
    let names := (entries.map fun n : FileName => ofBytes n).mergeSort fun a b => a ≤ b
    return (begins (names.map fun n => directory ++ n)).filter fun n =>
      (n.startsWith "." → begun.startsWith ".") &&
        (match t.find (pathOf n) true with
          | .ok node => p node
          | .error _ => true)
  match kind with
  | "alias" => return begins (sorted (s.aliases.map (·.1)))
  | "arrayvar" =>
    return parameters fun p =>
      match p.content with
      | .indexed _ => true
      | _ => false
  | "builtin" => return begins (sorted (shellCommands .extended))
  | "enabled" =>
    return begins ((sorted (shellCommands .extended)).filter fun n => !s.disabled.contains n)
  | "disabled" => return begins ((sorted (shellCommands .extended)).filter s.disabled.contains)
  | "command" =>
    let own := begins (sorted (s.aliases.map (·.1))) ++ begins (keywords .extended)
      ++ begins (sorted (s.functions.map (·.name))) ++ begins (sorted (shellCommands .extended))
    let t ← tree
    let path := ((← parameter? "PATH").getD defaultSearchPath).splitOn ":"
    let found := path.map fun d =>
      let entries := ((t.list (pathOf d)).toOption.getD []).map fun n => ofBytes n
      begins (sorted (entries.filter fun n =>
        match t.find (pathOf (d ++ "/" ++ n)) true with
        | .ok (.file f) => t.allows (.file f) 1
        | _ => false))
    return own ++ found.flatten
  | "directory" => files fun n => n.isDirectory
  | "file" => files fun _ => true
  | "export" => return parameters (·.exported)
  | "variable" => return parameters fun p => p.content.text?.isSome || p.content.isArray
  | "function" => return begins (sorted (s.functions.map (·.name)))
  | "keyword" =>
    return begins ["if", "then", "else", "elif", "fi", "case", "esac", "for", "select", "while",
      "until", "do", "done", "in", "function", "time", "\x7b", "\x7d", "!", "[[", "]]", "coproc"]
  | "job" => return jobs s.jobs.sorted.reverse
  | "running" =>
    let e ← endings
    return jobs (s.jobs.sorted.reverse.filter (·.isRunning e))
  | "setopt" => return begins (Session.optionNames .extended)
  | "shopt" => return begins Session.shoptNames
  | "signal" =>
    return begins (["EXIT"] ++ (Signal.table.map fun e => "SIG" ++ e.1) ++ ["DEBUG", "ERR", "RETURN"])
  | "helptopic" => return begins (sorted (shellCommands .extended))
  | "group" => return begins ["root"]
  | "user" => return begins ["root"]
  | "hostname" => return begins ["localhost"]
  | _ => return []

/-- The order in which kinds of words come. -/
def kindsInOrder : List String :=
  ["alias", "arrayvar", "binding", "builtin", "disabled", "enabled", "export", "function",
    "helptopic", "hostname", "job", "keyword", "running", "setopt", "shopt", "signal", "stopped",
    "variable", "command", "file", "user", "group", "service", "directory"]

/-- How a word may go on. -/
def completed (c : Completion) (begun : String) : Act (List String) := do
  let s ← get
  let ofKinds ← (kindsInOrder.filter c.kinds.contains).mapM (wordsOf begun)
  let ofPattern ← (c.pattern.mapM fun p => fields [.ofText p] : Act (Option (List String)))
  let ofList ← (c.words.mapM listedWords : Act (Option (List String)))
  let call (words : List String) : String := " ".intercalate (words.map Quoting.single)
  let ofFunction : List String ←
    match c.function with
    | none => pure []
    | some f =>
      if s.functions.any fun g => g.name = f then
        let _ ← callStatus (.script "" s.line (f ++ " " ++ call ["compgen", begun, ""]))
        let now ← get
        pure (((now.get? "COMPREPLY").map fun p => p.content.values).getD [])
      else
        fault ("completion: function \x60" ++ f ++ "' not found")
        pure []
  let ofCommand : List String ←
    match c.command with
    | none => pure []
    | some command => do
      let text ← expandedText ("$(" ++ command ++ " " ++ call ["compgen", begun, ""] ++ ")")
      pure (if text = "" then [] else text.splitOn "\n")
  let found := ofKinds.flatten ++ ofPattern.getD []
    ++ (ofList.getD []).filter (fun w => w.startsWith begun) ++ ofFunction ++ ofCommand
  let kept ←
    match c.filter with
    | none => pure found
    | some f => do
      let negated := f.startsWith "!"
      let f := if negated then String.ofList (f.toList.drop 1) else f
      let f := begun.intercalate (f.splitOn "&")
      let p ← pattern (.ofText f)
      found.filterM fun w => do
        let accepted := p.accepts (← isOn "nocasematch") (← decoded w)
        return accepted == negated
  return kept.map fun w => c.front.getD "" ++ w ++ c.back.getD ""

/-- The completion that options describe, unless one of them names what there is not. -/
def completionOf (command : String) (o : Options) : Act (Option Completion) := do
  let values (c : Char) : List String := o.given.filterMap fun g => if g.1 = c then g.2 else none
  let wrongKind := (values 'A').find? fun k =>
    !(Completion.named.contains k || Completion.lettered.any fun l => l.2 = k)
  let wrongOption := (values 'o').find? fun n => !Completion.optionNames.contains n
  match wrongKind, wrongOption with
  | some k, _ =>
    faultOf command (k ++ ": invalid action name")
    return none
  | none, some n =>
    faultOf command (n ++ ": invalid option name")
    return none
  | none, none =>
    let letters := (Completion.lettered.filter fun l => o.has l.1).map (·.2)
    return some
      { options := values 'o'
        kinds := letters ++ values 'A'
        words := o.value? 'W'
        pattern := o.value? 'G'
        function := o.value? 'F'
        command := o.value? 'C'
        filter := o.value? 'X'
        front := o.value? 'P'
        back := o.value? 'S' }

/-- The command `compgen`. -/
def compgenCommand (arguments : List String) : Act Nat := do
  match ← optionsOf "compgen" "abcdefgjksuv" "oAGWFCXPS" arguments with
  | .error status => return status
  | .ok o =>
    match ← completionOf "compgen" o with
    | none => return 2
    | some c =>
      if c.function.isSome then faultOf "compgen" "warning: -F option may not work as you expect"
      if c.command.isSome then faultOf "compgen" "warning: -C option may not work as you expect"
      let asked := !c.kinds.isEmpty || c.words.isSome || c.pattern.isSome || c.function.isSome
        || c.command.isSome
      if !asked then return 0
      else
        let words ← completed c (o.rest.headD "")
        tell (String.join (words.map (· ++ "\n")))
        return if words.isEmpty then 1 else 0

/-- The command `complete`. -/
def completeCommand (arguments : List String) : Act Nat := do
  match ← optionsOf "complete" "abcdefgjksuvprDEI" "oAGWFCXPS" arguments with
  | .error status => return status
  | .ok o =>
    match ← completionOf "complete" o with
    | none => return 2
    | some c =>
      let wide := (← get).isWide
      let special := ["D", "E", "I"].filter fun l => o.has (l.toList.headD 'D')
      let names := if special.isEmpty then o.rest else [("-" ++ special.headD "")]
      let missing (name : String) : Act Unit :=
        faultOf "complete" (name ++ ": no completion specification")
      if o.has 'r' then
        if names.isEmpty then
          modify fun s => { s with completions := [] }
          return 0
        else
          names.foldlM (fun status n => do
            if (← get).completions.any fun e => e.1 = n then
              modify fun s => { s with completions := s.completions.filter fun e => e.1 ≠ n }
              return status
            else
              missing n
              return 1) 0
      else if o.has 'p' || (names.isEmpty && o.given.isEmpty) then
        let all := (← get).completions
        if names.isEmpty then
          let bucket (name : String) : UInt32 :=
            bucketOf (if name = "-D" then "_DefaultCmD_" else if name = "-E" then "_EmptycmD_"
              else if name = "-I" then "_InitialWorD_" else name) % 512
          let sorted := all.mergeSort fun a b => bucket a.1 ≤ bucket b.1
          tell (String.join (sorted.map fun e => e.2.declaration wide e.1))
          return 0
        else
          names.foldlM (fun status n => do
            match all.find? fun e => e.1 = n with
            | some e =>
              tell (e.2.declaration wide n)
              return status
            | none =>
              missing n
              return 1) 0
      else if names.isEmpty then
        complain ("complete: usage: " ++ usageOf "complete")
        return 2
      else
        modify fun s =>
          { s with
            completions := names.reverse.map (fun n => (n, c))
              ++ s.completions.filter fun e => !names.contains e.1 }
        return 0

/-- The command `compopt`, which only makes sense while somebody types, or for what is kept. -/
def compoptCommand (arguments : List String) : Act Nat := do
  let names := arguments.filter fun a => !(a.startsWith "-" || a.startsWith "+")
  let names := names.filter fun n => !Completion.optionNames.contains n
  if names.isEmpty then
    faultOf "compopt" "not currently executing completion function"
    return 1
  else
    names.foldlM (fun status n => do
      if (← get).completions.any fun e => e.1 = n then return status
      else
        faultOf "compopt" (n ++ ": no completion specification")
        return 1) 0

end Act

end CrossBench.Shell
