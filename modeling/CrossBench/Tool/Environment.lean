import CrossBench.Text.Layout
import CrossBench.Tool.Start

/-!
# The environment

The programs that show the parameters which programs get, and run programs with other ones. A text can hold
several words: they are divided at blanks, and quotes, escapes and the names of parameters mean something
in them.
-/

namespace CrossBench.Tool

open Shell Shell.Act

/-! ## Texts with several words -/

/-- What is known in the middle of a text. -/
structure Cutting where
  /-- The words that have ended, the last first, and the characters of the present one, the last first, if
  there is a word. -/
  words : List String := []
  word : Option (List Char) := none
  /-- The quote that the place is in. -/
  quote : Option Char := none
  /-- What is told of the values of parameters, the last first. -/
  told : List String := []

namespace Cutting

/-- A character more. -/
def add (c : Cutting) (x : Char) : Cutting := { c with word := some (x :: c.word.getD []) }

/-- The end of a word. -/
def cut (c : Cutting) : Cutting :=
  { c with words := c.word.elim c.words fun w => String.ofList w.reverse :: c.words, word := none }

/-- What an escape stands for outside and inside quotes. -/
def escape? (c : Char) : Option Char :=
  if "\"#$'\\".toList.contains c then some c
  else
    [('f', '\x0c'), ('n', '\n'), ('r', '\r'), ('t', '\t'), ('v', '\x0b')].lookup c

/-- Takes a text apart. -/
def read (value? : String → Option String) : Nat → List Char → Cutting → Except String Cutting
  | 0, _, c => .ok c
  | _, [], c => if c.quote.isSome then .error "no terminating quote in -S string" else .ok c.cut
  | fuel + 1, x :: rest, c =>
    let plain (x : Char) (rest : List Char) : Except String Cutting := read value? fuel rest (c.add x)
    if (x = '\'' || x = '"') && (c.quote.isNone || c.quote = some x) then
      let quote := if c.quote.isNone then some x else none
      read value? fuel rest { c with quote, word := some (c.word.getD []) }
    else if isSpace x && c.quote.isNone then read value? fuel rest c.cut
    else if x = '#' && c.word.isNone && c.quote.isNone then .ok c
    else if x = '\\' then
      match rest with
      | [] => .error "invalid backslash at end of string in -S"
      | y :: more =>
        if c.quote = some '\'' && y ≠ '\\' && y ≠ '\'' then plain x rest
        else if y = '_' then
          if c.quote = some '"' then plain ' ' more else read value? fuel more c.cut
        else if y = 'c' then
          if c.quote = some '"' then .error "'\\c' must not appear in double-quoted -S string"
          else read value? fuel [] c
        else
          match escape? y with
          | some z => plain z more
          | none => .error ("invalid sequence '\\" ++ String.singleton y ++ "' in -S")
    else if x = '$' && c.quote ≠ some '\'' then
      let inner := rest.drop 1
      let name := inner.takeWhile fun y => y.isAlphanum || y = '_'
      let first := inner.head?.getD '0'
      let whole := rest.head? = some '\x7b' && (first.isAlpha || first = '_')
        && inner[name.length]? = some '\x7d'
      if !whole then
        .error ("only $\x7bVARNAME\x7d expansion is supported, error at: " ++ String.ofList (x :: rest))
      else
        let mark := "$\x7b" ++ String.ofList name ++ "\x7d"
        let c :=
          match value? (String.ofList name) with
          | some v =>
            { c with
              word := some (v.toList.reverse ++ c.word.getD [])
              told := ("expanding " ++ mark ++ " into " ++ cited v) :: c.told }
          | none => { c with told := ("replacing " ++ mark ++ " with null string") :: c.told }
        read value? fuel (inner.drop (name.length + 1)) c
    else plain x rest

end Cutting

/-! ## Other parameters -/

/-- The arguments of a call with the texts of several words taken apart, and what is told of them. The
options end at the first argument that is none. -/
def takenApart (value? : String → Option String) (wide : Bool) : Nat → Bool → List String →
    Except (String × Bool) (List String × List String)
  | 0, _, arguments => .ok (arguments, [])
  | _, _, [] => .ok ([], [])
  | fuel + 1, loud, a :: rest =>
    let text (kept : List String) (loud : Bool) (text : String) (rest : List String) :
        Except (String × Bool) (List String × List String) :=
      match Cutting.read value? (text.length + 1) text.toList {} with
      | .error why => .error (why, false)
      | .ok c =>
        let words := c.words.reverse
        let lines := words.zipIdx.map fun (w, i) => (if i = 0 then " into:    " else "     &    ") ++ cited w
        let told :=
          if !loud then []
          else c.told.reverse ++ (if words.isEmpty then [] else ("split -S:  " ++ cited text) :: lines)
        (takenApart value? wide fuel loud (words ++ rest)).map fun (more, others) =>
          (kept ++ more, told.map (Quoting.localized wide) ++ others)
    let keep (n : Nat) (loud : Bool) : Except (String × Bool) (List String × List String) :=
      (takenApart value? wide fuel loud (rest.drop n)).map fun (more, told) =>
        (a :: rest.take n ++ more, told)
    match a.toList with
    | '-' :: '-' :: _ =>
      if a.startsWith "--split-string=" then text [] loud (String.ofList (a.toList.drop 15)) rest
      else if a = "--split-string" then
        match rest with
        | t :: rest => text [] loud t rest
        | [] => .error ("option '--split-string' requires an argument", true)
      else if a = "--" then .ok (a :: rest, [])
      else keep (if a = "--unset" || a = "--chdir" then 1 else 0) (loud || a = "--debug")
    | '-' :: c :: letters =>
      let letters := c :: letters
      let flags := letters.takeWhile ("i0v".toList.contains ·)
      let loud := loud || flags.contains 'v'
      match letters.drop flags.length with
      | 'S' :: inner =>
        let kept := if flags.isEmpty then [] else ["-" ++ String.ofList flags]
        if inner ≠ [] then text kept loud (String.ofList inner) rest
        else
          match rest with
          | t :: rest => text kept loud t rest
          | [] => .error ("option requires an argument -- 'S'", true)
      | ['u'] | ['C'] => keep 1 loud
      | x :: _ =>
        if isSpace x then
          .error ("invalid option -- '" ++ String.singleton x ++ "'\nuse -[v]S to pass options in shebang lines", true)
        else keep 0 loud
      | [] => keep 0 loud
    | _ => .ok (a :: rest, [])

/-- The numbers of the signals that a text lists. -/
def signalsOf (text : String) : Act (List Nat) := do
  if text = "" then
    return (List.range 64).map (· + 1) |>.filter fun n => n ≠ Signal.kill && n ≠ Signal.stop
  else
    (text.splitOn ",").mapM fun name => do
      match (signalOf? name).filter (0 < ·) with
      | some n => return n
      | none => misuse 125 (cited name ++ ": invalid signal")

/-- Arranges what is done with signals as the options of a call say. -/
def arrangeSignals (g : Given) : Act Unit := do
  let wanted ← g.options.flatMapM fun (option, text) => do
    if option = "default-signal" then return (← signalsOf text).map fun n => (n, Disposition.usual)
    else if option = "ignore-signal" then return (← signalsOf text).map fun n => (n, Disposition.ignored)
    else if option = "block-signal" then
      let _ ← signalsOf text
      return []
    else return []
  for (n, d) in wanted do
    if n = Signal.kill || n = Signal.stop then
      stop 125 ("failed to set signal action for signal " ++ toString n ++ ": " ++ IoError.invalid.plainMessage)
    alter fun pid k => k.alterProcess pid fun p =>
      let others := p.dispositions.filter fun e => e.1 ≠ n
      { p with dispositions := if d == .usual then others else (n, d) :: others }

/-- Says which signals are ignored. -/
def listSignals : Act Unit := do
  let ignored ← look fun pid k =>
    ((k.process pid).dispositions.filter fun d => d.2 == .ignored).map (·.1)
  for n in List.range 65 do
    if ignored.contains n then
      let name := (Signal.name? n).getD (toString n)
      complain (Cell.left ⟨name, 10, none⟩ ' ' ++ " (" ++ Cell.right ⟨toString n, 2, none⟩ ' ' ++ "): IGNORE")

/-- The parameters with one more of the form of a name, an equals sign and a value. -/
def withSetting (environment : List (String × String)) (setting : String) : List (String × String) :=
  let name := String.ofList (setting.toList.takeWhile (· != '='))
  let value := String.ofList (setting.toList.drop (name.length + 1))
  if environment.any fun e => e.1 = name then
    environment.map fun e => if e.1 = name then (name, value) else e
  else environment ++ [(name, value)]

/-- Runs a program with other parameters. -/
def env : Act Nat := do
  let s ← get
  let own := s.environment
  let value? (name : String) : Option String := (own.find? fun e => e.1 = name).map (·.2)
  match takenApart value? s.isWide (s.arguments.length + 50) false s.arguments with
  | .error (why, wrong) =>
    for line in why.splitOn "\n" do say line
    if wrong then giveHint 125 else gone 125
  | .ok (arguments, told) =>
    told.forM complain
    modify fun s => { s with arguments }
    let g ← given
      { letters := "i0v", valued := "uC", anywhere := false, usage := 125
        words := [("ignore-environment", "i"), ("null", "0"), ("debug", "v"),
          ("list-signal-handling", "list-signal-handling")]
        valuedWords := [("unset", "u"), ("chdir", "C"), ("split-string", "S")]
        freeWords := [("default-signal", "default-signal"), ("ignore-signal", "ignore-signal"),
          ("block-signal", "block-signal")] }
    let tell (line : String) : Act Unit := do
      if g.has "v" then complain (Quoting.localized s.isWide line)
    let bare := g.has "i" || g.operands.head? = some "-"
    let rest := if g.operands.head? = some "-" then g.operands.drop 1 else g.operands
    let settings := rest.takeWhile fun a => a.toList.contains '='
    let words := rest.drop settings.length
    if bare then tell "cleaning environ"
    else
      for name in g.values "u" do
        tell ("unset:    " ++ name)
        if name = "" || name.toList.contains '=' then
          stop 125 ("cannot unset " ++ cited name ++ ": " ++ IoError.invalid.plainMessage)
    let kept := if bare then [] else own.filter fun e => !(g.values "u").contains e.1
    for a in settings do tell ("setenv:   " ++ a)
    let environment := settings.foldl withSetting kept
    if g.has "0" && !words.isEmpty then misuse 125 "cannot specify --null (-0) with command"
    if g.has "C" && words.isEmpty then misuse 125 "must specify command with --chdir (-C)"
    match words with
    | [] =>
      let mark := String.singleton (lineMark (g.has "0"))
      out (String.join (environment.map fun (n, v) => n ++ "=" ++ v ++ mark))
      return 0
    | words =>
      arrangeSignals g
      if g.has "list-signal-handling" then listSignals
      match g.value? "C" with
      | some d =>
        tell ("chdir:    " ++ quoted d)
        match (← tree).enter (pathOf d) with
        | .ok l => alter fun pid k => k.alterProcess pid fun p => { p with directory := l }
        | .error e => stop 125 ("cannot change directory to " ++ quoted d ++ ": " ++ e.plainMessage)
      | none => pure ()
      tell ("executing: " ++ words.headD "")
      for (w, i) in words.zipIdx do tell ("   arg[" ++ toString i ++ "]= " ++ cited w)
      let path := (environment.find? fun e => e.1 = "PATH").map (·.2)
      let t ← tree
      match prepare t (path.getD defaultSearchPath) environment words with
      | .ok l => turnInto environment l
      | .error e =>
        let name := words.headD ""
        say (cited name ++ ": " ++ e.plainMessage)
        if refusalStatus e = 127 && name.any isSpace then
          say "use -[v]S to pass options in shebang lines"
        gone (refusalStatus e)

/-- Prints parameters that are handed on. -/
def printenv : Act Nat := do
  let g ← given { letters := "0", words := [("null", "0")], anywhere := false, usage := 2 }
  let mark := String.singleton (lineMark (g.has "0"))
  let s ← get
  let own := s.environment
  match g.operands with
  | [] =>
    out (String.join (own.map fun (n, v) => n ++ "=" ++ v ++ mark))
    return 0
  | names =>
    let found := names.map fun n => (own.find? fun e => e.1 = n).map (·.2)
    out (String.join (found.map fun v => (v.map (· ++ mark)).getD ""))
    return if found.all Option.isSome then 0 else 1

end CrossBench.Tool
