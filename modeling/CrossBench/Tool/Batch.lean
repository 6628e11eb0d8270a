import CrossBench.Tool.Start

/-!
# Arguments that are read

A program can be called with arguments that are read from a file: as many at a time as fit, a certain
number, those of some lines, or one that is put in for a mark. The file is read piece by piece, and a
program is called as soon as there is enough for it.
-/

namespace CrossBench.Tool.Batch

open Shell Shell.Act

/-! ## Reading -/

/-- What separates arguments. -/
inductive Separation where
  /-- Blanks and line ends, where they are not quoted. -/
  | blanks
  /-- Line ends; quotes are taken away. -/
  | lines
  /-- One character, and there are no quotes. -/
  | mark (c : Char)

/-- Where a reader is. -/
inductive Place where
  | between
  | inside
  /-- Behind a quote of this kind. -/
  | quoted (c : Char)
  /-- Behind a backslash. -/
  | escaped

/-- How arguments are read. -/
structure Rules where
  separation : Separation
  /-- An argument that stands for the end. -/
  final : Option String
  /-- The number of characters that an argument must not reach. -/
  limit : Nat

/-- What has been read of a line. -/
structure Reader where
  place : Place := .between
  /-- The characters of an argument, the last first. -/
  word : List Char := []
  size : Nat := 0
  /-- Whether no argument of the line has been read yet. -/
  first : Bool := true
  /-- Whether there has been a quote, so that an argument can be empty. -/
  marked : Bool := false
  previous : Char := 'x'
  /-- Whether zero characters have been spoken of. -/
  warned : Bool := false

/-- What a reader finds. -/
inductive Item where
  | argument (text : String)
  /-- The end of a line, which counts as one or is continued. -/
  | line (counted : Bool)
  /-- A zero character, which no argument can have. -/
  | zero
  /-- Text that cannot be read. -/
  | refusal (why : String)
  /-- The argument that stands for the end. -/
  | finish

/-- The argument that has been read: it ends at a zero character. -/
def Reader.text (r : Reader) : String :=
  String.ofList (r.word.reverse.takeWhile (· != Char.ofNat 0))

/-- What is said of a quote without an end. -/
def unmatched (c : Char) : String :=
  "unmatched " ++ (if c = '"' then "double" else "single")
    ++ " quote; by default quotes are special to xargs unless you use the -0 option"

/-- Puts a character to an argument. -/
def Reader.put (rules : Rules) (r : Reader) (c : Char) (place : Place) : List Item × Reader :=
  let stray := c = Char.ofNat 0 && !r.warned && !(rules.separation matches .mark _)
  let warning : List Item := if stray then [.zero] else []
  if rules.limit ≤ r.size then (warning ++ [.refusal "argument line too long"], r)
  else (warning, { r with place, word := c :: r.word, size := r.size + 1, warned := r.warned || stray })

/-- Ends an argument; `line` says whether the line ends with it, and whether that counts. -/
def Reader.close (rules : Rules) (r : Reader) (line : Option Bool) : List Item × Reader :=
  let fresh : Reader :=
    if line.isSome then { warned := r.warned }
    else { r with place := .between, word := [], size := 0, first := false }
  let ends : List Item := (line.map Item.line).toList
  if !(rules.separation matches .mark _) && rules.final = some r.text then
    ((if r.first then [] else [.line (line.getD false)]) ++ [.finish], fresh)
  else (.argument r.text :: ends, fresh)

/-- Reads a character. -/
def Reader.take (rules : Rules) (r : Reader) (c : Char) : List Item × Reader :=
  match rules.separation with
  | .mark m => if c = m then r.close rules (some true) else r.put rules c .inside
  | separation =>
    let next : Reader := { r with previous := c }
    let inside (_ : Unit) : List Item × Reader :=
      if c = '\n' then
        next.close rules (some (!(r.previous = ' ' || r.previous = '\t')))
      else if (c = ' ' || c = '\t') && separation matches .blanks then next.close rules none
      else if c = '\\' then ([], { next with place := .escaped, marked := true })
      else if c = '\'' || c = '"' then ([], { next with place := .quoted c, marked := true })
      else next.put rules c .inside
    match r.place with
    | .between => if isSpace c then ([], next) else inside ()
    | .inside => inside ()
    | .escaped => next.put rules c .inside
    | .quoted q =>
      if c = '\n' then ([.refusal (unmatched q)], next)
      else if c = q then ([], { next with place := .inside })
      else next.put rules c r.place

/-- What is found at the end of the file. -/
def Reader.atEnd (rules : Rules) (r : Reader) : List Item :=
  if r.word.isEmpty then []
  else
    match rules.separation, r.place with
    | .mark _, _ => [.argument r.text, .line false]
    | _, .quoted q => [.refusal (unmatched q)]
    | _, _ =>
      if r.first && rules.final = some r.text then [] else [.argument r.text, .line false]

/-- Whether nothing is read behind something. -/
def Item.isLast (item : Item) : Bool :=
  match item with
  | .refusal _ => true
  | .finish => true
  | _ => false

/-- What is found in a text, the last first. -/
def Reader.takeAll (rules : Rules) : List Char → Reader → List Item → List Item × Reader
  | [], r, found => (found, r)
  | c :: rest, r, found =>
    let (items, r) := r.take rules c
    let found := items.reverse ++ found
    if items.any Item.isLast then (found, r) else takeAll rules rest r found

/-! ## Calls -/

/-- How programs are called. -/
structure Plan where
  /-- The words in front of the arguments. -/
  words : List String
  /-- The number of arguments of a call. -/
  most : Option Nat
  /-- The number of lines of a call. -/
  lines : Option Nat
  /-- What arguments are put in for. -/
  replace : Option String
  /-- The number of characters of a call. -/
  limit : Nat
  /-- Whether a call that does not fit ends everything. -/
  strict : Bool
  shown : Bool
  asking : Bool
  /-- The number of programs that may run at a time, if it is limited. -/
  atOnce : Option Nat
  /-- The parameter that tells a program which of them it is. -/
  slot : Option String

/-- The number of characters of words. -/
def Plan.sizeOf (words : List String) : Nat := words.foldl (fun n w => n + w.length + 1) 0

/-- What has been gathered, and what runs. -/
structure State where
  /-- The arguments of the next call, the last first. -/
  arguments : List String := []
  size : Nat
  lines : Nat := 0
  running : List (Nat × Pid) := []
  /-- Whether a program has failed. -/
  failed : Bool := false
  /-- Whether a program has been called. -/
  called : Bool := false

/-- Says how a program has ended, if that is the end of everything; the exit code then. -/
def endOf (plan : Plan) (status : WaitStatus) : Act (Option Nat) := do
  let name := plan.words.headD ""
  match status.signal?, statusNumber status with
  | some n, _ =>
    say (name ++ ": terminated by signal " ++ toString n)
    return some 125
  | none, 255 =>
    say (name ++ ": exited with status 255; aborting")
    return some 124
  | none, _ => return none

/-- Waits until one of the programs has ended. -/
def awaitOne (state : State) : Act (WaitStatus × State) := do
  let (child, status) : Pid × WaitStatus ← await fun _ k =>
    state.running.findSome? fun r => (k.process r.2).ended.map fun status => (r.2, status)
  return (status, { state with
    running := state.running.filter fun r => r.2 ≠ child
    failed := state.failed || status.code?.any fun code => code ≠ 0 && code ≠ 255 })

/-- Waits for all programs and ends. -/
def leave {α : Type} (plan : Plan) (state : State) (status : Nat) : Act α := do
  let state ← repeating state fun state => do
    if state.running.isEmpty then return .inr state
    else
      let (ended, state) ← awaitOne state
      match ← endOf plan ended with
      | some code => gone code
      | none => return .inl state
  gone (if state.failed then 123 else status)

/-- Ends after an error. -/
def refuse {α : Type} (plan : Plan) (state : State) (why : String) : Act α := do
  say why
  leave plan state 1

/-- Starts a program that knows which of them it is. -/
def spawnAs (plan : Plan) (slot : Nat) (words : List String) : Act (Except IoError Pid) := do
  match plan.slot with
  | none => spawn words
  | some name =>
    match ← launchOf words with
    | .error e => return .error e
    | .ok l =>
      let others := (← get).environment.filter fun e => e.1 ≠ name
      return .ok (← fork (.start ((name, toString slot) :: others) l))

/-- Calls a program with words. -/
def callWith (plan : Plan) (state : State) (words : List String) : Act State := do
  let state ← repeating state fun state => do
    if plan.atOnce.any (· ≤ state.running.length) then
      let (ended, state) ← awaitOne state
      match ← endOf plan ended with
      | some code => leave plan state code
      | none => return .inl state
    else return .inr state
  let text := " ".intercalate (words.map (named ·))
  if plan.asking then
    let _ ← writeText 2 text
    refuse plan state "failed to open /dev/tty for reading: No such device or address"
  if plan.shown then complain text
  let taken := state.running.map (·.1)
  let slot := ((List.range (taken.length + 1)).find? fun n => !taken.contains n).getD 0
  match ← spawnAs plan slot words with
  | .error e =>
    say (words.headD "" ++ ": " ++ e.plainMessage)
    leave plan { state with failed := false } (refusalStatus e)
  | .ok child => return { state with running := state.running ++ [(slot, child)], called := true }

/-- Calls a program with what has been gathered. -/
def flush (plan : Plan) (state : State) : Act State := do
  let state ← callWith plan state (plan.words ++ state.arguments.reverse)
  return { state with arguments := [], size := Plan.sizeOf plan.words }

/-- Whether there are enough arguments for a call. -/
def State.isFull (plan : Plan) (state : State) : Bool := plan.most.any (· ≤ state.arguments.length)

/-- Gathers an argument. -/
def gather (plan : Plan) (state : State) (text : String) : Act State := do
  let state ←
    if state.size + text.length + 1 ≤ plan.limit then pure state
    else if state.arguments.isEmpty then
      refuse plan state "cannot fit single argument within argument list size limit"
    else if plan.strict && (plan.most.isSome || plan.lines.isSome) then
      refuse plan state "argument list too long"
    else flush plan state
  let state := { state with
    arguments := text :: state.arguments
    size := state.size + text.length + 1 }
  if state.isFull plan then flush plan state else return state

/-- Calls a program with an argument in the place of each mark. -/
def substitute (plan : Plan) (state : State) (mark text : String) : Act State := do
  let fitted (word : String) : String := if mark = "" then word else text.intercalate (word.splitOn mark)
  let arguments := (plan.words.drop 1).map fitted
  if (plan.words.drop 1).any fun w => w ≠ "" && (mark = "" || plan.limit ≤ (fitted w).length + 1) then
    refuse plan state "command too long"
  else if plan.limit < Plan.sizeOf arguments + (plan.words.headD "").length + 1 then
    refuse plan state "argument list too long"
  else callWith plan state (plan.words.take 1 ++ arguments)

/-- Does what something that has been read asks for. -/
def handle (plan : Plan) (state : State) (item : Item) : Act State := do
  match item with
  | .argument text =>
    match plan.replace with
    | some mark => substitute plan state mark text
    | none => gather plan state text
  | .line counted =>
    let lines := state.lines + (if counted then 1 else 0)
    if plan.lines.any (· ≤ lines) then return { (← flush plan state) with lines := 0 }
    else return { state with lines }
  | .zero =>
    say "WARNING: a NUL character occurred in the input.  It cannot be passed through in the argument list.  Did you mean to use the --null option?"
    return state
  | .refusal why =>
    let state ←
      if plan.replace.isSome || state.arguments.isEmpty || plan.strict then pure state
      else flush plan state
    refuse plan state why
  | .finish => return state

/-! ## Options -/

/-- The character that a text with escapes is. -/
def markOf (text : String) : Except String Char :=
  let wrong (why : String) : Except String Char :=
    .error ("Invalid escape sequence " ++ text ++ " in input delimiter specification" ++ why)
  let number (base : Nat) (most : String) (digits : List Char) : Except String Char :=
    let isDigit (c : Char) : Bool :=
      if base = 8 then '0' ≤ c && c ≤ '7' else c.isDigit || ('a' ≤ c.toLower && c.toLower ≤ 'f')
    let own := digits.takeWhile isDigit
    let value := own.foldl (fun n c =>
      n * base + (if c.isDigit then c.toNat - 48 else c.toLower.toNat - 87)) 0
    let rest := digits.drop own.length
    if 255 < value then wrong ("; character values must not exceed " ++ most ++ ".")
    else if rest ≠ [] then wrong ("; trailing characters " ++ String.ofList rest ++ " not recognised.")
    else .ok (Char.ofNat value)
  match text.toList with
  | [c] => .ok c
  | '\\' :: c :: rest =>
    match c with
    | 'a' => .ok (Char.ofNat 7)
    | 'b' => .ok (Char.ofNat 8)
    | 'f' => .ok (Char.ofNat 12)
    | 'n' => .ok '\n'
    | 'r' => .ok '\r'
    | 't' => .ok '\t'
    | 'v' => .ok (Char.ofNat 11)
    | '\\' => .ok '\\'
    | 'x' => number 16 "ff" rest
    | _ => if c.isDigit then number 8 "377" (c :: rest) else wrong "."
  | _ =>
    .error ("Invalid input delimiter specification " ++ text
      ++ ": the delimiter must be either a single character or an escape sequence starting with \\.")

/-- The number that an option has, within bounds. Whether a number that is out of them ends the program
is said by `strict`. -/
def numberOf (letter text : String) (least : Nat) (most : Option Nat) (strict : Bool) : Act Nat := do
  let negative := text.startsWith "-"
  let front := "value " ++ text ++ " for -" ++ letter ++ " option should be "
  let digits := if negative || text.startsWith "+" then String.ofList (text.toList.drop 1) else text
  match decimal? digits with
  | none =>
    say ("invalid number \"" ++ text ++ "\" for -" ++ letter ++ " option")
    giveHint 1
  | some n =>
    if (negative && 0 < n) || n < least then
      say (front ++ ">= " ++ toString least)
      if strict then giveHint 1 else return least
    else if most.any (· < n) then
      let bound := most.getD n
      say (front ++ "<= " ++ toString bound)
      if strict then giveHint 1 else return bound
    else return n

/-- Warns of options of which only the later one counts. -/
def exclude (former later : String) : Act Unit :=
  say ("warning: options --" ++ former ++ " and " ++ later
    ++ " are mutually exclusive, ignoring previous --" ++ former ++ " value")

/-- The options of a call in their order. -/
def optionsOf (room : Nat) (g : Given) (plan : Plan) : Act Plan :=
  g.options.foldlM (fun plan (name, value) => do
    let replaced (mark : String) : Act Plan := do
      if plan.most.isSome then exclude "max-args" "--replace/-I/-i"
      if plan.lines.isSome then exclude "max-lines" "--replace/-I/-i"
      return { plan with replace := some mark, most := none, lines := none }
    let byLines (lines : Nat) (spelling : String) : Act Plan := do
      if plan.most.isSome then exclude "max-args" spelling
      if plan.replace.isSome then exclude "replace" spelling
      return { plan with lines := some lines, most := none, replace := none }
    match name with
    | "I" => replaced value
    | "i" => replaced (if value = "" then "\x7b\x7d" else value)
    | "L" => do byLines (← numberOf "L" value 1 none true) "-L"
    | "l" => do byLines (← if value = "" then pure 1 else numberOf "l" value 1 none true) "--max-lines/-l"
    | "n" =>
      let most ← numberOf "n" value 1 none true
      if plan.lines.isSome then exclude "max-lines" "--max-args/-n"
      if most = 1 && plan.replace.isSome then return { plan with lines := none, most := none }
      if plan.replace.isSome then exclude "replace" "--max-args/-n"
      return { plan with most := some most, lines := none, replace := none }
    | "s" => return { plan with limit := ← numberOf "s" value 1 (some room) false }
    | "P" =>
      let n ← numberOf "P" value 0 none true
      return { plan with atOnce := if n = 0 then none else some n }
    | _ => return plan) plan

/-- Runs a program with arguments that are read. -/
def xargs : Act Nat := do
  let g ← given
    { letters := "0oprtx", valued := "adEILnPs", free := "eil", anywhere := false
      words := [("null", "0"), ("interactive", "p"), ("no-run-if-empty", "r"), ("verbose", "t"),
        ("exit", "x"), ("open-tty", "o"), ("show-limits", "limits")]
      valuedWords := [("arg-file", "a"), ("delimiter", "d"), ("max-args", "n"),
        ("max-procs", "P"), ("max-chars", "s"), ("process-slot-var", "slot")]
      freeWords := [("replace", "i"), ("eof", "e"), ("max-lines", "l")] }
  let environment := (← get).environment
  let room := 2097152 - 2048 - (environment.foldl (fun n e => n + e.1.length + e.2.length + 2) 0)
  let words := if g.operands.isEmpty then ["echo"] else g.operands
  let plan ← optionsOf room g
    { words, most := none, lines := none, replace := none, limit := 131072, strict := g.has "x"
      shown := g.has "t", asking := g.has "p", atOnce := some 1, slot := g.value? "slot" }
  let mark : Option Char ←
    match g.last? "0d" with
    | some 'd' =>
      match markOf ((g.value? "d").getD "\n") with
      | .ok c => pure (some c)
      | .error why => stop 1 why
    | some _ => pure (some (Char.ofNat 0))
    | none => pure none
  let final := ((g.options.reverse.find? fun o => o.1 = "E" || o.1 = "e").map (·.2)).filter (· ≠ "")
  if final.isSome && mark.isSome then say "warning: the -E option has no effect if -0 or -d is used.\n"
  let source ←
    match g.value? "a" with
    | none =>
      let saved ← freeFrom Kernel.keptFrom
      let _ ← duplicate 0 saved
      let _ ← openAt 0 (pathOf "/dev/null") .reading 0
      pure saved
    | some name =>
      let fd ← freeFrom Kernel.keptFrom
      match ← openAt fd (pathOf name) .reading 0 with
      | .ok () => pure fd
      | .error e => stop 1 ("Cannot open input file " ++ cited name ++ ": " ++ e.plainMessage)
  let size := if plan.replace.isSome then 0 else Plan.sizeOf words
  let start : State := { size }
  if plan.limit < size then
    refuse plan start "cannot fit single argument within argument list size limit"
  let separation : Separation :=
    match mark with
    | some c => .mark c
    | none => if plan.replace.isSome then .lines else .blanks
  let rules : Rules := { separation, final, limit := plan.limit - size - 1 }
  let state ← repeating (({} : Reader), start) fun (reader, state) => do
    let bytes := (← readSome source 4096).toOption.getD .empty
    let (items, reader) :=
      if bytes.isEmpty then (reader.atEnd rules, reader)
      else
        let (found, reader) := reader.takeAll rules (charsOf bytes) []
        (found.reverse, reader)
    let state ← items.foldlM (handle plan) state
    if bytes.isEmpty || items.any Item.isLast then return .inr state else return .inl (reader, state)
  let state ←
    if plan.replace.isSome then pure state
    else if !state.arguments.isEmpty || (!state.called && !g.has "r") then flush plan state
    else pure state
  leave plan state 0

end CrossBench.Tool.Batch
