import CrossBench.Shell.Launch
import CrossBench.Shell.Quoting
import CrossBench.Text.Letters

/-!
# Arguments of programs

A program takes options and operands. An option is a letter behind a hyphen, several of which may
stand together, or a word behind two hyphens, of which a beginning is enough if no other word begins
so. Options may have values. A program that is called in another way says so and ends.
-/

namespace CrossBench.Tool

open Shell Shell.Act

/-- The options of a program. A word goes by a letter, or by itself. -/
structure Grammar where
  /-- The letters without values. -/
  letters : String := ""
  /-- The letters with values. -/
  valued : String := ""
  /-- The letters with values that stand in the same argument or are left out. -/
  free : String := ""
  /-- The words without values. -/
  words : List (String × String) := []
  /-- The words with values. -/
  valuedWords : List (String × String) := []
  /-- The words with values that may be left out. -/
  freeWords : List (String × String) := []
  /-- Whether options may stand behind operands. -/
  anywhere : Bool := true
  /-- The exit code after a wrong call. -/
  usage : Nat := 1
  /-- What is said about the right call. -/
  synopsis : String := ""
  /-- Whether the hint at the right call has the program's name in front. -/
  signed : Bool := false
  /-- The collection of programs to which this one belongs, and its edition. -/
  edition : String := "GNU coreutils) 9.1"

/-- The options and operands of a call. -/
structure Given where
  /-- The options in their order, with their values. -/
  options : List (String × String)
  operands : List String

namespace Given

/-- Whether an option has been given. -/
def has (g : Given) (name : String) : Bool := g.options.any fun o => o.1 = name

/-- Whether any of some letters has been given. -/
def hasAny (g : Given) (letters : String) : Bool :=
  letters.toList.any fun c => g.has (String.singleton c)

/-- The last value of an option. -/
def value? (g : Given) (name : String) : Option String :=
  (g.options.reverse.find? fun o => o.1 = name).map (·.2)

/-- All values of an option. -/
def values (g : Given) (name : String) : List String :=
  (g.options.filter fun o => o.1 = name).map (·.2)

/-- The last of some options that has been given. -/
def last? (g : Given) (letters : String) : Option Char :=
  (g.options.reverse.find? fun o => letters.toList.any fun c => o.1 = String.singleton c).bind
    fun o => o.1.toList.head?

/-- The call with one more option in front. -/
def consOption (name value : String) (g : Given) : Given :=
  { g with options := (name, value) :: g.options }

/-- The call with one more operand in front. -/
def consOperand (a : String) (g : Given) : Given := { g with operands := a :: g.operands }

end Given

namespace Grammar

/-- A word and what is known of it: what it goes by, and whether it has a value, if that is certain. -/
def entries (g : Grammar) : List (String × String × Option Bool) :=
  (g.words.map fun w => (w.1, w.2, some false)) ++ (g.valuedWords.map fun w => (w.1, w.2, some true))
    ++ (g.freeWords.map fun w => (w.1, w.2, none))
    ++ [("help", "help", some false), ("version", "version", some false)]

/-- The word that is meant by the beginning of one. -/
def wordOf (g : Grammar) (s : String) : Except String (String × String × Option Bool) :=
  let fitting := g.entries.filter fun e => e.1.startsWith s
  match g.entries.find? fun e => e.1 = s with
  | some e => .ok e
  | none =>
    match fitting with
    | [] => .error ("unrecognized option '--" ++ s ++ "'")
    | e :: others =>
      if others.all fun o => o.2 = e.2 then .ok e
      else
        .error ("option '--" ++ s ++ "' is ambiguous; possibilities:"
          ++ String.join (fitting.map fun f => " '--" ++ f.1 ++ "'"))

/-- The options that the letters of an argument are, and whether the last of them still wants a
value. -/
def lettersOf (g : Grammar) : List Char → Except String (List (String × String) × Option String)
  | [] => .ok ([], none)
  | c :: rest =>
    let name := String.singleton c
    if c ≠ ':' && g.valued.toList.contains c then
      if rest.isEmpty then .ok ([], some name) else .ok ([(name, String.ofList rest)], none)
    else if g.free.toList.contains c then .ok ([(name, String.ofList rest)], none)
    else if g.letters.toList.contains c then
      (lettersOf g rest).map fun (others, open_) => ((name, "") :: others, open_)
    else .error ("invalid option -- '" ++ name ++ "'")

/-- Takes arguments apart. -/
def parse (g : Grammar) : List String → Except String Given
  | [] => .ok ⟨[], []⟩
  | "--" :: rest => .ok ⟨[], rest⟩
  | a :: rest =>
    match a.toList with
    | '-' :: '-' :: word =>
      let name := String.ofList (word.takeWhile (· != '='))
      let value := String.ofList (word.drop (name.length + 1))
      let joined := word.contains '='
      match g.wordOf name with
      | .error e => .error e
      | .ok (long, key, wants) =>
        match wants, joined, rest with
        | some false, true, _ => .error ("option '--" ++ long ++ "' doesn't allow an argument")
        | some true, false, v :: rest => (parse g rest).map (·.consOption key v)
        | some true, false, [] => .error ("option '--" ++ long ++ "' requires an argument")
        | _, _, rest => (parse g rest).map (·.consOption key value)
    | '-' :: c :: cs =>
      match g.lettersOf (c :: cs), rest with
      | .error e, _ => .error e
      | .ok (options, none), rest =>
        (parse g rest).map fun given => options.foldr (fun o g => g.consOption o.1 o.2) given
      | .ok (options, some name), v :: rest =>
        (parse g rest).map fun given =>
          options.foldr (fun o g => g.consOption o.1 o.2) (given.consOption name v)
      | .ok (_, some name), [] => .error ("option requires an argument -- '" ++ name ++ "'")
    | _ =>
      if g.anywhere then (parse g rest).map (·.consOperand a) else .ok ⟨[], a :: rest⟩

end Grammar

/-! ## Names in messages -/

/-- A name in quotes, in a form in which a shell can read it. -/
abbrev quoted (s : String) : String := Shell.Quoting.piecewise true s

/-- A name as it is, or in quotes if it would be read as something else. -/
abbrev named (s : String) : String := Shell.Quoting.named true s

/-- A text that a message quotes from a call of the program. -/
abbrev cited (s : String) : String := Shell.Quoting.cited s

/-! ## Messages -/

/-- Says something in the name of the program. -/
def say (why : String) : Act Unit := do
  let s ← get
  complain (s.title ++ ": " ++ Shell.Quoting.localized s.isWide why)

/-- Says in the name of the program where more is to be learnt, and ends it. -/
def giveSignedHint {α : Type} (status : Nat) : Act α := do
  say ("Try '" ++ (← get).title ++ " --help' for more information.")
  gone status

/-- Says where more is to be learnt, and ends the program. -/
def giveHint {α : Type} (status : Nat) : Act α := do
  complain ("Try '" ++ (← get).title ++ " --help' for more information.")
  gone status

/-- Refuses a call of the program. -/
def misuse {α : Type} (status : Nat) (why : String) : Act α := do
  say why
  giveHint status

/-- Says why a program cannot go on, and ends it. -/
def stop {α : Type} (status : Nat) (why : String) : Act α := do
  say why
  gone status

/-- Refuses the value of an option that has to be one of some words. Words that mean the same stand
together, with bars between them. -/
def misuseOf {α : Type} (option value : String) (words : List String) : Act α := do
  let wide := (← get).isWide
  let all := words.flatMap (·.splitOn "|")
  let kind := if all.any (·.startsWith value) then "ambiguous" else "invalid"
  say (kind ++ " argument " ++ cited value ++ " for " ++ cited option)
  complain "Valid arguments are:"
  for w in words do
    complain (Shell.Quoting.localized wide ("  - " ++ ", ".intercalate ((w.splitOn "|").map cited)))
  giveHint 1

/-- The one of some words that a text is, or the beginning of. Words that mean the same stand together,
with bars between them. -/
def wordAmong (words : List String) (text : String) : Option String :=
  let groups := words.map (·.splitOn "|")
  (groups.flatten.find? (· = text)).orElse fun _ =>
    match (groups.map fun g => g.filter (·.startsWith text)).filter (!·.isEmpty) with
    | [group] => group.head?
    | _ => none

/-- The value of an option that has to be one of some words, or the beginning of one. -/
def wordGiven (option value : String) (words : List String) : Act String := do
  match wordAmong words value with
  | some w => return w
  | none => misuseOf option value words

/-- What programs that have names of their own for that say when their output cannot be written, and their
exit code. -/
def outputFailure (name : String) (e : IoError) : List String × Nat :=
  let plain := "write error: " ++ e.plainMessage
  let sums := ["wc", "du", "cksum", "sum", "b2sum"]
  if name = "sort" then (["fflush failed: 'standard output': " ++ e.plainMessage, "write error"], 2)
  else if name = "sed" then
    ([(if e = .badDescriptor then "couldn't close stdout: " else "couldn't flush stdout: ") ++ e.plainMessage], 4)
  else if name = "find" then
    ([cited "standard output" ++ ": " ++ e.plainMessage,
      if e = .badDescriptor then plain else "write error"], 1)
  else if name = "yes" then (["standard output: " ++ e.plainMessage], 1)
  else if name = "diff" then (["standard output: " ++ e.plainMessage], 2)
  else if (sums.contains name || name.endsWith "sum") && e ≠ .badDescriptor then (["write error"], 1)
  else if ["ls", "dir", "vdir", "grep", "egrep", "fgrep", "cmp", "printenv", "tty"].contains name then ([plain], 2)
  else if name = "expr" then ([plain], 3)
  else if ["env", "timeout", "nohup", "nice"].contains name then ([plain], 125)
  else ([plain], 1)

/-- Prints bytes. -/
def outBytes (bytes : ByteArray) : Act Unit := do
  if bytes.isEmpty then return ()
  match ← write 1 bytes with
  | .ok () => return ()
  | .error e =>
    let title := (← get).title
    let (lines, status) := outputFailure (String.ofList ((title.toList.reverse.takeWhile (· != '/')).reverse)) e
    lines.forM say
    gone status

/-- Prints a text. -/
def out (s : String) : Act Unit := outBytes (packed s)

/-- Prints characters. -/
def outChars (cs : List Char) : Act Unit := outBytes (packedChars cs)

/-- The options and operands of the program's call. -/
def given (g : Grammar) : Act Given := do
  let s ← get
  match g.parse s.arguments with
  | .error why =>
    say why
    unless g.synopsis = "" do complain ("Usage: " ++ s.title ++ " " ++ g.synopsis)
    if g.signed then giveSignedHint g.usage else giveHint g.usage
  | .ok given =>
    if given.has "help" then
      out ("Usage: " ++ s.title ++ " [OPTION]...\n")
      gone 0
    else if given.has "version" then
      out (s.title ++ " (" ++ g.edition ++ "\n")
      gone 0
    else return given

/-- Does something with each of some texts; the exit code is 1 if anything failed. -/
def forAll (texts : List String) (act : String → Act Bool) : Act Nat := do
  texts.foldlM (fun status t => do return if ← act t then status else 1) 0

/-- Changes the disk, or says why that fails. -/
def change (why : String) (edit : Tree → Instant → Except IoError Tree) : Act Bool := do
  match ← Act.edit edit with
  | .ok () => return true
  | .error e =>
    say (why ++ ": " ++ e.plainMessage)
    return false

/-- The decimal number that a text is. -/
def decimal? (s : String) : Option Nat :=
  if s ≠ "" && s.all Char.isDigit then
    some (s.foldl (fun n c => n * 10 + (c.toNat - 48)) 0)
  else none

/-- What a unit behind a number multiplies it by. The letters are those that may begin one. -/
def unitOf? (letters : List Char) : List Char → Option Nat
  | [] => some 1
  | ['b'] => if letters.contains 'b' then some 512 else none
  | c :: rest =>
    if !letters.contains c then none
    else
      let power := (["K", "M", "G", "T", "P", "E", "Z", "Y"].findIdx? fun l => l = String.singleton c.toUpper).map (· + 1)
      match power, rest with
      | some p, [] | some p, ['i', 'B'] => some (Nat.pow 1024 p)
      | some p, ['B'] | some p, ['D'] => some (Nat.pow 1000 p)
      | _, _ => none

/-- The number that a text is, with a unit behind it. A unit alone is one of it. -/
def scaled? (letters s : String) : Option Nat :=
  let cs := s.toList
  let digits := cs.takeWhile Char.isDigit
  let n := if digits = [] then 1 else digits.foldl (fun n c => n * 10 + (c.toNat - 48)) 0
  if cs = [] then none
  else (unitOf? letters.toList (cs.drop digits.length)).map (n * ·)

/-- The number that a text is, with a unit behind it. -/
def size? (s : String) : Option Nat := scaled? "bkKmMGTPEZY" s

end CrossBench.Tool
