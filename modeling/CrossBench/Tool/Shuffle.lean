import CrossBench.Text.Letters
import CrossBench.Text.Regex.Read
import CrossBench.Tool.Input

/-!
# Lines in other orders

`shuf` prints lines in an order that chance decides. Chance is a source of bytes, and a file can be named as
the source: then the order is settled. A number below a bound is made of as few bytes as will do, and
what is left of them is kept for the next number. `tac` prints the records of files from the last one to the
first, and `rev` the characters of each line.
-/

namespace CrossBench.Tool.Shuffle

open Shell Shell.Act

/-! ## Chance -/

/-- A source of numbers: a number that is left over, the greatest that it could have been, the descriptor of
the file that bytes come from, and how many have come if there is no file. -/
structure Chance where
  left : Nat := 0
  limit : Nat := 0
  file : Option (String × Nat) := none
  seed : Nat := 0
  taken : Nat := 0

/-- A byte that is made of two numbers. -/
def byteOf (seed n : Nat) : Nat :=
  let a := (seed * 6364136223846793005 + (n + 1) * 1442695040888963407 + 12345) % 18446744073709551616
  let b := (a ^^^ (a / 8589934592)) * 18397679294719823053 % 18446744073709551616
  (b ^^^ (b / 536870912)) / 65536 % 256

/-- Some bytes more. -/
def Chance.bytes (c : Chance) (count : Nat) : Act (List Nat × Chance) := do
  match c.file with
  | none =>
    return ((List.range count).map fun i => byteOf c.seed (c.taken + i), { c with taken := c.taken + count })
  | some (name, fd) =>
    match ← readSome fd count with
    | .error e => stop 1 (cited name ++ ": " ++ e.plainMessage)
    | .ok bytes =>
      if bytes.size < count then stop 1 (cited name ++ ": end of file")
      else return (bytes.toList.map UInt8.toNat, c)

/-- How many bytes are wanted before a number can be as great as a bound. -/
def bytesWanted (bound : Nat) : Nat → Nat → Nat
  | 0, _ => 0
  | fuel + 1, limit => if bound ≤ limit then 0 else bytesWanted bound fuel (limit * 256 + 255) + 1

/-- A number up to a bound. -/
def Chance.number (bound : Nat) : Nat → Chance → Act (Nat × Chance)
  | 0, c => return (0, c)
  | fuel + 1, c => do
    let (bytes, c) ← c.bytes (bytesWanted bound 9 c.limit)
    let left := bytes.foldl (fun n b => n * 256 + b) c.left
    let limit := bytes.foldl (fun n _ => n * 256 + 255) c.limit
    if limit = bound then return (left, { c with left := 0, limit := 0 })
    else
      let choices := bound + 1
      let excess := limit - bound
      let unusable := excess % choices
      if left ≤ limit - unusable then
        return (left % choices, { c with left := left / choices, limit := excess / choices })
      else Chance.number bound fuel { c with left := left % choices, limit := unusable - 1 }

/-- One of so many numbers, from 0 on. -/
def Chance.choose (c : Chance) (choices : Nat) : Act (Nat × Chance) := c.number (choices - 1) 1000

/-! ## Orders -/

/-- Some of so many numbers in any order. -/
def Chance.order (c : Chance) (count choices : Nat) : Act (List Nat × Chance) := do
  let (numbers, c) ← (List.range count).foldlM (fun ((numbers, c) : Array Nat × Chance) i => do
    let (k, c) ← c.choose (choices - i)
    let j := i + k
    let a := numbers.getD i i
    let b := numbers.getD j j
    return ((numbers.setIfInBounds i b).setIfInBounds j a, c)) ((List.range choices).toArray, c)
  return (numbers.toList.take count, c)

/-- Some of the lines of an input: each has the same chance to be kept, wherever it stands. -/
def Chance.sample (c : Chance) (zero : Bool) (count fd : Nat) :
    Act (Except IoError (List (List Char) × Chance)) := do
  let result ← foldLinesBy (lineEnd zero) fd ((#[], 0, none, c) : Array (List Char) × Nat × Option Nat × Chance)
    fun (kept, seen, place, c) line => do
      if seen < count then
        let seen := seen + 1
        if seen < count then return ((kept.push line, seen, none, c), true)
        else
          let (j, c) ← c.choose (seen + 1)
          return ((kept.push line, seen, some j, c), true)
      else
        let kept := match place with
          | some j => if j < count then kept.setIfInBounds j line else kept
          | none => kept
        let (j, c) ← c.choose (seen + 2)
        return ((kept, seen + 1, some j, c), true)
  return result.map fun (kept, _, _, c) => (kept.toList, c)

/-! ## The program -/

/-- A range of numbers. -/
def rangeOf (text : String) : Act (Nat × Nat) := do
  match (text.splitOn "-").map decimal? with
  | [some a, some b] => if a ≤ b + 1 then return (a, b) else stop 1 ("invalid input range: " ++ cited text)
  | _ => stop 1 ("invalid input range: " ++ cited text)

/-- How many lines are asked for at most. -/
def mostOf (g : Given) : Act (Option Nat) := do
  (g.values "n").foldlM (fun most text => do
    match decimal? (if text.startsWith "+" then (text.drop 1).toString else text) with
    | none => stop 1 ("invalid line count: " ++ cited text)
    | some n => return some (most.elim n (min n))) none

/-- Refuses an option that is given twice with different values. -/
def single (g : Given) (option what : String) : Act (Option String) := do
  match g.values option with
  | first :: others => if others.all (· = first) then return some first else stop 1 ("multiple " ++ what ++ " specified")
  | [] => return none

/-- Prints lines in any order. -/
def shuf : Act Nat := do
  let g ← given
    { letters := "erz", valued := "ino"
      words := [("echo", "e"), ("repeat", "r"), ("zero-terminated", "z")]
      valuedWords := [("input-range", "i"), ("head-count", "n"), ("output", "o"),
        ("random-source", "source")] }
  if 1 < (g.values "i").length then stop 1 "multiple -i options specified"
  let range ← (g.value? "i").mapM rangeOf
  let most ← mostOf g
  let target ← single g "o" "output files"
  let source ← single g "source" "random sources"
  if g.has "e" && range.isSome then misuse 1 "cannot combine -e and -i options"
  match g.has "e", range, g.operands with
  | false, some _, a :: _ => misuse 1 ("extra operand " ++ cited a)
  | false, none, _ :: a :: _ => misuse 1 ("extra operand " ++ cited a)
  | _, _, _ => pure ()
  let mark := lineMark (g.has "z")
  let repeats := g.has "r"
  let input : Option Nat ←
    if g.has "e" || range.isSome || most = some 0 then pure none
    else
      let name := g.operands.headD "-"
      match ← openInput name with
      | .ok fd => pure (some fd)
      | .error e => stop 1 (named name ++ ": " ++ e.plainMessage)
  let isFile : Bool ← look fun pid k =>
    match input.bind (k.opened? pid) with
    | some (_, f) =>
      match f.channel with
      | .file _ => true
      | _ => false
    | none => false
  let samples := input.isSome && !repeats && most.isSome && !isFile
  let failure (e : IoError) : Act Unit := do
    stop 1 ("read error: " ++ e.plainMessage)
  let lines : List (List Char) ←
    match input, range with
    | some fd, _ =>
      if samples then pure []
      else
        match ← readAll fd with
        | .ok bytes => pure (linesBy mark (charsOf bytes))
        | .error e =>
          failure e
          pure []
    | none, some (a, b) => pure ((List.range (b + 1 - a)).map fun i => (toString (a + i)).toList)
    | none, none => pure (if most = some 0 then [] else g.operands.map String.toList)
  let seed : Nat ← look fun pid k => k.now.nanos + pid
  let chance : Chance ←
    match source with
    | none => pure { seed }
    | some name =>
      match ← openInput name with
      | .ok fd => pure { file := some (name, fd) }
      | .error e => stop 1 (named name ++ ": " ++ e.plainMessage)
  let (lines, chance) ←
    match samples, input with
    | true, some fd =>
      match ← chance.sample (g.has "z") (most.getD 0) fd with
      | .ok r => pure r
      | .error e =>
        failure e
        pure ([], chance)
    | _, _ => pure (lines, chance)
  let table := lines.toArray
  let (order, chance) ←
    if repeats then pure ([], chance) else chance.order (min (most.getD table.size) table.size) table.size
  match target with
  | none => pure ()
  | some name =>
    let fd ← freeFrom firstFile
    match ← openAt fd (pathOf name) .writing 0o666 with
    | .ok () =>
      let _ ← duplicate fd 1
      close fd
    | .error e => stop 1 (named name ++ ": " ++ e.plainMessage)
  if !repeats then
    outLines mark (order.map fun i => table.getD i [])
    return 0
  else if most = some 0 then return 0
  else if table.isEmpty then stop 1 "no lines to repeat"
  else
    repeating (most, chance) fun (left, chance) => do
      if left = some 0 then return .inr 0
      else
        let (i, chance) ← chance.choose table.size
        outLines mark [table.getD i []]
        return .inl (left.map (· - 1), chance)

end CrossBench.Tool.Shuffle

namespace CrossBench.Tool

open Shell Shell.Act

/-! ## Backwards -/

/-- What parts records. -/
inductive Parting where
  | text (cs : List Char)
  | regex (r : Regex)

/-- The last place in front of a limit at which records are parted, and the end of what parts them. -/
def Parting.last? (p : Parting) (text : Array Char) (limit : Nat) : Option (Nat × Nat) :=
  match p with
  | .text cs =>
    let n := cs.length
    ((List.range (limit + 1 - n)).reverse.find? fun i => (text.extract i (i + n)).toList = cs).map fun i => (i, i + n)
  | .regex r =>
    let subject : Regex.Subject := ⟨text.extract 0 limit, false, false, true⟩
    (List.range limit).reverse.findSome? fun i => (r.matchAt subject i).map fun m => (i, m.stop)

/-- The records of a text up to a limit, from the last one on. `stop` is where the record that is looked for
ends. -/
def recordsBack (p : Parting) (before : Bool) (text : Array Char) : Nat → Nat → Nat → Bool → List (Array Char)
  | 0, _, stop, _ => [text.extract 0 stop]
  | fuel + 1, limit, stop, fresh =>
    match p.last? text limit with
    | none => [text.extract 0 stop]
    | some (start, finish) =>
      if before then text.extract start stop :: recordsBack p before text fuel start start false
      else if fresh && finish = stop then recordsBack p before text fuel start stop false
      else text.extract finish stop :: recordsBack p before text fuel start finish false

/-- Prints files from their last record to their first. -/
def tac : Act Nat := do
  let g ← given
    { letters := "br", valued := "s", words := [("before", "b"), ("regex", "r")]
      valuedWords := [("separator", "s")] }
  let sign := ((g.value? "s").getD "\n").toList
  let parting ←
    if g.has "r" then
      if sign = [] then stop 1 "separator cannot be empty"
      else
        match Regex.parse .paths sign with
        | .ok r => pure (Parting.regex r)
        | .error why => stop 1 why
    else pure (Parting.text (if sign = [] then [Char.ofNat 0] else sign))
  let simple := !g.has "b" && !g.has "r" && sign.length ≤ 1
  let mark := sign.headD (Char.ofNat 0)
  forAll (orInput g.operands) fun name => do
    match ← contents name with
    | .error e =>
      if e = .isDirectory then say (named name ++ ": read error: " ++ IoError.invalid.plainMessage)
      else say ("failed to open " ++ quoted name ++ " for reading: " ++ e.plainMessage)
      return false
    | .ok bytes =>
      let cs := charsOf bytes
      if simple then outChars (cs.splitBy fun a _ => a != mark).reverse.flatten
      else
        let text := cs.toArray
        (recordsBack parting (g.has "b") text (text.size + 2) text.size text.size true).forM fun r =>
          outChars r.toList
      return true

/-- Prints lines with their characters in the opposite order. -/
def rev : Act Nat := do
  let g ← given { letters := "0" }
  let wide := (← get).isWide
  let turned (cs : List Char) : List Char :=
    if wide then (Letters.units cs).reverse.flatten else cs.reverse
  eachInput (fun name e => "cannot open " ++ name ++ ": " ++ e.plainMessage) g.operands fun _ fd =>
    repeating () fun _ => do
      match ← readTo fd 10 with
      | .error e => return .inr (.error e)
      | .ok bytes =>
        if bytes.isEmpty then return .inr (.ok ())
        else
          let cs := charsOf bytes
          if cs.getLast? = some '\n' then outChars (turned cs.dropLast ++ ['\n'])
          else outChars (turned cs)
          return .inl ()

end CrossBench.Tool
