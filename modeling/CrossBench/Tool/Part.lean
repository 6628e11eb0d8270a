import CrossBench.Text.Layout
import CrossBench.Tool.Moment

/-!
# Whole files and parts of them

The programs that print files, or their beginnings and ends, or copy what they read.
-/

namespace CrossBench.Tool

open Shell Shell.Act

/-! ## Whole files -/

/-- How files are shown. -/
structure Showing where
  numbers : Bool
  /-- Whether lines without characters get no numbers. -/
  skipsBlank : Bool
  /-- Whether several lines without characters become one. -/
  squeezes : Bool
  ends : Bool
  tabs : Bool
  controls : Bool

/-- A character that cannot be printed, as others. -/
def visible (c : Char) : String :=
  let n := c.toNat
  let low (n : Nat) : String :=
    if n < 32 then "^" ++ String.singleton (Char.ofNat (n + 64))
    else if n = 127 then "^?"
    else String.singleton (Char.ofNat n)
  if n < 128 then low n else "M-" ++ low (n - 128)

/-- A line as it is shown. -/
def Showing.line (o : Showing) (cs : List Char) : String :=
  String.join (cs.map fun c =>
    if c = '\t' then (if o.tabs then "^I" else "\t")
    else if o.controls then visible c
    else String.singleton c)

/-- Shows the lines of a file; the number of the last line, whether the last line is still open, and how
many lines without characters are just in front. -/
def showLines (o : Showing) (fd : Nat) (state : Nat × Bool × Nat) :
    Act (Except IoError (Nat × Bool × Nat)) :=
  repeating state fun (n, open_, blanks) => do
    match ← readTo fd 10 with
    | .error e => return .inr (.error e)
    | .ok bytes =>
      if bytes.isEmpty then return .inr (.ok (n, open_, blanks))
      else
        let whole := bytes.data.back? == some 10
        let cs := charsOf (if whole then bytes.extract 0 (bytes.size - 1) else bytes)
        let blank := cs.isEmpty && !open_
        if blank && o.squeezes && 0 < blanks then return .inl (n, open_, blanks + 1)
        else
          let numbered := !open_ && o.numbers && !(o.skipsBlank && cs.isEmpty)
          let n := if numbered then n + 1 else n
          let front := if numbered then Cell.right ⟨toString n, 6, none⟩ ' ' ++ "\t" else ""
          out (front ++ o.line cs ++ (if whole then (if o.ends then "$\n" else "\n") else ""))
          return .inl (n, !whole, if blank then blanks + 1 else 0)

/-- Whether the standard output is the file that a descriptor leads to, behind what has been read. -/
def feedsItself (fd : Nat) : Act Bool := look fun pid k =>
  match k.opened? pid fd, k.opened? pid 1 with
  | some (_, f), some (_, g) =>
    match f.channel, g.channel with
    | .file n, .file m => n = m && decide (f.position < (k.disk.record n).data.size)
    | _, _ => false
  | _, _ => false

/-- Prints files one after the other. -/
def cat : Act Nat := do
  let g ← given
    { letters := "AbeEnstTuv"
      words := [("show-all", "A"), ("number-nonblank", "b"), ("show-ends", "E"), ("number", "n"),
        ("squeeze-blank", "s"), ("show-tabs", "T"), ("show-nonprinting", "v")] }
  let o : Showing :=
    ⟨g.hasAny "nb", g.has "b", g.has "s", g.hasAny "AeE", g.hasAny "AtT", g.hasAny "Aetv"⟩
  let plain := !(o.numbers || o.squeezes || o.ends || o.tabs || o.controls)
  if !(← isOpen 1) then stop 1 "standard output: Bad file descriptor"
  let (status, _) ← (orInput g.operands).foldlM (fun (status, state) name => do
    match ← openInput name with
    | .error e =>
      say (unreadable name e)
      return (1, state)
    | .ok fd =>
      if ← feedsItself fd then
        say (named name ++ ": input file is output file")
        closeInput fd
        return (1, state)
      else
        let result ←
          if plain then
            match ← foldBlocks fd () fun _ bytes => do
              outBytes bytes
              return ((), true) with
            | .ok () => pure (.ok state)
            | .error e => pure (.error e)
          else showLines o fd state
        closeInput fd
        match result with
        | .ok state => return (status, state)
        | .error e =>
          say (unreadable name e)
          return (1, state)) (0, (0, false, 0))
  return status

/-! ## Beginnings and ends -/

/-- What is called for from a file: lines or bytes. -/
structure Portion where
  inBytes : Bool
  /-- How many, from the beginning or up to the end. -/
  count : Nat
  /-- Whether the number counts what is left out. -/
  other : Bool
  /-- What lines end with. -/
  mark : UInt8

/-- Prints the beginning of an open file. -/
def headOf (p : Portion) (fd : Nat) : Act (Except IoError Unit) := do
  if p.other then
    match ← readAll fd with
    | .error e => return .error e
    | .ok bytes =>
      if p.inBytes then outBytes (bytes.extract 0 (bytes.size - p.count))
      else
        let cs := charsOf bytes
        let lines := cs.splitBy fun a _ => a != Char.ofNat p.mark.toNat
        outChars (lines.take (lines.length - p.count)).flatten
      return .ok ()
  else if p.count = 0 then
    match ← readSome fd 0 with
    | .error e => return .error e
    | .ok _ => return .ok ()
  else
    let result ← foldBlocks fd p.count fun left bytes => do
      if p.inBytes then
        outBytes (bytes.extract 0 left)
        if left ≤ bytes.size then giveBack fd (bytes.size - left)
        return (left - bytes.size, left > bytes.size)
      else
        let (stop, left) := bytes.data.foldl (fun (r : Nat × Nat) b =>
          if r.2 = 0 then r else (r.1 + 1, if b = p.mark then r.2 - 1 else r.2)) (0, left)
        outBytes (bytes.extract 0 stop)
        if left = 0 then giveBack fd (bytes.size - stop)
        return (left, left != 0)
    return result.map fun _ => ()

/-- Prints the end of an open file. -/
def tailOf (p : Portion) (fd : Nat) : Act (Except IoError Unit) := do
  match ← readAll fd with
  | .error e => return .error e
  | .ok bytes =>
    if p.inBytes then
      let start := if p.other then p.count - 1 else bytes.size - p.count
      outBytes (bytes.extract start bytes.size)
    else
      let lines := (charsOf bytes).splitBy fun a _ => a != Char.ofNat p.mark.toNat
      let skipped := if p.other then p.count - 1 else lines.length - p.count
      outChars (lines.drop skipped).flatten
    return .ok ()

/-- What a file is called in front of its part. -/
def headerName (name : String) : String := if name = "-" then "standard input" else name

/-- Prints parts of files, with their names in front if there are several. -/
def printParts (headed : Bool) (files : List String) (act : Nat → Act (Except IoError Unit)) : Act Nat := do
  let (status, _) ← (orInput files).foldlM (fun (status, started) name => do
    match ← openInput name with
    | .error e =>
      say ("cannot open " ++ quoted name ++ " for reading: " ++ e.plainMessage)
      return (1, started)
    | .ok fd =>
      let header := (if started then "\n" else "") ++ "==> " ++ headerName name ++ " <==\n"
      if headed then out header
      let result ← act fd
      closeInput fd
      match result with
      | .ok () => return (status, true)
      | .error e =>
        say ("error reading " ++ quoted (headerName name) ++ ": " ++ e.plainMessage)
        return (1, true)) (0, false)
  return status

/-- An old form of a call, in which the first argument is a number with letters. -/
def oldNumber (arguments : List String) : List String :=
  match arguments with
  | a :: rest =>
    match a.toList with
    | '-' :: c :: cs =>
      if c.isDigit then
        let digits := (c :: cs).takeWhile Char.isDigit
        let letters := (c :: cs).drop digits.length
        let unit := letters.filter fun l => l == 'b' || l == 'k' || l == 'm'
        let bytes := letters.contains 'c' || unit ≠ []
        let flags := letters.filter fun l => l == 'q' || l == 'v' || l == 'f'
        (if bytes then "-c" else "-n") ::
          (String.ofList digits ++ String.ofList (unit.map fun u => if u = 'b' then u else u.toUpper)) ::
          (flags.map fun f => "-" ++ String.singleton f) ++ rest
      else arguments
    | _ => arguments
  | [] => []

/-- The part of a file that a call asks for. -/
def portionOf (g : Given) (sign : Char) : Act Portion := do
  let inBytes := g.last? "cn" == some 'c'
  let text := (g.value? (if inBytes then "c" else "n")).getD "10"
  let other := text.toList.head? == some sign
  let digits := if other || text.startsWith "-" || (sign = '-' && text.startsWith "+") then String.ofList (text.toList.drop 1) else text
  let shown := if sign = '-' && other then digits else text
  let wrong := "invalid number of " ++ (if inBytes then "bytes" else "lines") ++ ": " ++ cited shown
  match size? digits with
  | some count =>
    if 18446744073709551615 < count then stop 1 (wrong ++ ": Value too large for defined data type")
    return ⟨inBytes, count, other, lineEnd (g.has "z")⟩
  | none => stop 1 wrong

/-- Prints the beginnings of files. -/
def head : Act Nat := do
  modify fun s => { s with arguments := oldNumber s.arguments }
  let g ← given
    { letters := "qvz", valued := "cn"
      words := [("quiet", "q"), ("silent", "q"), ("verbose", "v"), ("zero-terminated", "z")]
      valuedWords := [("bytes", "c"), ("lines", "n")] }
  let p ← portionOf g '-'
  let headed := g.last? "qv" == some 'v' || (1 < g.operands.length && !g.has "q")
  printParts headed g.operands (headOf p)

/-- An old form of a call for the end of a file, in which the first argument is a number with letters. -/
def oldEnding (arguments : List String) : List String :=
  let plain : Bool :=
    match arguments with
    | [_] => true
    | [_, b] => b = "--" || b = "-" || !b.startsWith "-"
    | [_, b, _] => b = "--"
    | _ => false
  match arguments with
  | a :: rest =>
    match a.toList with
    | sign :: cs =>
      let digits := cs.takeWhile Char.isDigit
      let letters := cs.drop digits.length
      let kind := letters.takeWhile fun c => c == 'b' || c == 'c' || c == 'l'
      let follows := letters.drop kind.length
      let fits := plain && kind.length ≤ 1 && (follows = [] || follows = ['f']) &&
        (sign = '+' || (sign = '-' && cs ≠ [] && cs ≠ ['c'] && cs ≠ ['b']))
      if !fits then arguments
      else
        let count := if digits = [] then "10" else String.ofList digits
        let front := if sign = '+' then "+" else ""
        let option := if kind = ['b'] || kind = ['c'] then "-c" else "-n"
        option :: (front ++ count ++ if kind = ['b'] then "b" else "") ::
          (if follows = [] then rest else "-f" :: rest)
    | [] => arguments
  | [] => []

/-- A file whose end is followed. -/
structure Followed where
  name : String
  /-- Its descriptor, if it is open. -/
  fd : Option Nat

/-- Prints what comes to files, again and again. `last` is the file that has been printed last. Files that
are missing are waited for if that is asked for. -/
def follow (headed waits : Bool) (pause : Nat) (files : List Followed) (last : String) : Act Unit :=
  repeating (files, last) fun (files, last) => do
    if files.all fun f => f.fd.isNone && !waits then
      say "no files remaining"
      gone 1
    Act.sleep pause
    let (files, last) ← files.foldlM (fun ((done, last) : List Followed × String) f => do
      let fd ←
        match f.fd with
        | some fd => pure (some fd)
        | none =>
          if !waits then pure none
          else
            match ← openInput f.name with
            | .error _ => pure none
            | .ok fd =>
              say (quoted f.name ++ " has appeared;  following new file")
              pure (some fd)
      match fd with
      | none => return (done ++ [f], last)
      | some fd =>
        match ← readAll fd with
        | .error _ => return (done ++ [{ f with fd }], last)
        | .ok bytes =>
          if bytes.isEmpty then return (done ++ [{ f with fd }], last)
          if headed && last ≠ f.name then out ("\n==> " ++ headerName f.name ++ " <==\n")
          outBytes bytes
          return (done ++ [{ f with fd }], f.name)) ([], last)
    return .inl (files, last)

/-- Prints the ends of files. -/
def tail : Act Nat := do
  modify fun s => { s with arguments := oldEnding s.arguments }
  let g ← given
    { letters := "fFqvz0123456789", valued := "cns"
      words := [("quiet", "q"), ("silent", "q"), ("verbose", "v"), ("zero-terminated", "z"),
        ("retry", "retry")]
      valuedWords := [("bytes", "c"), ("lines", "n"), ("pid", "pid"), ("sleep-interval", "s"),
        ("max-unchanged-stats", "unchanged")]
      freeWords := [("follow", "follow")] }
  match g.options.find? fun o => o.1.all Char.isDigit with
  | some (digit, _) => stop 1 ("option used in invalid context -- " ++ digit)
  | none => pure ()
  let p ← portionOf g '+'
  let manner ←
    match g.value? "follow" with
    | none | some "" => pure ""
    | some word => wordGiven "--follow" word ["descriptor", "name"]
  let pause ←
    match g.value? "s" with
    | none => pure Instant.second
    | some text =>
      match pauseOf? text with
      | some n => pure n
      | none => stop 1 ("invalid number of seconds: " ++ cited text)
  match g.value? "pid" with
  | some text => if (decimal? text).isNone then stop 1 ("invalid PID: " ++ cited text)
  | none => pure ()
  let follows := g.hasAny "fF" || g.has "follow"
  let byName := g.has "F" || manner = "name"
  if g.has "retry" then
    if !follows then say "warning: --retry ignored; --retry is useful only when following"
    else if !byName then say "warning: --retry only effective for the initial open"
  if g.has "pid" && !follows then say "warning: PID ignored; --pid=PID is useful only when following"
  let headed := g.last? "qv" == some 'v' || (1 < g.operands.length && !g.has "q")
  if follows && !g.operands.isEmpty then
    let (files, _) ← g.operands.foldlM (fun ((files, started) : List Followed × Bool) name => do
      match ← openInput name with
      | .error e =>
        say ("cannot open " ++ quoted name ++ " for reading: " ++ e.plainMessage)
        return (files ++ [⟨name, none⟩], started)
      | .ok fd =>
        if headed then out ((if started then "\n" else "") ++ "==> " ++ headerName name ++ " <==\n")
        match ← tailOf p fd with
        | .ok () => return (files ++ [⟨name, some fd⟩], true)
        | .error e =>
          say ("error reading " ++ quoted (headerName name) ++ ": " ++ e.plainMessage)
          say (named name ++ ": cannot follow end of this type of file")
          return (files, true)) ([], false)
    let shown := files.filter fun f => f.fd.isSome
    follow headed (g.has "F" || g.has "retry") pause files ((shown.getLast?.map (·.name)).getD "")
    return 0
  else printParts headed g.operands (tailOf p)

/-! ## Copies -/

/-- Copies the standard input to files and to the standard output. -/
def tee : Act Nat := do
  let g ← given
    { letters := "aip", words := [("append", "a"), ("ignore-interrupts", "i")]
      freeWords := [("output-error", "p")] }
  match g.value? "p" with
  | none | some "" => pure ()
  | some word =>
    let _ ← wordGiven "--output-error" word ["warn", "warn-nopipe", "exit", "exit-nopipe"]
  let access : Access := if g.has "a" then .appending else .writing
  let (status, outputs) ← g.operands.foldlM (fun (status, outputs) name => do
    let fd ← freeFrom firstFile
    match ← openAt fd (pathOf name) access 0o666 with
    | .ok () => return (status, outputs ++ [(fd, name)])
    | .error e =>
      say (unreadable name e)
      return (1, outputs)) (0, ([] : List (Nat × String)))
  let all := (1, "standard output") :: outputs
  let result ← foldBlocks 0 (status, all) fun (status, outputs) bytes => do
    let state ← outputs.foldlM (fun (status, kept) (fd, name) => do
      match ← Act.write fd bytes with
      | .ok () => return (status, kept ++ [(fd, name)])
      | .error e =>
        say ((if fd = 1 then quoted name else named name) ++ ": " ++ e.plainMessage)
        return (1, kept)) (status, ([] : List (Nat × String)))
    return (state, !state.2.isEmpty)
  match result with
  | .ok (status, _) => return status
  | .error e => stop 1 ("read error: " ++ e.plainMessage)

end CrossBench.Tool
