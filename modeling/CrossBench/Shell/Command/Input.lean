import CrossBench.Shell.Command.Arguments
import CrossBench.Shell.Command.Declare

/-!
# Reading lines and options

`read` takes a line off the standard input and divides it at the separators, `mapfile` takes all
lines, and `getopts` takes the next option off arguments. A backslash in a line that is read keeps the
character behind it from dividing, and joins lines.
-/

namespace CrossBench.Shell

/-! ## Dividing a line -/

/-- Characters that have been read, each with whether a backslash keeps it from dividing. -/
abbrev Written := List (Char × Bool)

namespace Written

/-- Whether a character is a separator, of the given kind if one is asked for. -/
def divides (separators : List Char) (blank : Option Bool) (c : Char × Bool) : Bool :=
  let isBlank := c.1 == ' ' || c.1 == '\t' || c.1 == '\n'
  !c.2 && separators.contains c.1 && blank.all (· == isBlank)

/-- Takes the first word off a line: the word, and what follows behind the separators that end it. -/
def word (separators : List Char) (line : Written) : Written × Written :=
  let blank := divides separators (some true)
  let line := line.dropWhile blank
  let taken := line.takeWhile fun c => !divides separators none c
  let rest := line.drop taken.length
  match rest with
  | [] => (taken, [])
  | first :: rest =>
    let rest := rest.dropWhile blank
    match blank first, rest with
    | true, c :: more =>
      if divides separators none c then (taken, more.dropWhile blank) else (taken, rest)
    | _, _ => (taken, rest)

/-- The text of characters that have been read. -/
def text (line : Written) : String := String.ofList (line.map (·.1))

/-- A line without blanks at its end. -/
def trimmed (separators : List Char) (line : Written) : Written :=
  (line.reverse.dropWhile (divides separators (some true))).reverse

/-- The values of so many parameters, of which the last one gets what is left. -/
def divided (separators : List Char) : Nat → Written → List String
  | 0, _ => []
  | 1, line =>
    let line := line.dropWhile (divides separators (some true))
    let (first, rest) := word separators line
    [text (if rest.isEmpty then first else trimmed separators line)]
  | n + 1, line =>
    let (first, rest) := word separators line
    text first :: divided separators n rest

/-- All words of a line. -/
def words (separators : List Char) : Nat → Written → List String
  | 0, _ => []
  | fuel + 1, line =>
    let line := line.dropWhile (divides separators (some true))
    if line.isEmpty then []
    else
      let (first, rest) := word separators line
      text first :: words separators fuel rest

end Written

/-- How a line is to be read. -/
structure Reading where
  descriptor : Nat
  /-- The byte that ends it. -/
  stop : UInt8
  /-- How many characters it may have. -/
  count : Option Nat
  /-- Whether that byte is no end. -/
  exact : Bool
  /-- Whether backslashes stand for themselves. -/
  raw : Bool
  /-- The time at which nobody waits any longer. -/
  deadline : Option Instant

/-- What has been read of a line. -/
structure Progress where
  /-- The characters, the last first. -/
  taken : Written
  /-- Whether a backslash is in front of the next character. -/
  escaped : Bool

namespace Progress

/-- One more character; whether it has ended the line. -/
def add (r : Reading) (p : Progress) (c : Char) : Progress × Bool :=
  if p.escaped then
    if c == '\n' then ({ p with escaped := false }, false) else (⟨(c, true) :: p.taken, false⟩, false)
  else if c == '\\' && !r.raw then ({ p with escaped := true }, false)
  else if c == Char.ofNat r.stop.toNat && !r.exact then (p, true)
  else if c == Char.ofNat 0 then (p, false)
  else (⟨(c, false) :: p.taken, false⟩, false)

end Progress

/-- How reading a line has ended. -/
inductive ReadEnd where
  | complete
  | missing
  | failed (e : IoError)
  | late
  deriving DecidableEq

namespace Act

/-- Reads some bytes, unless it gets too late. -/
def readBefore (r : Reading) : Act (Option (Except IoError ByteArray)) := do
  match r.deadline with
  | none => return some (← if r.count.isSome then readSome r.descriptor 1 else readTo r.descriptor r.stop)
  | some time =>
    alter fun pid k => k.alterProcess pid fun p => { p with wakes := some time }
    let result ← step fun pid k =>
      let read := if r.count.isSome then k.read pid r.descriptor 1 else k.readTo pid r.descriptor r.stop
      match read with
      | some (b, k) => some (some b, k)
      | none => if time.later k.now then none else some (none, k)
    alter fun pid k => k.alterProcess pid fun p => { p with wakes := none }
    return result

/-- Reads a line. -/
def readLine (r : Reading) : Act (Written × ReadEnd) :=
  repeating (⟨[], false⟩ : Progress) fun p => do
    if r.count.any fun n => n ≤ p.taken.length then return .inr (p.taken.reverse, .complete)
    else
      match ← readBefore r with
      | none => return .inr (p.taken.reverse, .late)
      | some (.error e) => return .inr (p.taken.reverse, .failed e)
      | some (.ok bytes) =>
        if bytes.isEmpty then return .inr (p.taken.reverse, .missing)
        else
          let (p, ended) := bytes.toList.foldl (fun (p, ended) b =>
            if ended then (p, ended) else p.add r (Char.ofNat b.toNat)) (p, false)
          return if ended then .inr (p.taken.reverse, .complete) else .inl p

/-- The number of seconds that a text says, in nanoseconds. -/
def nanosOf? (s : String) : Option Nat :=
  let whole := s.toList.takeWhile Char.isDigit
  let rest := s.toList.drop whole.length
  let digits (cs : List Char) : Nat := cs.foldl (fun n c => n * 10 + (c.toNat - 48)) 0
  match rest with
  | [] => if whole = [] then none else some (digits whole * Instant.second)
  | '.' :: fraction =>
    if fraction.all Char.isDigit && (whole ++ fraction) ≠ [] then
      some (digits whole * Instant.second
        + digits ((fraction ++ List.replicate 9 '0').take 9))
    else none
  | _ => none

/-- Sets the elements of an array, whatever it was. -/
def setElements (name : String) (values : List String) : Act Unit :=
  modify fun s =>
    let p := (s.get? name).getD (.fresh (s.meant name 10))
    s.put { p with content := .indexed (values.zipIdx.map fun (v, i) => (i, v)), pending := false }

/-- The command `read`. -/
def readCommand (arguments : List String) : Act Nat := do
  let s ← get
  let plain := s.dialect = .plain
  let (letters, valued) := if plain then ("r", "p") else ("ers", "adinNptu")
  match ← optionsOf "read" letters valued arguments with
  | .error status => return status
  | .ok o =>
    let separators := s.separators.toList
    let number (c : Char) : Option Nat := (o.value? c).bind decimal?
    let stop : UInt8 :=
      match o.value? 'd' with
      | some d => (toBytes d).headD 0
      | none => 10
    let deadline ← (o.value? 't').bindM fun t => do
      return (nanosOf? t).map ((← now).plus ·)
    let fd := (number 'u').getD 0
    if (o.value? 't').any fun t => (nanosOf? t).isNone then
      faultOf "read" ((o.value? 't').getD "" ++ ": invalid timeout specification")
      return 1
    if o.has 'u' && !(← isOpen fd) then
      faultOf "read" ((o.value? 'u').getD "" ++ ": invalid file descriptor: Bad file descriptor")
      return 1
    if plain && o.rest.isEmpty then fail "arg count"
    match o.rest.find? fun n => !isName (dividedName n).1 with
    | some n =>
      if plain then fail (n ++ ": bad variable name")
      else
        faultOf "read" ("\x60" ++ n ++ "': not a valid identifier")
        return 1
    | none =>
      let r : Reading :=
        ⟨fd, stop, (number 'N').orElse fun _ => number 'n', o.has 'N', o.has 'r', deadline⟩
      let (line, ending) ← readLine r
      let put (name value : String) : Act Unit := do
        let (n, subscript, _, _) := dividedName name
        let e ← subscript.mapM fun t => element n (.ofQuoted t)
        let _ ← assign? n e value
      match o.value? 'a', o.rest with
      | some name, _ => setElements name (Written.words separators (line.length + 1) line)
      | none, [] => put "REPLY" (Written.text line)
      | none, names =>
        if o.has 'N' then
          put (names.headD "") (Written.text line)
          (names.drop 1).forM fun n => put n ""
        else
          (names.zip (Written.divided separators names.length line)).forM fun (n, v) => put n v
      match ending with
      | .complete => return 0
      | .missing => return 1
      | .late => return 142
      | .failed e =>
        unless plain do
          faultOf "read" ("read error: " ++ toString fd ++ ": " ++ e.plainMessage)
        return 1

/-- Reads lines up to the end, each with what ends it. -/
def readLines (fd : Nat) (stop : UInt8) (most : Option Nat) : Act (List ByteArray) := do
  let lines ← repeating ([] : List ByteArray) fun taken => do
    if most.any fun n => n ≤ taken.length then return .inr taken
    else
      match ← readTo fd stop with
      | .error _ => return .inr taken
      | .ok bytes => return if bytes.isEmpty then .inr taken else .inl (bytes :: taken)
  return lines.reverse

/-- The commands `mapfile` and `readarray`. -/
def mapfileCommand (command : String) (arguments : List String) : Act Nat := do
  match ← optionsOf command "t" "CcdnOsu" arguments with
  | .error status => return status
  | .ok o =>
    let number (c : Char) : Nat := ((o.value? c).bind decimal?).getD 0
    let stop : UInt8 :=
      match o.value? 'd' with
      | some d => (toBytes d).headD 0
      | none => 10
    let skipped := number 's'
    let most := if number 'n' = 0 then none else some (skipped + number 'n')
    let name := o.rest.headD "MAPFILE"
    if !isName name then
      faultOf command ("\x60" ++ name ++ "': not a valid identifier")
      return 1
    else
      let lines ← readLines (number 'u') stop most
      let values := (lines.drop skipped).map fun bytes =>
        let cs := charsOf bytes
        let cs := if o.has 't' && bytes.data.back? == some stop then cs.dropLast else cs
        String.ofList (cs.filter (· != Char.ofNat 0))
      let origin := number 'O'
      modify fun s =>
        let p := (s.get? name).getD (.fresh (s.meant name 10))
        let old := if o.has 'O' then p.content.elements else []
        let content := (values.zipIdx).foldl (fun elements (v, i) =>
          Content.insertAt (origin + i) v elements) old
        s.put { p with content := .indexed content, pending := false }
      return 0

/-! ## Options -/

/-- What `getopts` comes to: the value of its parameter, the value of the option, whether the options
are at their end, how many arguments have been taken, and the place in the last of them. -/
structure OptionStep where
  letter : String
  argument : Option String
  done : Bool
  taken : Nat
  place : Nat
  complaint : Option String

/-- Takes the next option off arguments. `quiet` says that the caller deals with faults; `index` is
the number of the next argument and `place` the place in the argument in front of it. -/
def nextOption (dialect : Dialect) (options : String) (arguments : List String) (index place : Nat) :
    OptionStep :=
  let quiet := options.startsWith ":"
  let letters := options.toList
  let argument (n : Nat) : Option String := if n = 0 then none else arguments[n - 1]?
  let inside : List Char :=
    if index ≤ 1 || place = 0 then []
    else (((argument (index - 1)).getD "").toList).drop place
  let ended (taken : Nat) : OptionStep := ⟨"?", none, true, taken, 0, none⟩
  let takeLetter (c : Char) (rest : List Char) (next place : Nat) : OptionStep :=
    let behind := (letters.dropWhile (· != c)).drop 1
    if c == ':' || !letters.contains c then
      ⟨"?", if quiet then some (String.singleton c) else none, false, next,
        if rest.isEmpty then 0 else place,
        if quiet then none
        else some (match dialect with
          | .plain => "Illegal option -" ++ String.singleton c
          | .extended => "illegal option -- " ++ String.singleton c)⟩
    else if behind.head? == some ':' then
      if !rest.isEmpty then ⟨String.singleton c, some (String.ofList rest), false, next, 0, none⟩
      else
        match argument next with
        | some a => ⟨String.singleton c, some a, false, next + 1, 0, none⟩
        | none =>
          if quiet then ⟨":", some (String.singleton c), false, next, 0, none⟩
          else
            ⟨"?", none, false, next, 0,
              some (match dialect with
                | .plain => "No arg for -" ++ String.singleton c ++ " option"
                | .extended => "option requires an argument -- " ++ String.singleton c)⟩
    else
      ⟨String.singleton c, if dialect = .plain then some "" else none, false, next,
        if rest.isEmpty then 0 else place, none⟩
  match inside with
  | c :: rest => takeLetter c rest index (place + 1)
  | [] =>
    match argument index with
    | none => ended index
    | some a =>
      match a.toList with
      | '-' :: c :: rest =>
        if c == '-' && rest.isEmpty then ended (index + 1) else takeLetter c rest (index + 1) 2
      | _ => ended index

/-- The command `getopts`. -/
def getoptsCommand (arguments : List String) : Act Nat := do
  let s ← get
  match arguments with
  | options :: name :: more =>
    let index := (((← parameter? "OPTIND").bind decimal?).getD 1)
    let index := max 1 index
    let given := if more.isEmpty then s.arguments else more
    let r := nextOption s.dialect options given index s.optionPlace
    if let some why := r.complaint then
      match s.dialect with
      | .plain => complain why
      | .extended =>
        unless (← parameter? "OPTERR") == some "0" do complain (s.title ++ ": " ++ why)
    match r.argument with
    | some a => setParameter "OPTARG" a
    | none =>
      unless r.done && s.dialect = .plain do modify fun s => s.forget "OPTARG"
    setParameter "OPTIND" (toString r.taken)
    modify fun s => { s with optionPlace := r.place }
    if s.dialect = .extended && !isName name then
      faultOf "getopts" ("\x60" ++ name ++ "': not a valid identifier")
      return 1
    else
      let _ ← assign? name none r.letter
      modify fun s => { s with optionPlace := r.place }
      return if r.done then 1 else 0
  | _ =>
    match s.dialect with
    | .plain => fail "Usage: getopts optstring var [arg...]"
    | .extended =>
      complain ("getopts: usage: " ++ usageOf "getopts")
      return 2

end Act

end CrossBench.Shell
