import CrossBench.Text.Regex.Read
import CrossBench.Text.TimeWords
import CrossBench.Tool.Account
import CrossBench.Tool.Input
import CrossBench.Tool.Walk.Expression

/-!
# Reading expressions about files

The words of an expression are read one after the other. Some of them say how directories are walked
through, wherever they stand; files that are written to are opened as soon as they are named.
-/

namespace CrossBench.Tool.Walk

open Shell Shell.Act

/-- How a walk is made. -/
structure Setting where
  /-- Whether links are followed. -/
  follows : Bool := false
  /-- Whether links that have been asked for are followed. -/
  followsFirst : Bool := false
  least : Nat := 0
  most : Option Nat := none
  /-- Whether directories are looked at after what is in them. -/
  depthFirst : Bool := false
  /-- Whether that has been asked for. -/
  saysDepth : Bool := false
  now : Instant
  zone : Zone

/-- What is known while an expression is read. -/
structure Reading where
  setting : Setting
  /-- The tokens, the last one first. -/
  tokens : List Token := []
  style : Regex.Style := .paths
  /-- Whether days begin at midnight. -/
  wholeDays : Bool := false
  /-- Whether a part prints or does something else of its own. -/
  acts : Bool := false
  prunes : Bool := false
  deletes : Bool := false
  /-- The files that are written to. -/
  outlets : List (String × Outlet) := []
  /-- How many commands there are. -/
  commands : Nat := 0
  /-- The last part that has been named. -/
  last : Option String := none
  /-- The file that names the paths. -/
  sources : Option String := none

/-- Adds a token. Parts with nothing between them must both hold. -/
def Reading.add (r : Reading) (t : Token) : Reading :=
  let joins :=
    match t with
    | .sign .. => false
    | .closing _ => false
    | _ => (r.tokens.head?.map Token.isComplete).getD false
  { r with tokens := t :: (if joins then .sign "-a" 3 :: r.tokens else r.tokens) }

/-- Adds a part that does something. -/
def Reading.addAction (r : Reading) (p : Part) : Reading := { r.add (.part p) with acts := true }

/-! ## Arguments -/

/-- The number that a text spells. -/
def wholeNumber? (cs : List Char) : Option Nat :=
  let cs := cs.dropWhile isSpace
  let cs := if cs.head? = some '+' then cs.drop 1 else cs
  if cs ≠ [] && cs.all Char.isDigit then some (cs.foldl (fun n c => n * 10 + (c.toNat - 48)) 0) else none

/-- The relation that a text begins with, and what is behind it. -/
def relationOf : List Char → Relation × List Char
  | '+' :: rest => (.more, rest)
  | '-' :: rest => (.less, rest)
  | cs => (.same, cs)

/-- The number that a text asks for. -/
def measure? (cs : List Char) : Option Measure :=
  let (r, cs) := relationOf cs
  (wholeNumber? cs).map (⟨r, ·⟩)

/-- The nanoseconds in a number of units of some seconds. -/
def spanLength? (unit : Nat) (cs : List Char) : Option Nat :=
  let whole := cs.takeWhile Char.isDigit
  let rest := cs.drop whole.length
  let places := if rest.head? = some '.' then rest.drop 1 else []
  if (rest ≠ [] && rest.head? ≠ some '.') || (whole ++ places).isEmpty || !places.all Char.isDigit then none
  else
    let n := (whole ++ places).foldl (fun n c => n * 10 + (c.toNat - 48)) 0
    some (n * unit * 1000000000 / Nat.pow 10 places.length)

/-- The last midnight before a point in time. -/
def midnight (zone : Zone) (t : Instant) : Int :=
  (TimeWords.instantOf? zone t "00:00").elim (nanosOf t) nanosOf

/-- The span of a day, so many days ago, or of a minute. -/
def span? (r : Reading) (unit : Nat) (text : String) : Option Span :=
  let day : Int := 86400 * 1000000000
  let today : Int := if r.wholeDays then midnight r.setting.zone r.setting.now + day else nanosOf r.setting.now
  let (relation, cs) := relationOf text.toList
  (spanLength? unit cs).map fun n =>
    let reference : Int :=
      if unit = 60 then today
      else
        match relation with
        | .less => today - 1000000000
        | _ => today - day
    ⟨relation, reference - n, unit * 1000000000⟩

/-- The unit of a size and the digits in front of it, if its last letter is one. -/
def sizeUnit? (cs : List Char) : Option (Nat × List Char) :=
  match cs.getLast? with
  | some 'c' => some (1, cs.dropLast)
  | some 'w' => some (2, cs.dropLast)
  | some 'b' => some (512, cs.dropLast)
  | some 'k' => some (1024, cs.dropLast)
  | some 'M' => some (1048576, cs.dropLast)
  | some 'G' => some (1073741824, cs.dropLast)
  | some c => if c.isDigit then some (512, cs) else none
  | none => none

/-- What is wrong with the kinds that a text lists, if anything is. -/
def kindsError (name text : String) : Nat → List Char → List Char → Option String
  | 0, _, _ => none
  | _, [], seen =>
    some (if seen = [] then "Arguments to " ++ name ++ " should contain at least one letter"
      else "Last file type in list argument to " ++ name ++ " is missing, i.e., list is ending on: ','")
  | fuel + 1, c :: rest, seen =>
    if !"bcdflpsD".toList.contains c then
      some ("Unknown argument to " ++ name ++ ": " ++ String.singleton c)
    else if c = 'D' then
      some (name ++ " D is not supported because Solaris doors are not supported on the platform find was compiled on.")
    else if seen.contains c then
      some ("Duplicate file type '" ++ String.singleton c ++ "' in the argument list to " ++ name ++ ".")
    else
      match rest with
      | [] => none
      | ',' :: rest => kindsError name text fuel rest (c :: seen)
      | _ => some ("Must separate multiple arguments to " ++ name ++ " using: ','")

/-- The kinds of expressions that names of them stand for. -/
def styles : List (String × Regex.Style) :=
  [("findutils-default", .paths), ("ed", .basicSearch), ("emacs", .paths), ("gnu-awk", .extendedSearch),
    ("grep", .basicSearch), ("posix-awk", .extendedSearch), ("awk", .extendedSearch),
    ("posix-basic", .basicSearch), ("posix-egrep", .extendedSearch), ("egrep", .extendedSearch),
    ("posix-extended", .extendedSearch), ("posix-minimal-basic", .basicSearch), ("sed", .basicSearch)]

/-- The words of a command up to the mark at its end, with what is behind the mark, or else the word that
is wrong. -/
def commandWords (asks : Bool) : List String → Bool → List String → Except (Option String) (List String × Bool × List String)
  | [], _, _ => .error none
  | ";" :: rest, _, taken => if taken.isEmpty then .error (some ";") else .ok (taken.reverse, false, rest)
  | a :: rest, marked, taken =>
    if a = "+" && marked && !asks then .ok (taken.reverse, true, rest)
    else commandWords asks rest ((a.splitOn "\x7b\x7d").length > 1) (a :: taken)

/-! ## Parts -/

/-- The file of a name, which is opened unless it has been. -/
def outletOf (r : Reading) (name : String) : Act (Reading × Outlet) := do
  match r.outlets.find? fun o => o.1 = name with
  | some (_, o) => return (r, o)
  | none =>
    if name = "/dev/stdout" then return (r, .standard)
    else if name = "/dev/stderr" then return (r, .file 2)
    else
      let fd ← freeFrom firstFile
      match ← openAt fd (pathOf name) .writing 0o666 with
      | .ok () => return ({ r with outlets := (name, .file fd) :: r.outlets }, .file fd)
      | .error why => stop 1 (cited name ++ ": " ++ why.plainMessage)

/-- Reads a form, and says what is odd about it. -/
def formOf (text : String) : Act (List Piece) := do
  match readForm (text.length + 1) text.toList with
  | .error why => stop 1 why
  | .ok (notes, pieces) =>
    notes.forM say
    return pieces

/-- Refuses to run commands where files lie if they would be looked for there. -/
def checkSearchPath (name : String) : Act Unit := do
  for d in (← searchPath).splitOn ":" do
    if d = "" ∨ d = "." then
      stop 1 ("The current directory is included in the PATH environment variable, which is insecure in "
        ++ "combination with the " ++ name ++ " action of find.  Please remove the current directory from your "
        ++ "$PATH (that is, remove \".\", doubled colons, or leading or trailing colons)")
    if !d.startsWith "/" then
      stop 1 ("The relative path " ++ cited d ++ " is included in the PATH environment variable, which is "
        ++ "insecure in combination with the " ++ name ++ " action of find.  Please remove that entry from $PATH")

/-- Reads a part that runs a command. -/
def readCommand (r : Reading) (name : String) (rest : List String) : Act (Reading × List String) := do
  let asks := name = "-ok" || name = "-okdir"
  let inPlace := name = "-execdir" || name = "-okdir"
  match commandWords asks rest false [] with
  | .error none => stop 1 ("missing argument to \x60" ++ name ++ "'")
  | .error (some word) => stop 1 ("invalid argument \x60" ++ word ++ "' to \x60" ++ name ++ "'")
  | .ok (words, together, rest) =>
    let marks := words.filter fun w => (w.splitOn "\x7b\x7d").length > 1
    if together then
      if 1 < marks.length then
        stop 1 ("Only one instance of \x7b\x7d is supported with " ++ name ++ " ... +")
      let mark := marks.headD ""
      if mark ≠ "\x7b\x7d" then
        stop 1 ("In " ++ cited (name ++ " ... \x7b\x7d +") ++ " the " ++ cited "\x7b\x7d"
          ++ " must appear by itself, but you specified " ++ cited mark)
    if inPlace then checkSearchPath name
    let part : Part := .run r.commands ⟨words, together, inPlace, asks⟩
    return ({ r.addAction part with commands := r.commands + 1 }, rest)

/-- Reads a part that compares the time of a file with another time, of a kind that two letters name. -/
def readNewer (r : Reading) (name : String) (rest : List String) : Act (Reading × List String) := do
  let letters := name.toList.drop 6
  let known (c : Char) : Bool := "aBcm".toList.contains c
  let goal := letters.getD 1 ' '
  if !known (letters.headD ' ') || !(known goal || goal = 't') then stop 1 ("invalid predicate \x60" ++ name ++ "'")
  match rest with
  | [] => stop 1 ("The " ++ cited name ++ " test needs an argument")
  | a :: rest =>
    if letters.contains 'B' then
      say "This system does not provide a way to find the birth time of a file."
      stop 1 ("invalid predicate \x60" ++ name ++ "'")
    if goal = 't' then
      match TimeWords.instantOf? r.setting.zone r.setting.now a with
      | some t => return (r.add (.part (.newer (nanosOf t))), rest)
      | none => stop 1 ("I cannot figure out how to interpret " ++ cited a ++ " as a date or time")
    else
      let t ← tree
      match t.find (pathOf a) r.setting.follows with
      | .ok node => return (r.add (.part (.newer (nanosOf (t.disk.modified node)))), rest)
      | .error e => stop 1 (cited a ++ ": " ++ e.plainMessage)

/-- Reads a part that has one argument, if there is such a part. -/
def readArgument (r : Reading) (name a : String) : Act (Option Reading) := do
  let one (p : Part) : Act (Option Reading) := return some (r.add (.part p))
  let known (p : Option Part) : Act (Option Reading) := do
    match p with
    | some p => one p
    | none => stop 1 ("invalid argument \x60" ++ a ++ "' to \x60" ++ name ++ "'")
  let path (fold : Bool) : Act (Option Reading) := do
    if a.endsWith "/" && a ≠ "/" then
      say ("warning: " ++ name ++ " " ++ a ++ " will not match anything because it ends with /.")
    one (.path fold a)
  let depth : Act Nat := do
    match decimal? a with
    | some n => return n
    | none =>
      stop 1 ("Expected a positive decimal integer argument to " ++ name ++ ", but got " ++ cited a)
  let always (r : Reading) : Act (Option Reading) := return some (r.add (.part (.constant true)))
  match name with
  | "-name" => one (.name false a)
  | "-iname" => one (.name true a)
  | "-path" => path false
  | "-wholename" => path false
  | "-ipath" => path true
  | "-iwholename" => path true
  | "-lname" => one (.goal false a)
  | "-ilname" => one (.goal true a)
  | "-maxdepth" =>
    let n ← depth
    always { r with setting := { r.setting with most := some n } }
  | "-mindepth" =>
    let n ← depth
    always { r with setting := { r.setting with least := n } }
  | "-size" =>
    if a = "" then stop 1 "invalid null argument to -size"
    match sizeUnit? a.toList with
    | none => stop 1 ("invalid -size type \x60" ++ String.ofList (a.toList.getLast?.toList) ++ "'")
    | some (unit, cs) =>
      match measure? cs with
      | some m => one (.size m unit)
      | none => stop 1 ("Invalid argument \x60" ++ a ++ "' to -size")
  | "-perm" =>
    let (bits, cs) : Bits × List Char :=
      match a.toList with
      | '-' :: rest => (.all, rest)
      | '/' :: rest => (.any, rest)
      | cs => (.exactly, cs)
    match if cs = [] then none else Permission.parse? (String.ofList cs) with
    | none => stop 1 ("invalid mode " ++ cited a)
    | some changes =>
      let files := Permission.applyAll changes 0 false 0
      let directories := Permission.applyAll changes 0 true 0
      if a.startsWith "/" && files = 0 && directories = 0 then
        say ("warning: you have specified a mode pattern " ++ a ++ " (which is equivalent to /000). The meaning "
          ++ "of -perm /000 has now been changed to be consistent with -perm -000; that is, while it used to "
          ++ "match no files, it now matches all files.")
        one (.mode .all 0 0)
      else one (.mode bits files directories)
  | "-links" => known ((measure? a.toList).map .names)
  | "-inum" => known ((measure? a.toList).map .serial)
  | "-samefile" =>
    match (← tree).find (pathOf a) r.setting.follows with
    | .ok _ => one (.sameAs a)
    | .error e => stop 1 (cited a ++ ": " ++ e.plainMessage)
  | "-printf" => return some (r.addAction (.form .standard (← formOf a)))
  | "-fstype" => one (.constant false)
  | "-used" =>
    if (spanLength? 86400 (relationOf a.toList).2).isSome then one (.constant (a.startsWith "-"))
    else stop 1 ("Invalid argument " ++ a ++ " to -used")
  | "-regextype" =>
    match styles.lookup a with
    | some style => always { r with style }
    | none =>
      stop 1 ("Unknown regular expression type " ++ cited a ++ "; valid types are "
        ++ ", ".intercalate (styles.map fun s => cited s.1) ++ ".")
  | "-files0-from" => always { r with sources := some a }
  | "-context" => stop 1 "invalid predicate -context: SELinux is not enabled."
  | _ =>
    if name = "-regex" ∨ name = "-iregex" then
      match Regex.parse r.style a.toList with
      | .error why => stop 1 ("failed to compile regular expression '" ++ a ++ "': " ++ why)
      | .ok e => one (.regex e (name = "-iregex"))
    else if name = "-type" ∨ name = "-xtype" then
      match kindsError name a (a.length + 1) a.toList [] with
      | some why => stop 1 why
      | none => one (.kind (a.toList.filter (· != ',')) (name = "-xtype"))
    else if ["-mtime", "-atime", "-ctime"].contains name then known ((span? r 86400 a).map .changed)
    else if ["-mmin", "-amin", "-cmin"].contains name then known ((span? r 60 a).map .changed)
    else if name = "-uid" ∨ name = "-gid" then known ((measure? a.toList).map .owner)
    else if name = "-user" then
      if a = "" then stop 1 "The argument to -user should not be empty"
      match (userNumber? a).orElse fun _ => decimal? a with
      | some n => one (.owner ⟨.same, n⟩)
      | none => stop 1 (cited a ++ " is not the name of a known user")
    else if name = "-group" then
      if a = "" then stop 1 "argument to -group is empty, but should be a group name"
      match (groupNumber? a).orElse fun _ => decimal? a with
      | some n => one (.owner ⟨.same, n⟩)
      | none =>
        let digits := a.toList.takeWhile Char.isDigit
        stop 1 (cited a ++ " is not the name of an existing group"
          ++ if digits = [] then ""
            else " and it does not look like a numeric group ID because it has the unexpected suffix "
              ++ cited (String.ofList (a.toList.drop digits.length)))
    else if name = "-newer" ∨ name = "-anewer" ∨ name = "-cnewer" then
      return some (← readNewer r "-newermm" [a]).1
    else if name = "-fprint" ∨ name = "-fprint0" then
      let (r, o) ← outletOf r a
      return some (r.addAction (.print o (if name = "-fprint" then "\n" else "\x00")))
    else if name = "-fls" then
      let (r, o) ← outletOf r a
      return some (r.addAction (.list o))
    else return none

/-- The parts that have one argument. -/
def argumentNames : List String :=
  ["-name", "-iname", "-path", "-wholename", "-ipath", "-iwholename", "-lname", "-ilname", "-maxdepth",
    "-mindepth", "-size", "-perm", "-links", "-inum", "-samefile", "-printf", "-fstype", "-used", "-regextype",
    "-files0-from", "-context", "-regex", "-iregex", "-type", "-xtype", "-mtime", "-atime", "-ctime", "-mmin",
    "-amin", "-cmin", "-uid", "-gid", "-user", "-group", "-newer", "-anewer", "-cnewer", "-fprint", "-fprint0",
    "-fls"]

/-- Reads a part that has no argument, if there is such a part. -/
def readPlain (r : Reading) (name : String) : Option Reading :=
  let always (r : Reading) : Option Reading := some (r.add (.part (.constant true)))
  match name with
  | "-true" => always r
  | "-false" => some (r.add (.part (.constant false)))
  | "-empty" => some (r.add (.part .empty))
  | "-readable" => some (r.add (.part (.allowed 4)))
  | "-writable" => some (r.add (.part (.allowed 2)))
  | "-executable" => some (r.add (.part (.allowed 1)))
  | "-nouser" => some (r.add (.part (.constant false)))
  | "-nogroup" => some (r.add (.part (.constant false)))
  | "-prune" => some { r.add (.part .prune) with prunes := true }
  | "-quit" => some (r.addAction .quit)
  | "-print" => some (r.addAction (.print .standard "\n"))
  | "-print0" => some (r.addAction (.print .standard "\x00"))
  | "-ls" => some (r.addAction (.list .standard))
  | "-delete" =>
    let r := r.addAction .delete
    some { r with deletes := true, setting := { r.setting with depthFirst := true } }
  | "-daystart" => always { r with wholeDays := true }
  | "-follow" => always { r with setting := { r.setting with follows := true } }
  | _ =>
    if name = "-depth" || name = "-d" then
      always { r with setting := { r.setting with depthFirst := true, saysDepth := true } }
    else if ["-xdev", "-mount", "-noleaf", "-warn", "-nowarn", "-ignore_readdir_race",
        "-noignore_readdir_race"].contains name then always r
    else if name = "(" then some (r.add (.opening false))
    else if name = ")" then some (r.add (.closing false))
    else if name = "!" || name = "-not" then some (r.add (.negation name))
    else if name = "-a" || name = "-and" then some (r.add (.sign name 3))
    else if name = "-o" || name = "-or" then some (r.add (.sign name 2))
    else if name = "," then some (r.add (.sign name 1))
    else none

/-- Whether a word is one of an expression. In front of one, some of these words are paths. -/
def isExpressionWord (leading : Bool) (a : String) : Bool :=
  if a.startsWith "-" then a ≠ "-"
  else if a = ")" || a = "," then !leading
  else a = "(" || a = "!"

/-- Reads the words of an expression. -/
def readWords : Nat → Reading → List String → Act Reading
  | 0, r, _ => return r
  | _, r, [] => return r
  | fuel + 1, r, name :: rest => do
    if !isExpressionWord false name then
      say ("paths must precede expression: \x60" ++ name ++ "'")
      match r.last with
      | some last =>
        if ((← tree).find (pathOf name) true).isOk then
          say ("possible unquoted pattern after predicate \x60" ++ last ++ "'?")
      | none => pure ()
      gone 1
    let missing {α : Type} : Act α := stop 1 ("missing argument to \x60" ++ name ++ "'")
    let next (r : Reading) (rest : List String) : Act Reading :=
      readWords fuel { r with last := some name } rest
    if ["-exec", "-execdir", "-ok", "-okdir"].contains name then
      let (r, rest) ← readCommand r name rest
      next r rest
    else if name = "-fprintf" then
      match rest with
      | [] => missing
      | [file] => stop 1 ("invalid argument \x60" ++ file ++ "' to \x60" ++ name ++ "'")
      | file :: text :: rest =>
        let (r, o) ← outletOf r file
        let pieces ← formOf text
        next (r.addAction (.form o pieces)) rest
    else if argumentNames.contains name then
      match rest with
      | [] => missing
      | a :: rest =>
        match ← readArgument r name a with
        | some r => next r rest
        | none => missing
    else if name.startsWith "-newer" && name.length = 8 then
      let (r, rest) ← readNewer r name rest
      next r rest
    else
      match readPlain r name with
      | some r => next r rest
      | none => stop 1 ("unknown predicate \x60" ++ name ++ "'")

end CrossBench.Tool.Walk
