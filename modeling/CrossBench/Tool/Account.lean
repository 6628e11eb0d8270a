import CrossBench.Tool.Input

/-!
# Users, and the system they use

The programs that tell who calls them and what they run on. The system has the accounts that every system
has, and is used by the first of them, who may do everything.
-/

namespace CrossBench.Tool

open Shell Shell.Act

/-- An account: its name and number, and the number of its group. -/
structure Account where
  name : String
  number : Nat
  group : Nat

/-- The accounts of the system. -/
def accounts : List Account :=
  [⟨"root", 0, 0⟩, ⟨"daemon", 1, 1⟩, ⟨"bin", 2, 2⟩, ⟨"sys", 3, 3⟩, ⟨"sync", 4, 65534⟩, ⟨"games", 5, 60⟩,
    ⟨"man", 6, 12⟩, ⟨"lp", 7, 7⟩, ⟨"mail", 8, 8⟩, ⟨"news", 9, 9⟩, ⟨"uucp", 10, 10⟩, ⟨"proxy", 13, 13⟩,
    ⟨"www-data", 33, 33⟩, ⟨"backup", 34, 34⟩, ⟨"list", 38, 38⟩, ⟨"irc", 39, 39⟩, ⟨"_apt", 42, 65534⟩,
    ⟨"nobody", 65534, 65534⟩]

/-- The groups of the system. -/
def groupNames : List (String × Nat) :=
  [("root", 0), ("daemon", 1), ("bin", 2), ("sys", 3), ("adm", 4), ("tty", 5), ("disk", 6), ("lp", 7),
    ("mail", 8), ("news", 9), ("uucp", 10), ("man", 12), ("proxy", 13), ("kmem", 15), ("dialout", 20),
    ("fax", 21), ("voice", 22), ("cdrom", 24), ("floppy", 25), ("tape", 26), ("sudo", 27), ("audio", 29),
    ("dip", 30), ("www-data", 33), ("backup", 34), ("operator", 37), ("list", 38), ("irc", 39),
    ("src", 40), ("shadow", 42), ("utmp", 43), ("video", 44), ("sasl", 45), ("plugdev", 46),
    ("staff", 50), ("games", 60), ("users", 100), ("nogroup", 65534)]

/-- The number of the user of a name. -/
def userNumber? (name : String) : Option Nat := (accounts.find? fun a => a.name = name).map (·.number)

/-- The number of the group of a name. -/
def groupNumber? (name : String) : Option Nat := groupNames.lookup name

/-- The name of a group, or its number if it has none. -/
def groupText (number : Nat) : String :=
  ((groupNames.find? fun g => g.2 = number).map (·.1)).getD (toString number)

/-- The account that a name or a number stands for. -/
def account? (text : String) : Option Account :=
  (accounts.find? fun a => a.name = text).orElse fun _ =>
    (decimal? (if text.startsWith "+" then (text.drop 1).toString else text)).bind fun n =>
      accounts.find? fun a => a.number = n

/-! ## Users -/

/-- What is told of an account. -/
inductive IdentityPart where
  | user
  | group
  | groups
  | all

/-- What `id` tells of an account. -/
def identityText (part : IdentityPart) (names : Bool) (a : Account) : String :=
  let group := if names then groupText a.group else toString a.group
  match part with
  | .user => if names then a.name else toString a.number
  | .group => group
  | .groups => group
  | .all =>
    let g := toString a.group ++ "(" ++ groupText a.group ++ ")"
    "uid=" ++ toString a.number ++ "(" ++ a.name ++ ") gid=" ++ g ++ " groups=" ++ g

/-- Tells who calls it, or who users are. -/
def identity : Act Nat := do
  let g ← given
    { letters := "agGnruzZ"
      words := [("user", "u"), ("group", "g"), ("groups", "G"), ("name", "n"), ("real", "r"), ("zero", "z"),
        ("context", "Z")] }
  if g.has "Z" then stop 1 "--context (-Z) works only on an SELinux/SMACK-enabled kernel"
  let chosen := ["u", "g", "G"].filter g.has
  if 1 < chosen.length then stop 1 "cannot print \"only\" of more than one choice"
  if chosen.isEmpty && g.hasAny "nr" then stop 1 "cannot print only names or real IDs in default format"
  if chosen.isEmpty && g.has "z" then stop 1 "option --zero not permitted in default format"
  let part : IdentityPart :=
    match chosen with
    | ["u"] => .user
    | ["g"] => .group
    | ["G"] => .groups
    | _ => .all
  let mark := String.singleton (lineMark (g.has "z"))
  let several := g.has "z" && 1 < g.operands.length && g.has "G"
  let tell (a : Account) : Act Unit :=
    out (identityText part (g.has "n") a ++ mark ++ if several then mark else "")
  match g.operands with
  | [] =>
    tell (accounts.headD ⟨"root", 0, 0⟩)
    return 0
  | names =>
    forAll names fun name => do
      match account? name with
      | some a =>
        tell a
        return true
      | none =>
        say (cited name ++ ": no such user")
        return false

/-- Tells the groups of the caller, or of users. -/
def groups : Act Nat := do
  let g ← given {}
  match g.operands with
  | [] =>
    out "root\n"
    return 0
  | names =>
    forAll names fun name => do
      match account? name with
      | some a =>
        out (name ++ " : " ++ groupText a.group ++ "\n")
        return true
      | none =>
        say (cited name ++ ": no such user")
        return false

/-- Prints one line, if nothing but options is given. -/
def always (line : String) : Act Nat := do
  let g ← given {}
  match g.operands with
  | a :: _ => misuse 1 ("extra operand " ++ cited a)
  | [] =>
    out line
    return 0

/-- Refuses to tell the name under which somebody has logged in: nobody has. -/
def logname : Act Nat := do
  let g ← given {}
  match g.operands with
  | a :: _ => misuse 1 ("extra operand " ++ cited a)
  | [] => stop 1 "no login name"

/-- Tells who has logged in, which is nobody. -/
def who : Act Nat := do
  let g ← given
    { letters := "abdlmpqrsTwtuH"
      words := [("all", "a"), ("boot", "b"), ("count", "q"), ("dead", "d"), ("heading", "H"), ("login", "l"),
        ("lookup", "lookup"), ("message", "T"), ("mesg", "T"), ("process", "p"), ("runlevel", "r"),
        ("short", "s"), ("time", "t"), ("users", "u"), ("writable", "T")] }
  match g.operands with
  | _ :: _ :: a :: _ => misuse 1 ("extra operand " ++ cited a)
  | _ =>
    if g.has "q" then out "\n# users=0\n"
    return 0

/-! ## The system -/

/-- Prints what the system is. -/
def uname : Act Nat := do
  let g ← given
    { letters := "asnrvmpio"
      words := [("all", "a"), ("kernel-name", "s"), ("nodename", "n"), ("kernel-release", "r"),
        ("kernel-version", "v"), ("machine", "m"), ("processor", "p"), ("hardware-platform", "i"),
        ("operating-system", "o"), ("sysname", "s"), ("release", "r")] }
  match g.operands with
  | a :: _ => misuse 1 ("extra operand " ++ cited a)
  | [] =>
    let parts :=
      [("s", "Linux"), ("n", "localhost"), ("r", "6.1.0"), ("v", "#1 SMP"), ("m", "x86_64"),
        ("p", "unknown"), ("i", "unknown"), ("o", "GNU/Linux")]
    let chosen := parts.filter fun p =>
      (g.has "a" && p.2 ≠ "unknown") || (!g.has "a" && g.has p.1) || (g.options.isEmpty && p.1 = "s")
    out (" ".intercalate (chosen.map (·.2)) ++ "\n")
    return 0

/-- Prints the name of the system. -/
def hostname : Act Nat := do
  let _ ← given { letters := "aAdfiIsyb" }
  out "localhost\n"
  return 0

/-- How many threads a text asks for: the number at its beginning, in front of a comma at most. -/
def threads? (text : String) : Option Nat :=
  let cs := text.toList.dropWhile isSpace
  let digits := cs.takeWhile Char.isDigit
  let rest := (cs.drop digits.length).dropWhile isSpace
  if rest = [] || rest.head? = some ',' then (decimal? (String.ofList digits)).filter (0 < ·) else none

/-- Prints how many processors there are. -/
def nproc : Act Nat := do
  let g ← given { words := [("all", "all")], valuedWords := [("ignore", "ignore")] }
  let ignored ←
    match g.value? "ignore" with
    | none => pure 0
    | some text =>
      match decimal? text with
      | some n => pure n
      | none => stop 1 ("invalid number: " ++ cited text)
  match g.operands with
  | a :: _ => misuse 1 ("extra operand " ++ cited a)
  | [] =>
    let wanted ← parameter? "OMP_NUM_THREADS"
    let most ← parameter? "OMP_THREAD_LIMIT"
    let usual := if g.has "all" then 1 else (wanted.bind threads?).getD 1
    let count := if g.has "all" then usual else (most.bind threads?).elim usual (min usual)
    out (toString (if ignored < count then count - ignored else 1) ++ "\n")
    return 0

/-- Says whether its input is a terminal, which it never is. -/
def tty : Act Nat := do
  let g ← given { letters := "s", words := [("silent", "s"), ("quiet", "s")], usage := 2 }
  match g.operands with
  | a :: _ => misuse 2 ("extra operand " ++ cited a)
  | [] =>
    if !g.has "s" then out "not a tty\n"
    return 1

/-- Sees to it that what has been written is kept. It always is, so that only the call is looked at. -/
def sync : Act Nat := do
  let g ← given { letters := "df", words := [("data", "d"), ("file-system", "f")] }
  if g.has "d" && g.has "f" then stop 1 "cannot specify both --data and --file-system"
  if g.has "d" && g.operands.isEmpty then stop 1 "--data needs at least one argument"
  forAll g.operands fun file => do
    match (← tree).find (pathOf file) true with
    | .ok _ => return true
    | .error e =>
      say ("error opening " ++ quoted file ++ ": " ++ e.plainMessage)
      return false

end CrossBench.Tool
