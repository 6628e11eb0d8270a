import CrossBench.Shell.Pattern
import CrossBench.Tool.List
import CrossBench.Tool.Start
import CrossBench.Tool.Walk.Read

/-!
# Walking through directories

`find` goes through everything below some paths, and does for each file what an expression says: a
part of it that does not hold keeps those behind it from being looked at.
-/

namespace CrossBench.Tool.Walk

open Shell Shell.Act

/-- A file that has been gathered for a command. -/
structure Gathered where
  /-- The number of the command. -/
  number : Nat
  command : Command
  /-- Where the command is run. -/
  place : Option Location
  path : String

/-- What is kept while files are visited. -/
structure State where
  status : Nat := 0
  pruned : Bool := false
  quit : Bool := false
  /-- The files that have been gathered, the last one first. -/
  gathered : List Gathered := []

/-! ## Parts -/

/-- Whether a text fits a pattern of names. -/
def fits (fold : Bool) (pattern text : String) : Bool :=
  (Pattern.ofMarks .plain false (pattern.toList.map fun c => (c, false))).accepts fold text.toList

/-- Whether permission bits are as asked for. -/
def Bits.holds (asked : Nat) (mode : Nat) : Bits → Bool
  | .exactly => mode == asked
  | .all => mode &&& asked == asked
  | .any => asked == 0 || mode &&& asked != 0

/-- Runs a command; whether it ended well. -/
def runCommand (words : List String) (place : Option Location) : Act Bool := do
  let before := (← tree).workdir
  let go (l : Location) : Act Unit := alter fun pid k => k.alterProcess pid fun p => { p with directory := l }
  match place with
  | some l => go l
  | none => pure ()
  let result ← runWords words
  go before
  match result with
  | .ok status => return status.success
  | .error e =>
    say (cited (words.headD "") ++ ": " ++ e.plainMessage)
    return false

/-- Runs a command for the files that have been gathered for it. -/
def runGathered (number : Nat) (s : State) : Act State := do
  let files := s.gathered.reverse.filter fun g => g.number = number
  match files with
  | [] => return s
  | g :: _ =>
    let words := g.command.words.flatMap fun w => if w = "\x7b\x7d" then files.map (·.path) else [w]
    let ok ← runCommand words g.place
    return { s with
      gathered := s.gathered.filter fun g => g.number ≠ number
      status := if ok then s.status else 1 }

/-- Prints a text. -/
def printTo (o : Outlet) (text : String) : Act Unit := do
  match o with
  | .standard => out text
  | .file fd =>
    let _ ← writeText fd text

/-- A word of a command with the name of a file put in for its marks. -/
def substituted (path word : String) : String := path.intercalate (word.splitOn "\x7b\x7d")

/-- The name by which a command that is run where a file lies is told of it. -/
def nameInPlace (v : Visit) : String :=
  let base := baseOf v.path
  if base = "/" then "/"
  else "./" ++ base ++ (if v.depth = 0 && v.path.endsWith "/" then "/" else "")

/-- Runs a command for a file, or gathers the file. -/
def perform (v : Visit) (number : Nat) (c : Command) (s : State) : Act (Bool × State) := do
  let path := if c.inPlace then nameInPlace v else v.path
  let place : Option Location ←
    if c.inPlace then do
      pure ((← tree).locate (pathOf (directoryOf v.path)) true).toOption
    else pure none
  if c.together then
    let moved := s.gathered.any fun g => g.number = number && g.place != place
    let s ← if moved then runGathered number s else pure s
    return (true, { s with gathered := ⟨number, c, place, path⟩ :: s.gathered })
  else
    let words := c.words.map (substituted path)
    let allowed ←
      if c.asks then do
        let _ ← writeText 2 ("< " ++ words.headD "" ++ " ... " ++ v.path ++ " > ? ")
        match ← readTo 0 10 with
        | .ok bytes => pure (bytes.data[0]? == some 121 || bytes.data[0]? == some 89)
        | .error _ => pure false
      else pure true
    if allowed then return (← runCommand words place, s) else return (false, s)

/-- Deletes a file. -/
def delete (v : Visit) (s : State) : Act (Bool × State) := do
  if v.path = "." then return (true, s)
  match ← Act.edit fun t now =>
    if v.node.isDirectory then t.removeDirectory now (pathOf v.path)
    else t.removeFile now (pathOf v.path) with
  | .ok () => return (true, s)
  | .error e =>
    say ("cannot delete " ++ cited v.path ++ ": " ++ e.plainMessage)
    return (false, { s with status := 1 })

/-- Decides a part of an expression for a file. -/
def decidePart (o : Setting) (v : Visit) (s : State) (p : Part) : Act (Bool × State) := do
  let t ← tree
  let disk := t.disk
  let plain (b : Bool) : Act (Bool × State) := return (b, s)
  match p with
  | .constant b => plain b
  | .name fold pattern => plain (fits fold pattern (baseOf v.path))
  | .path fold pattern => plain (fits fold pattern v.path)
  | .goal fold pattern =>
    match v.node with
    | .link target _ => plain (fits fold pattern (ofBytes target.bytes))
    | _ => plain false
  | .regex r fold =>
    let subject : Regex.Subject := ⟨v.path.toList.toArray, fold, false, true⟩
    plain ((r.advance subject [⟨0, []⟩]).any fun e => e.place = subject.text.size)
  | .kind letters through =>
    let followed := o.follows || (o.followsFirst && v.depth = 0)
    let node := if through then (t.find (pathOf v.path) (!followed)).toOption.getD v.node else v.node
    plain (letters.contains (typeLetter node))
  | .empty =>
    match v.node with
    | .file n => plain (disk.record n).data.isEmpty
    | .directory es _ _ => plain es.isEmpty
    | _ => plain false
  | .size m unit => plain (m.holds ((sizeOf disk v.node + unit - 1) / unit))
  | .mode bits files directories =>
    plain (bits.holds (if v.node.isDirectory then directories else files) (disk.mode v.node))
  | .names m => plain (m.holds (disk.linkCount v.node))
  | .serial m => plain (m.holds (serialOf t v.path v.node))
  | .owner m => plain (m.holds 0)
  | .changed span => plain (span.holds (nanosOf (disk.modified v.node)))
  | .newer time => plain (decide (time < nanosOf (disk.modified v.node)))
  | .sameAs name => plain (isSame t o.follows v.path name)
  | .allowed 1 =>
    let node := (t.find (pathOf v.path) true).toOption.getD v.node
    plain (node.isDirectory || disk.runnable node)
  | .allowed _ => plain (t.find (pathOf v.path) true).isOk
  | .prune => return (true, { s with pruned := true })
  | .quit => return (true, { s with quit := true })
  | .delete => delete v s
  | .print outlet ending =>
    printTo outlet (v.path ++ ending)
    plain true
  | .form outlet pieces =>
    printTo outlet (formatted o.zone t v pieces)
    plain true
  | .list outlet =>
    printTo outlet (listing o.zone o.now t v)
    plain true
  | .run number c => perform v number c s

/-- Decides an expression for a file. -/
def decideFor (o : Setting) (v : Visit) : Expression → State → Act (Bool × State)
  | .part p, s => if s.quit then return (false, s) else decidePart o v s p
  | .not e, s => do
    let (b, s) ← decideFor o v e s
    return (!b, s)
  | .both a b, s => do
    let (first, s) ← decideFor o v a s
    if first then decideFor o v b s else return (false, s)
  | .either a b, s => do
    let (first, s) ← decideFor o v a s
    if first then return (true, s) else decideFor o v b s
  | .after a b, s => do
    let (_, s) ← decideFor o v a s
    decideFor o v b s
termination_by structural e => e

/-! ## Walks -/

/-- The node at a path. A link that is followed but leads to nothing stands for itself. -/
def nodeAt (t : Tree) (followed : Bool) (path : String) : Except IoError Node :=
  if followed then
    match t.find (pathOf path) true with
    | .ok node => .ok node
    | .error e => if e = .notFound then t.find (pathOf path) false else .error e
  else t.find (pathOf path) false

/-- Goes through everything at and below a path. `above` are the directories on the way to it, with the
paths by which they have been reached. What is known of a file from its directory stands in if it may not
be looked at. -/
def walk (o : Setting) (e : Expression) (origin : String) :
    Nat → List (Location × String) → String → Nat → Option Node → State → Act State
  | 0, _, _, _, _, s => return s
  | fuel + 1, above, path, depth, known, s => do
    if s.quit then return s
    let t ← tree
    let followed := o.follows || (o.followsFirst && depth = 0)
    let found : Except IoError Node :=
      match nodeAt t followed path, known with
      | .error e, some node => if e = .denied then .ok node else .error e
      | found, _ => found
    let fail (why : IoError) (s : State) : Act State := do
      say (cited path ++ ": " ++ why.plainMessage)
      return { s with status := 1 }
    match found with
    | .error why => fail why s
    | .ok node =>
      let here := (t.locate (pathOf path) followed).toOption.getD []
      let circle := if followed && node.isDirectory then above.find? fun a => a.1 == here else none
      match circle with
      | some (_, other) =>
        say ("File system loop detected; " ++ cited path ++ " is part of the same file system loop as "
          ++ cited other ++ ".")
        return { s with status := 1 }
      | none =>
        let visit (s : State) : Act State := do
          if depth < o.least || s.quit then return s
          else return (← decideFor o ⟨path, origin, depth, node⟩ e s).2
        let below (s : State) : Act State := do
          if s.quit || !node.isDirectory || !o.most.all (depth < ·) then return s
          let t ← tree
          match nodeAt t followed path with
          | .error why => fail why s
          | .ok node =>
            if !t.allows node 4 then fail .denied s
            else
              node.entries.foldlM (fun s entry =>
                walk o e origin fuel ((here, path) :: above) (pathIn path (ofBytes entry.1)) (depth + 1)
                  (some entry.2) s) s
        if o.depthFirst then visit (← below s)
        else
          let s ← visit { s with pruned := false }
          if s.pruned then return { s with pruned := false } else below s

/-- The options in front of the paths. -/
def leading : Nat → Setting → List String → Act (Setting × List String)
  | 0, o, words => return (o, words)
  | fuel + 1, o, words => do
    match words with
    | "-H" :: rest => leading fuel { o with follows := false, followsFirst := true } rest
    | "-L" :: rest => leading fuel { o with follows := true, followsFirst := false } rest
    | "-P" :: rest => leading fuel { o with follows := false, followsFirst := false } rest
    | "--" :: rest => return (o, rest)
    | ["-D"] => misuse 1 "Missing argument after the -D option."
    | "-D" :: _ :: rest => leading fuel o rest
    | a :: rest =>
      if a.startsWith "-O" then
        let level := a.toList.drop 2
        if level = [] then stop 1 "The -O option must be immediately followed by a decimal integer"
        else if !(level.headD ' ').isDigit then stop 1 "Please specify a decimal number immediately after -O"
        else leading fuel o rest
      else return (o, words)
    | [] => return (o, [])

/-- The paths that a file names, each of which ends with a zero. -/
def pathsIn (name : String) : Act (List String × Nat) := do
  match ← contents name with
  | .error e => stop 1 ("cannot open " ++ cited name ++ " for reading: " ++ e.plainMessage)
  | .ok bytes =>
    let names := (linesBy (Char.ofNat 0) (charsOf bytes)).map String.ofList
    let marked := names.zip (List.range names.length)
    let status ← marked.foldlM (fun status (n, i) => do
      if n = "" then
        say (cited name ++ ":" ++ toString (i + 1) ++ ": invalid zero-length file name")
        return 1
      else return status) 0
    return (names.filter (· ≠ ""), status)

/-- Goes through directories. -/
def find : Act Nat := do
  let arguments := (← get).arguments
  let o : Setting := { now := ← now, zone := (← get).zone }
  let (o, rest) ← leading (arguments.length + 1) o arguments
  let paths := rest.takeWhile fun a => !isExpressionWord true a
  let words := rest.drop paths.length
  let r ← readWords (words.length + 1) { setting := o } words
  let e ←
    match wholeExpression r.acts r.tokens.reverse with
    | .ok e => pure e
    | .error why => stop 1 why
  let o := r.setting
  if r.deletes && r.prunes && !o.saysDepth then
    stop 1 ("The -delete action automatically turns on -depth, but -prune does nothing when -depth is in effect.  "
      ++ "If you want to carry on anyway, just explicitly use the -depth option.")
  let (paths, status) ←
    match r.sources, paths with
    | none, [] => pure (["."], 0)
    | none, paths => pure (paths, 0)
    | some name, [] => pathsIn name
    | some _, path :: _ =>
      say ("extra operand " ++ cited path)
      stop 1 "file operands cannot be combined with -files0-from"
  let s ← paths.foldlM (fun s p => walk o e p depthLimit [] p 0 none s) ({ status } : State)
  let s ← (List.range r.commands).foldlM (fun s n => runGathered n s) s
  return s.status

end CrossBench.Tool.Walk
