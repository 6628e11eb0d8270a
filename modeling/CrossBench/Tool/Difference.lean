import CrossBench.Shell.Pattern
import CrossBench.Shell.Test
import CrossBench.Text.Regex.Read
import CrossBench.Tool.Compare
import CrossBench.Tool.Difference.Beside
import CrossBench.Tool.List.Style

/-!
# Comparing files line by line

`diff` tells how two files differ, or two directories with all that lies below them.
-/

namespace CrossBench.Tool.Difference

open Shell Shell.Act

/-- How paths are compared. -/
structure Plan where
  rules : Rules
  wide : Bool
  /-- Whether it is only told that files differ. -/
  brief : Bool
  /-- Whether it is told that files are the same. -/
  tellsSame : Bool
  recursive : Bool
  /-- Whether missing files are taken to be empty: all, or those of the first path. -/
  newFiles : Bool
  newOnLeft : Bool
  /-- Whether all files are texts. -/
  textOnly : Bool
  stripReturns : Bool
  followLinks : Bool
  excluded : List String
  /-- The name with which a comparison of directories begins. -/
  starting : Option String
  /-- What the command was called with. -/
  switches : String

/-- Whether nothing is written of files that are the same. -/
def Plan.isQuiet (p : Plan) : Bool :=
  match p.rules.form with
  | .columns => p.rules.changesOnly
  | .merged => p.rules.groups.same = some "" || (p.rules.groups.same.getD "%=" = "%=" && p.rules.lines.same = some "")
  | _ => true

/-- A name as it stands in a line about a file. -/
def Plan.shown (p : Plan) (i : Nat) (name : String) : String := (p.rules.labels[i]?).getD name

/-- Writes something. -/
abbrev tell (text : String) : Act Unit := Compare.tell text

/-- The first part of a file, in which zero bytes are looked for. -/
def sampled : Nat := 4096

/-- Says how the contents of two files differ; the exit code. -/
def tellFiles (p : Plan) (title a b : String) (x y : ByteArray) (times : Instant × Instant) : Act Nat := do
  let r := p.rules
  let isBinary (bytes : ByteArray) : Bool := (bytes.extract 0 sampled).data.contains 0
  let differ (binary : Bool) : Act Nat := do
    let names := "iles " ++ p.shown 0 a ++ " and " ++ p.shown 1 b ++ " differ\n"
    if p.brief || !binary then
      tell ("F" ++ names)
      return 1
    else
      tell ("Binary f" ++ names)
      return 2
  if !p.textOnly && (isBinary x || isBinary y) then
    if x.data == y.data then return 0 else differ true
  else
    let robust := !(r.form = .editor || r.form = .forward)
    let read (bytes : ByteArray) : Bool × Array String :=
      let cs := charsOf bytes
      let ended := cs.isEmpty || cs.getLast? = some '\n'
      let cs := if robust || ended then cs else cs ++ ['\n']
      let lines := linesOf cs
      (ended, if p.stripReturns then
          lines.map fun l => if l.endsWith "\r\n" then String.ofList (l.toList.take (l.length - 2)) ++ "\n" else l
        else lines)
    let (ended, old) := read x
    let (endedToo, new) := read y
    let pair : Pair := ⟨⟨a, old, times.1⟩, ⟨b, new, times.2⟩⟩
    let changes := r.changes pair
    let real := (changes.filter fun c => !r.isIdleHunk pair [c]).length
    let status ←
      if p.brief then (if real = 0 then pure 0 else differ false)
      else
        if real ≠ 0 || !p.isQuiet then
          let text := r.telling p.wide pair changes
          let header := if title = "" || text = "" then "" else title ++ " " ++ Rules.nameText a ++ " " ++ Rules.nameText b ++ "\n"
          tell (header ++ text)
        pure (if real = 0 then 0 else 1)
    let missing := if robust then [] else
      ([(ended, p.shown 0 a), (endedToo, p.shown 1 b)].filter fun f => !f.1).map (·.2)
    missing.forM fun name => say (name ++ ": No newline at end of file\n")
    return if missing.isEmpty then status else 2

/-- What is found under a name. -/
inductive Found where
  | missing
  | failed (e : IoError)
  | node (n : Node)

/-- Whether two nodes are one. -/
def sameNode (t : Tree) (a b : String) (x y : Node) : Bool :=
  match x, y with
  | .file n, .file m => n == m
  | .directory .., .directory .. =>
    match t.locate (pathOf a) true, t.locate (pathOf b) true with
    | .ok l, .ok m => l = m
    | _, _ => false
  | .device d _, .device e _ => d = e
  | .fifo n .., .fifo m .. => n == m
  | _, _ => false

/-- What is found under a name, or open as the standard input. -/
def findNamed (p : Plan) (name : String) : Act Found := do
  let t ← tree
  if name = "-" then
    let here ← now
    let standard : Option OpenFile ← look fun pid k => (k.opened? pid 0).map (·.2)
    match standard with
    | none => return .failed .badDescriptor
    | some f =>
      match f.channel with
      | .file n => return .node (.file n)
      | .directory l => return ((t.at? l).map Found.node).getD .missing
      | .device d => return .node (.device d here)
      | .pipe n => return .node (.fifo n 0 here)
  else
    match t.find (pathOf name) p.followLinks with
    | .ok node => return .node node
    | .error e => return .failed e

/-- Whether a node is a file or a link to something. -/
def isPlain (n : Node) : Bool := n.isFile || n.isLink

/-- The names in a directory that are compared, in their order. -/
def namesIn (p : Plan) (first : Bool) (node : Node) : List String :=
  let names := (node.entries.map fun e => ofBytes e.1).mergeSort fun x y => !textBefore y x
  names.filter fun n =>
    !(p.excluded.any fun pattern =>
      (Pattern.ofMarks .plain false (pattern.toList.map fun c => (c, false))).accepts false n.toList)
    && (!first || p.starting.all fun s => !textBefore n s)

/-- Says how two paths differ. `parents` are the directories in which they lie, unless they have been
given; a name can be in one of these only. -/
def tellPaths (p : Plan) (parents : Option (String × String)) : Nat → Option String → Option String → Act Nat
  | 0, _, _ => return 2
  | depth + 1, left, right => do
    let bare := (left.orElse fun _ => right).getD ""
    let directoryOf (i : Nat) : String := (parents.map fun d => if i = 0 then d.1 else d.2).getD ""
    let onlyIn (i : Nat) : Act Nat := do
      tell ("Only in " ++ directoryOf i ++ ": " ++ bare ++ "\n")
      return 1
    match left, right with
    | some _, none => if !p.newFiles then return ← onlyIn 0
    | none, some _ => if !(p.newFiles || p.newOnLeft) then return ← onlyIn 1
    | _, _ => pure ()
    let pathFor (i : Nat) (own other : Option String) : String :=
      let name := (own.orElse fun _ => other).getD ""
      if parents.isSome then pathIn (directoryOf i) name else name
    let a := pathFor 0 left right
    let b := pathFor 1 right left
    let find (own : Option String) (name : String) : Act Found :=
      if own.isSome then findNamed p name else return .missing
    let x ← find left a
    let y ← find right b
    let t ← tree
    let replaced (may : Bool) (x y : Found) : Found :=
      match x, y with
      | .node (.file n), _ =>
        let record := t.disk.record n
        if may && record.mode % 512 = 0 && record.data.isEmpty then .missing else x
      | .failed e, .node _ =>
        if may && parents.isNone && (e = .notFound || e = .badDescriptor) then .missing else x
      | _, _ => x
    let x' := replaced (p.newFiles || p.newOnLeft) x y
    let y := replaced p.newFiles y x
    let x := x'
    let failures := [(a, x), (b, y)].filterMap fun (name, f) =>
      match f with
      | .failed e => some (name, e)
      | _ => none
    if !failures.isEmpty then
      failures.forM fun (name, e) => say (name ++ ": " ++ e.plainMessage)
      return 2
    let isDirectory (f : Found) : Bool :=
      match f with
      | .node n => n.isDirectory
      | _ => false
    let nodeOf (f : Found) : Option Node :=
      match f with
      | .node n => some n
      | _ => none
    let kindOf (f : Found) : String := ((nodeOf f).map (kindText t.disk)).getD ""
    let compare (a b : String) (x y : Found) : Act Nat := do
      let same : Bool :=
        match x, y with
        | .node n, .node m => sameNode t a b n m || a = b
        | _, _ => false
      let report (status : Nat) : Act Nat := do
        if status = 0 && p.tellsSame && !isDirectory x && !isDirectory y then
          tell ("Files " ++ p.shown 0 a ++ " and " ++ p.shown 1 b ++ " are identical\n")
        return status
      match nodeOf x, nodeOf y with
      | none, none => return 0
      | x?, y? =>
        if same && p.isQuiet then report 0
        else if isDirectory x && isDirectory y || (isDirectory x && y?.isNone) || (isDirectory y && x?.isNone) then
          if parents.isSome && !p.recursive then
            if x?.isNone || y?.isNone then onlyIn (if x?.isNone then 1 else 0)
            else
              tell ("Common subdirectories: " ++ a ++ " and " ++ b ++ "\n")
              return 0
          else
            if p.rules.form = .merged then stop 2 "-D option not supported with directories"
            let closed := [(a, x?), (b, y?)].filter fun e => e.2.any fun n => !t.allows n 4
            closed.forM fun e => say (e.1 ++ ": " ++ IoError.denied.plainMessage)
            if !closed.isEmpty then return 2
            let first := parents.isNone
            let here := (x?.map (namesIn p first)).getD []
            let there := (y?.map (namesIn p first)).getD []
            let names := ((here ++ there).mergeSort fun x y => !textBefore y x).eraseReps
            names.foldlM (fun status n => do
              let own (l : List String) : Option String := if l.contains n then some n else none
              return max status (← tellPaths p (some (a, b)) depth (own here) (own there))) 0
        else
          let unlike : Bool :=
            isDirectory x || isDirectory y
              || (parents.isSome && !((x?.all isPlain) && (y?.all isPlain)))
          if unlike && x?.isSome && y?.isSome then
            tell ("File " ++ p.shown 0 a ++ " is a " ++ kindOf x ++ " while file " ++ p.shown 1 b ++ " is a "
              ++ kindOf y ++ "\n")
            return 1
          else if unlike then onlyIn (if x?.isNone then 1 else 0)
          else
            match x?, y? with
            | some (.link target _), some (.link targetToo _) =>
              if target.bytes = targetToo.bytes then report 0
              else
                tell ("Symbolic links " ++ a ++ " and " ++ b ++ " differ\n")
                return 1
            | x?, y? =>
              if x?.any (·.isLink) || y?.any (·.isLink) then
                tell ("File " ++ p.shown 0 a ++ " is a " ++ kindOf x ++ " while file " ++ p.shown 1 b ++ " is a "
                  ++ kindOf y ++ "\n")
                return 1
              else
                let here ← now
                let read (name : String) (node : Option Node) : Act (Option ByteArray) := do
                  if node.isNone then return some .empty
                  match ← contents name with
                  | .ok bytes => return some bytes
                  | .error e =>
                    say (name ++ ": " ++ e.plainMessage)
                    return none
                let old ← read a x?
                let new ← if a = "-" && b = "-" then pure old else read b y?
                let timeOf (name : String) (node : Option Node) : Instant :=
                  match node with
                  | none => ⟨0, 0⟩
                  | some node => if name = "-" then here else t.disk.modified node
                match old, new with
                | some old, some new =>
                  report (← tellFiles p (if parents.isSome then p.switches else "") a b old new
                    (timeOf a x?, timeOf b y?))
                | _, _ => return 2
    if parents.isNone && isDirectory x ≠ isDirectory y && (nodeOf x).isSome && (nodeOf y).isSome then
      let (file, directory) := if isDirectory x then (b, a) else (a, b)
      if file = "-" then stop 2 "cannot compare '-' to a directory"
      let inside := pathIn directory (lastName file)
      match ← findNamed p inside with
      | .failed e =>
        say (inside ++ ": " ++ e.plainMessage)
        return 2
      | f => if isDirectory x then compare inside b f y else compare a inside x f
    else compare a b x y

/-! ## Options -/

/-- The forms that options choose. -/
def formOf (name : String) : Option Form :=
  match name with
  | "normal" => some .plain
  | "c" => some .context
  | "C" => some .context
  | "context" => some .context
  | "u" => some .unified
  | "U" => some .unified
  | "unified" => some .unified
  | "e" => some .editor
  | "f" => some .forward
  | "n" => some .counted
  | "y" => some .columns
  | "D" => some .merged
  | _ => if name.endsWith "-format" then some .merged else none

/-- The number of lines that digits among options say. -/
def digitContext (options : List (String × String)) : Option Nat :=
  (options.foldl (fun (value, joined) (name, _) =>
    match name.toList with
    | [c] =>
      if c.isDigit then
        (some ((if joined then value.getD 0 * 10 else 0) + (c.toNat - 48)), true)
      else (value, false)
    | _ => (value, false)) ((none : Option Nat), false)).1

/-- The formats that lines of an option like `-D` have. -/
def definitionFormats (name : String) : Formats :=
  { same := some "%="
    old := some ("#ifndef " ++ name ++ "\n%<#endif /* ! " ++ name ++ " */\n")
    new := some ("#ifdef " ++ name ++ "\n%>#endif /* " ++ name ++ " */\n")
    changed := some ("#ifndef " ++ name ++ "\n%<#else /* " ++ name ++ " */\n%>#endif /* " ++ name ++ " */\n") }

/-- The options of the program. -/
def grammar : Grammar :=
  { letters := "0123456789abBcdeEfhHilnNpPqrstTuvwyZ", valued := "CDFILSUWxX", usage := 2, signed := true
    edition := "GNU diffutils) 3.8"
    words := [("binary", "binary"), ("brief", "q"), ("ed", "e"), ("expand-tabs", "t"), ("forward-ed", "f"),
      ("ignore-all-space", "w"), ("ignore-blank-lines", "B"), ("ignore-case", "i"),
      ("ignore-file-name-case", "file-case"), ("ignore-space-change", "b"), ("ignore-tab-expansion", "E"),
      ("ignore-trailing-space", "Z"), ("initial-tab", "T"), ("left-column", "left"), ("minimal", "d"),
      ("new-file", "N"), ("no-dereference", "links"), ("no-ignore-file-name-case", "no-file-case"),
      ("normal", "normal"), ("paginate", "l"), ("rcs", "n"), ("recursive", "r"),
      ("report-identical-files", "s"), ("show-c-function", "p"), ("side-by-side", "y"),
      ("speed-large-files", "H"), ("strip-trailing-cr", "strip"), ("suppress-blank-empty", "bare"),
      ("suppress-common-lines", "changes"), ("text", "a"), ("unidirectional-new-file", "P")]
    valuedWords := [("changed-group-format", "changed-group-format"), ("exclude", "x"), ("exclude-from", "X"),
      ("from-file", "from"), ("horizon-lines", "horizon"), ("ifdef", "D"), ("ignore-matching-lines", "I"),
      ("label", "L"), ("line-format", "line-format"), ("new-group-format", "new-group-format"),
      ("new-line-format", "new-line-format"), ("old-group-format", "old-group-format"),
      ("old-line-format", "old-line-format"), ("show-function-line", "F"), ("starting-file", "S"),
      ("tabsize", "tabs"), ("to-file", "to"), ("unchanged-group-format", "unchanged-group-format"),
      ("unchanged-line-format", "unchanged-line-format"), ("width", "W"), ("palette", "palette")]
    freeWords := [("color", "color"), ("context", "context"), ("unified", "unified")] }

/-- The rules that options say. -/
def rulesOf (g : Given) : Act Rules := do
  let session ← get
  let refuse {α : Type} (why : String) : Act α := do
    say why
    giveSignedHint 2
  let number (what text : String) (least : Nat) : Act Nat := do
    match (decimal? text).filter (least ≤ ·) with
    | some n => return n
    | none => refuse ("invalid " ++ what ++ " '" ++ text ++ "'")
  let form ← g.options.foldlM (fun (form : Option Form) (name, _) => do
    match formOf name, form with
    | some f, some former => if f = former then return form else refuse "conflicting output style options"
    | some f, none => return some f
    | none, _ => return form) none
  let form := form.getD (if g.has "p" then .context else .plain)
  let stated ← (g.options.filter fun o => ["C", "U", "context", "unified"].contains o.1).foldlM
    (fun (n : Option Nat) o => do
      let m ← if o.2 = "" && o.1.length ≠ 1 then pure 3 else number "context length" o.2 0
      return some (max m (n.getD 0))) none
  let usual := if g.hasAny "cu" || (g.has "p" && form = .context && stated.isNone) then some 3 else none
  let context : Option Nat :=
    match stated, usual with
    | some n, some m => some (max n m)
    | n, m => n.orElse fun _ => m
  let context :=
    match digitContext g.options with
    | some n =>
      if context.all (· < n) || stated.isNone then some n else context
    | none => context
  let context := if form = .context || form = .unified then context.getD 0 else 0
  let widths ← (g.values "W").mapM (number "width" · 1)
  if 1 < widths.eraseDups.length then stop 2 "conflicting width options"
  let tabs ← (g.values "tabs").mapM (number "tabsize" · 1)
  if 1 < tabs.eraseDups.length then stop 2 "conflicting tabsize options"
  let horizons ← (g.values "horizon").mapM (number "horizon length" · 0)
  let labels := g.values "L"
  if 2 < labels.length then stop 2 "too many file label options"
  let coloured ←
    match g.value? "color" with
    | none => pure false
    | some "" => pure false
    | some when_ =>
      if when_ = "always" then pure true
      else if when_ = "never" || when_ = "auto" then pure false
      else refuse ("invalid color '" ++ when_ ++ "'")
  let expression (text : String) : Act Regex := do
    match Regex.parse .basicSearch (Letters.decode false text.toList) with
    | .ok e => return e
    | .error why => stop 2 (text ++ ": " ++ why)
  let skipped ← (g.values "I").mapM expression
  let headings ← (g.values "F").mapM expression
  let functions ← if g.has "p" then (do return [← expression "^[[:alpha:]$_]"]) else pure []
  let blanks := g.options.foldl (fun n (name, _) =>
    if name = "w" then 5
    else if 4 ≤ n then n
    else if name = "b" then 4
    else if name = "Z" then n ||| 2
    else if name = "E" then n ||| 1
    else n) 0
  let base : Formats := ((g.value? "D").map definitionFormats).getD {}
  let groups : Formats :=
    { old := (g.value? "old-group-format").orElse fun _ => base.old
      new := (g.value? "new-group-format").orElse fun _ => base.new
      same := (g.value? "unchanged-group-format").orElse fun _ => base.same
      changed := (g.value? "changed-group-format").orElse fun _ => base.changed }
  let all := g.value? "line-format"
  let lines : Formats :=
    { old := (g.value? "old-line-format").orElse fun _ => all
      new := (g.value? "new-line-format").orElse fun _ => all
      same := (g.value? "unchanged-line-format").orElse fun _ => all }
  return {
    form, skipped, context, coloured, groups, lines, labels
    fold := g.has "i", blanks
    skipEmpty := g.has "B", headings := headings ++ functions, thorough := g.has "d"
    horizon := max context (horizons.foldl max 0)
    tabSize := tabs.headD 8, expandTabs := g.has "t", initialTab := g.has "T", bareEmpty := g.has "bare"
    width := widths.headD 130, leftOnly := g.has "left", changesOnly := g.has "changes"
    zone := session.zone
    times := if form = .context && !session.isWide then "%a %b %e %T %Y" else "%Y-%m-%d %H:%M:%S.%N %z" }

/-- The patterns in a file, one to a line. -/
def patternsIn (name : String) : Act (List String) := do
  match ← contents name with
  | .ok bytes => return (linesBy '\n' (charsOf bytes)).map String.ofList |>.filter (· ≠ "")
  | .error e => stop 2 (name ++ ": " ++ e.plainMessage)

/-- Says how files differ. -/
def diff : Act Nat := do
  let session ← get
  let g ← given grammar
  let refuse {α : Type} (why : String) : Act α := do
    say why
    giveSignedHint 2
  if g.has "v" then
    out (session.title ++ " (GNU diffutils) 3.8\n")
    gone 0
  let rules ← rulesOf g
  let more ← (g.values "X").mapM patternsIn
  let operands := g.operands
  let switches := session.arguments.foldl (fun (taken, left) a =>
    match left with
    | o :: rest => if o = a then (taken, rest) else (taken ++ [a], left)
    | [] => (taken ++ [a], [])) (([] : List String), operands)
  let plan : Plan :=
    { rules, wide := session.isWide, brief := g.has "q", tellsSame := g.has "s", recursive := g.has "r"
      newFiles := g.has "N", newOnLeft := g.has "P", textOnly := g.has "a", stripReturns := g.has "strip"
      followLinks := !g.has "links", excluded := g.values "x" ++ more.flatten, starting := g.value? "S"
      switches := " ".intercalate ("diff" :: switches.1.map named) }
  let each (pairs : List (String × String)) : Act Nat :=
    pairs.foldlM (fun status (a, b) => do
      return max status (← tellPaths plan none depthLimit (some a) (some b))) 0
  match g.value? "from", g.value? "to" with
  | some _, some _ => stop 2 "--from-file and --to-file both specified"
  | some a, none => each (operands.map fun b => (a, b))
  | none, some b => each (operands.map fun a => (a, b))
  | none, none =>
    match operands with
    | [a, b] => each [(a, b)]
    | _ :: _ :: c :: _ => refuse ("extra operand '" ++ c ++ "'")
    | _ =>
      let arguments := switches.1 ++ operands
      refuse ("missing operand after '" ++ (arguments.getLastD session.title) ++ "'")

end CrossBench.Tool.Difference
