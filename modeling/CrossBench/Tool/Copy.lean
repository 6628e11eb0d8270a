import CrossBench.Tool.Make

/-!
# Copying, moving and linking files

The programs that give files other places or more names. Each takes a source and a target, or several
sources and a directory into which they go.
-/

namespace CrossBench.Tool

open Shell Shell.Act

/-- The front of a path up to its last slash. -/
def wayOf (s : String) : String := String.ofList ((s.toList.reverse.dropWhile (· != '/')).reverse)

/-- Whether paths lead to one place. -/
def isOnePlace (t : Tree) (follow : Bool) (a b : String) : Bool :=
  match t.locate (pathOf a) follow, t.locate (pathOf b) follow with
  | .ok x, .ok y => x == y
  | _, _ => false

/-- Whether paths lead to one place, or to one regular file. -/
def isSame (t : Tree) (follow : Bool) (a b : String) : Bool :=
  match t.locate (pathOf a) follow, t.locate (pathOf b) follow with
  | .ok x, .ok y =>
    x == y ||
      match t.at? x, t.at? y with
      | some n, some m => Tree.sameFile n m
      | _, _ => false
  | _, _ => false

/-- The sources of a call with the targets for them. -/
def targetsOf (g : Given) (directory : Option String) (operandName : String) :
    Act (List (String × String)) := do
  let into (d : String) (sources : List String) : List (String × String) :=
    sources.map fun s => (s, pathIn d (lastName s))
  let t ← tree
  match directory, g.operands with
  | some d, sources =>
    if sources.isEmpty then misuse 1 ("missing " ++ operandName)
    else
      match t.find (pathOf d) true with
      | .ok node =>
        if node.isDirectory then return into d sources
        else stop 1 ("target directory " ++ quoted d ++ ": " ++ IoError.notDirectory.plainMessage)
      | .error e => stop 1 ("target directory " ++ quoted d ++ ": " ++ e.plainMessage)
  | none, [] => misuse 1 ("missing " ++ operandName)
  | none, [a] => misuse 1 ("missing destination " ++ operandName ++ " after " ++ quoted a)
  | none, sources =>
    let last := sources.getLastD ""
    if g.has "T" then
      match sources with
      | [a, b] => return [(a, b)]
      | _ => misuse 1 ("extra operand " ++ quoted (sources.getD 2 ""))
    else if t.isDirectory (pathOf last) then return into last sources.dropLast
    else
      match sources with
      | [a, b] => return [(a, b)]
      | _ =>
        let e : IoError :=
          match t.find (pathOf last) true with
          | .ok _ => .notDirectory
          | .error e => e
        stop 1 ("target " ++ quoted last ++ ": " ++ e.plainMessage)

/-- How names for what is kept of a file that makes room are made. -/
inductive BackupKind where
  | none
  | simple
  | numbered
  /-- Numbered if there are such names already. -/
  | existing

/-- What the ways to name backups are called. -/
def backupWords : List String := ["none|off", "simple|never", "existing|nil", "numbered|t"]

/-- How a call of a program names what it keeps. -/
def backupKind (g : Given) : Act BackupKind := do
  if !g.hasAny "bS" then return .none
  else
    let named := ((g.values "b").filter (· ≠ "")).getLast?
    let usual := (← parameter? "VERSION_CONTROL").filter (· ≠ "")
    let word ←
      match named, usual with
      | some v, _ => wordGiven "backup type" v backupWords
      | .none, some v => wordGiven "$VERSION_CONTROL" v backupWords
      | .none, .none => pure "existing"
    return if ["none", "off"].contains word then .none
      else if ["simple", "never"].contains word then .simple
      else if ["numbered", "t"].contains word then .numbered
      else .existing

/-- The greatest number of a numbered backup of a file. -/
def lastBackup (t : Tree) (target : String) : Nat :=
  let front := lastName target ++ ".~"
  let way := wayOf target
  match t.find (pathOf (if way = "" then "." else way)) true with
  | .ok (.directory es _ _) =>
    (es.map fun e =>
      let name := ofBytes e.1
      if name.startsWith front && name.endsWith "~" then
        (decimal? ((name.drop front.length).toString.dropEnd 1).toString).getD 0
      else 0).foldl max 0
  | _ => 0

/-- The name under which what is at a path is to be kept. -/
def backupName (g : Given) (kind : BackupKind) (target : String) : Act (Option String) := do
  let ending := (g.value? "S").orElse fun _ => .none
  let usual := ((← parameter? "SIMPLE_BACKUP_SUFFIX").filter (· ≠ "")).getD "~"
  let simple := target ++ ending.getD usual
  let last := lastBackup (← tree) target
  let numbered := target ++ ".~" ++ toString (last + 1) ++ "~"
  return match kind with
    | .none => .none
    | .simple => some simple
    | .numbered => some numbered
    | .existing => some (if last = 0 then simple else numbered)

/-- Keeps what is at a path under another name, and says under which, unless nothing is there or
nothing is to be kept. -/
def keepBackup (g : Given) (target : String) : Act (Option String) := do
  match ← backupName g (← backupKind g) target with
  | none => return none
  | some name =>
    match ← Act.edit fun t present => t.rename present (pathOf target) (pathOf name) with
    | .ok () => return some name
    | .error _ => return none

/-- What is said of a backup behind what is said of a file. -/
def backupNote (kept : Option String) : String := kept.elim "" fun name => " (backup: " ++ quoted name ++ ")"

/-- Whether what is at the target is left there. -/
def isKept (g : Given) (source target : String) : Act Bool := do
  let t ← tree
  match t.find (pathOf target) true with
  | .error _ => return false
  | .ok old =>
    let mode := g.last? "fin"
    if mode = some 'n' then return true
    else if old.isDirectory then return false
    else if g.has "u" &&
        !((t.modified? (pathOf source)).getD default).later (t.disk.modified old) then return true
    else if mode = some 'i' then return !(← agreed ("overwrite " ++ quoted target))
    else return false

/-! ## Copying -/

/-- How files are copied. -/
structure Copying where
  given : Given
  recursive : Bool
  /-- Whether links are followed on the command line, and below directories. -/
  followsFirst : Bool
  followsAll : Bool
  keepsMode : Bool
  /-- Whether new files get the permission bits that files get which nothing is known of. -/
  plainMode : Bool
  keepsTime : Bool
  keepsLinks : Bool

/-- What has been copied. -/
structure Copied where
  ok : Bool
  /-- Regular files by number, with one of their new names. -/
  links : List (Nat × String)
  /-- The targets of the call that have been made, with their sources. -/
  made : List (String × String)
  /-- The source and the target of the call under way, and where the target is. -/
  top : String × String
  place : Option Location

namespace Copied

/-- A copy that has failed. -/
def failed (c : Copied) : Copied := { c with ok := false }

/-- A copy that has failed if something has gone wrong. -/
def noting (c : Copied) (ok : Bool) : Copied := { c with ok := c.ok && ok }

end Copied

/-- Gives a copy what it is to keep of its source. -/
def keepProperties (o : Copying) (mode : Option Nat) (modified : Instant) (target : String) : Act Unit := do
  let _ ← Act.edit fun t _ =>
    match mode with
    | some m => t.setMode (fun _ => m) (pathOf target)
    | none => .ok t
  if o.keepsTime then
    let _ ← Act.edit fun t _ => t.setModifiedOf false modified (pathOf target)

/-- Whether the permission for something is missing. -/
def isRefused (result : Except IoError Unit) : Bool :=
  match result with
  | .error e => e = .denied
  | .ok () => false

/-- Copies the bytes of a file. -/
def copyBytes (o : Copying) (source target : String) (mode : Nat) : Act Bool := do
  let input ← freeFrom firstFile
  match ← openAt input (pathOf source) .reading 0 with
  | .error e =>
    say ("cannot open " ++ quoted source ++ " for reading: " ++ e.plainMessage)
    return false
  | .ok () =>
    let output ← freeFrom firstFile
    let access : Access := if o.given.has "attributes-only" then .appending else .writing
    let first ← openAt output (pathOf target) access mode
    let result ←
      if isRefused first && o.given.has "f" then
        match ← Act.edit fun t present => t.removeFile present (pathOf target) with
        | .ok () => openAt output (pathOf target) access mode
        | .error _ => pure first
      else pure first
    match result with
    | .error e =>
      let e := if target.endsWith "/" && (e = .notFound || e = .isDirectory) then .notDirectory else e
      say ("cannot create regular file " ++ quoted target ++ ": " ++ e.plainMessage)
      close input
      return false
    | .ok () =>
      let ok ←
        if o.given.has "attributes-only" then pure true
        else
          repeating () fun _ => do
            match ← readSome input blockSize with
            | .error e =>
              say ("error reading " ++ quoted source ++ ": " ++ e.plainMessage)
              return .inr false
            | .ok bytes =>
              if bytes.isEmpty then return .inr true
              else
                match ← Act.write output bytes with
                | .ok () => return .inl ()
                | .error e =>
                  say ("error writing " ++ quoted target ++ ": " ++ e.plainMessage)
                  return .inr false
      close input
      close output
      return ok

/-- Copies a file with everything below it. -/
def copyNode (o : Copying) : Nat → Bool → String → String → Copied → Act Copied
  | 0, _, _, _, c => return c.failed
  | depth + 1, first, source, target, c => do
    let g := o.given
    let t ← tree
    let follow := o.followsAll || (first && o.followsFirst)
    match t.find (pathOf source) follow with
    | .error e =>
      say ("cannot stat " ++ quoted source ++ ": " ++ e.plainMessage)
      return c.failed
    | .ok node =>
      if node.isDirectory && !o.recursive then
        say ("-r not specified; omitting directory " ++ quoted source)
        return c.failed
      else if first && c.made.any (fun m => m.2 = target && m.1 = source) then
        say ("warning: source " ++ (if node.isDirectory then "directory " else "file ")
          ++ quoted source ++ " specified more than once")
        return c
      else if first && !node.isDirectory && c.made.any (fun m => m.2 = target) then
        say ("will not overwrite just-created " ++ quoted target ++ " with " ++ quoted source)
        return c.failed
      else
        let c := if first then { c with made := (source, target) :: c.made } else c
        let found := t.find (pathOf target) true
        let old := found.toOption
        let oldLink := (t.find (pathOf target) false).toOption
        let unknown : Option IoError :=
          match found with
          | .error e => if e = .notFound || e = .linkLoop then none else some e
          | .ok _ => none
        if let some e := unknown then
          say ("cannot stat " ++ quoted target ++ ": " ++ e.plainMessage)
          return c.failed
        if isSame t follow source target && !g.has "remove-destination" then
          if o.keepsLinks && !isOnePlace t follow source target then
            return c
          else
            say (quoted source ++ " and " ++ quoted target ++ " are the same file")
            return c.failed
        else if ← isKept g source target then return c
        else
          match node, old, oldLink with
          | .directory es mode modified, old, oldLink =>
            if old.any (!Node.isDirectory ·) || (old.isNone && oldLink.isSome) then
              say ("cannot overwrite non-directory " ++ quoted target ++ " with directory "
                ++ quoted source)
              return c.failed
            else if first = false && c.place.isSome
                && (t.locate (pathOf source) true).toOption == c.place then
              say ("cannot copy a directory, " ++ quoted c.top.1 ++ ", into itself, "
                ++ quoted c.top.2)
              return c.failed
            else
              let made ←
                if old.isSome then pure true
                else
                  change ("cannot create directory " ++ quoted target) fun t present =>
                    t.create present (pathOf target).trimSlashes
                      (.directory [] (t.masked mode ||| 0o700) present)
              if !made then return c.failed
              else
                if g.has "v" && old.isNone then out (quoted source ++ " -> " ++ quoted target ++ "\n")
                let t ← tree
                let c := if first then { c with place := (t.locate (pathOf target) true).toOption } else c
                let es :=
                  match t.find (pathOf source) true with
                  | .ok (.directory es _ _) => es
                  | _ => es
                let c ←
                  if t.allows node 4 then
                    es.foldlM (fun c e =>
                      let name := ofBytes e.1
                      copyNode o depth false (pathIn source name) (pathIn target name) c) c
                  else do
                    say ("cannot access " ++ quoted source ++ ": " ++ IoError.denied.plainMessage)
                    pure c.failed
                let mode :=
                  if o.keepsMode then some mode
                  else if old.isSome then none
                  else some (t.masked (if o.plainMode then 0o777 else mode))
                keepProperties o mode modified target
                return c
          | node, old, oldLink =>
            if old.any Node.isDirectory then
              say ("cannot overwrite directory " ++ quoted target ++ " with non-directory")
              return c.failed
            else
              let kept ← keepBackup g target
              let (old, oldLink) := if kept.isSome then (none, none) else (old, oldLink)
              let earlier : Option String :=
                match node with
                | .file n => if o.keepsLinks then (c.links.find? fun l => l.1 = n).map (·.2) else none
                | _ => none
              let replaced := oldLink.isSome && (g.has "remove-destination" ||
                ((g.has "l" || g.has "s") && g.has "f") || (!follow && !node.isFile) ||
                (o.keepsLinks && oldLink.any fun n => 1 < t.disk.linkCount n))
              if replaced then
                let told := g.has "v" && !g.hasAny "ls"
                let removed ← Act.edit fun t present => t.removeFile present (pathOf target)
                if told && removed.isOk then out ("removed " ++ quoted target ++ "\n")
              let modified := t.disk.modified node
              let isThere := oldLink.isSome && !replaced
              if g.has "v" then
                out (quoted source ++ " -> " ++ quoted target ++ backupNote kept ++ "\n")
              if g.has "s" then
                if source.startsWith "/" || !target.toList.contains '/' then
                  let ok ← change ("cannot create symbolic link " ++ quoted target ++ " to "
                    ++ quoted source) fun t present => t.makeLink present (pathOf source) (pathOf target)
                  return c.noting ok
                else
                  say (named target ++ ": can make relative symbolic links only in current directory")
                  return c.failed
              else if g.has "l" then
                let ok ← change ("cannot create hard link " ++ quoted target ++ " to "
                  ++ quoted source) fun t present =>
                    t.makeName present follow (pathOf source) (pathOf target)
                return c.noting ok
              else
                match node, earlier with
                | .file _, some name =>
                  let ok ← change ("cannot create hard link " ++ quoted target ++ " to "
                    ++ quoted name) fun t present => do
                      let t ← if (t.find (pathOf target) false).isOk then t.removeFile present (pathOf target) else pure t
                      t.makeName present false (pathOf name) (pathOf target)
                  return c.noting ok
                | .link aim _, _ =>
                  let ok ← change ("cannot create symbolic link " ++ quoted target) fun t present =>
                    t.makeLink present aim (pathOf target)
                  if ok then keepProperties o none modified target
                  return c.noting ok
                | node, _ =>
                  let mode := t.disk.mode node
                  let bits :=
                    if o.keepsMode then some mode
                    else if o.plainMode && !isThere then some (t.masked 0o666)
                    else none
                  match o.recursive && !g.has "copy-contents", node with
                  | true, .fifo .. =>
                    let ok ← change ("cannot create fifo " ++ quoted target) fun t present =>
                      let number := t.disk.files.size
                      let t := (t.newRecord ⟨.empty, mode, present⟩).2
                      t.create present (pathOf target) (.fifo number (t.masked mode) present)
                    if ok then keepProperties o bits modified target
                    return c.noting ok
                  | _, _ =>
                    if old.isNone && isThere then
                      say ("not writing through dangling symlink " ++ quoted target)
                      return c.failed
                    else
                      let ok ← copyBytes o source target (mode &&& 0o777)
                      if ok then keepProperties o bits modified target
                      let links :=
                        match node with
                        | .file n => (n, target) :: c.links
                        | _ => c.links
                      return { c with ok := c.ok && ok, links }

/-- The words and letters of the programs that copy and move. -/
def copyGrammar : Grammar where
  letters := "abdfHilLnPprRsTuvxZ"
  valued := "St"
  words :=
    [("archive", "a"), ("force", "f"), ("interactive", "i"), ("link", "l"), ("dereference", "L"),
      ("no-clobber", "n"), ("no-dereference", "P"), ("recursive", "R"),
      ("symbolic-link", "s"), ("no-target-directory", "T"), ("verbose", "v"),
      ("one-file-system", "x"), ("parents", "parents"), ("attributes-only", "attributes-only"),
      ("remove-destination", "remove-destination"),
      ("strip-trailing-slashes", "strip-trailing-slashes"), ("copy-contents", "copy-contents")]
  valuedWords := [("suffix", "S"), ("target-directory", "t"), ("no-preserve", "no-preserve"), ("sparse", "sparse")]
  freeWords := [("backup", "b"), ("preserve", "preserve"), ("update", "u"), ("reflink", "reflink"),
    ("context", "Z")]

/-- What can be kept of a file that is copied. -/
def keptWords : List String :=
  ["mode", "timestamps", "ownership", "links", "context", "xattr", "all"]

/-- Which properties of files are kept in copies. -/
structure Keeping where
  mode : Bool := false
  /-- Whether it has been said that permission bits are not to be kept. -/
  plainMode : Bool := false
  time : Bool := false
  links : Bool := false

namespace Keeping

/-- A property is kept, or not kept, from now on. -/
def setting (kept : Bool) (k : Keeping) (word : String) : Keeping :=
  match word with
  | "mode" => { k with mode := kept, plainMode := !kept }
  | "timestamps" => { k with time := kept }
  | "links" => { k with links := kept }
  | "all" => { k with mode := kept, plainMode := !kept, time := kept, links := kept }
  | _ => k

/-- What an option says of the properties that are kept. -/
def after (k : Keeping) : String × String → Act Keeping
  | ("p", _) => return { k with mode := true, time := true }
  | ("a", _) => return { k with mode := true, time := true, links := true }
  | ("d", _) => return { k with links := true }
  | ("preserve", "") => return { k with mode := true, time := true }
  | ("preserve", v) => do
    return (← (v.splitOn ",").mapM (wordGiven "--preserve" · keptWords)).foldl (setting true) k
  | ("no-preserve", v) => do
    return (← (v.splitOn ",").mapM (wordGiven "--no-preserve" · keptWords)).foldl (setting false) k
  | _ => return k

end Keeping

/-- The directories that are missing on the way to a source below a target, with their sources. -/
def missingWays (t : Tree) (target source : String) : List (String × String) :=
  let parts := ((wayOf source).splitOn "/").filter (· ≠ "")
  let front := if source.startsWith "/" then "/" else ""
  ((List.range parts.length).map fun i =>
    let way := front ++ "/".intercalate (parts.take (i + 1))
    (way, pathIn target way)).filter fun p => !t.isDirectory (pathOf p.2)

/-- Copies files. -/
def cp : Act Nat := do
  let g ← given copyGrammar
  let recursive := g.hasAny "rRa"
  let keeping ← g.options.foldlM Keeping.after {}
  for v in g.values "reflink" do
    if v ≠ "" then
      let _ ← wordGiven "--reflink" v ["auto", "always", "never"]
  for v in g.values "sparse" do
    let _ ← wordGiven "--sparse" v ["never", "auto", "always"]
  if g.has "l" && g.has "s" then misuse 1 "cannot make both hard and symbolic links"
  if g.hasAny "bS" && g.last? "fin" == some 'n' then
    misuse 1 "options --backup and --no-clobber are mutually exclusive"
  let _ ← backupKind g
  let way := g.last? "HLPad"
  let o : Copying :=
    { given := g
      recursive
      followsFirst := way == some 'H'
      followsAll := way == some 'L' || (way.isNone && (!recursive || g.has "l"))
      keepsMode := keeping.mode
      plainMode := keeping.plainMode
      keepsTime := keeping.time
      keepsLinks := keeping.links }
  let strip (s : String) : String :=
    if g.has "strip-trailing-slashes" then ofBytes (pathOf s).trimSlashes.bytes else s
  let pairs ←
    if g.has "parents" then do
      let d := (g.value? "t").getD (g.operands.getLastD "")
      let sources := if g.has "t" then g.operands else g.operands.dropLast
      if sources.isEmpty then misuse 1 "missing file operand"
      if !(← tree).isDirectory (pathOf d) then
        misuse 1 "with --parents, the destination must be a directory"
      sources.mapM fun s => do
        if g.has "v" then
          for (way, made) in missingWays (← tree) d s do out (way ++ " -> " ++ made ++ "\n")
        let _ ← Act.edit fun t present => t.makeDirectories present (pathOf (pathIn d (wayOf s)))
        pure (s, pathIn d s)
    else targetsOf g (g.value? "t") "file operand"
  let start : Copied := ⟨true, [], [], ("", ""), none⟩
  let pairs := pairs.map fun (source, target) => (strip source, target)
  let (o, pairs) ←
    match pairs with
    | [(source, target)] =>
      if source = target && g.has "f" && g.hasAny "bS" then
        let kept ← backupName g (← backupKind g) target
        let given := { g with options := g.options.filter fun p => p.1 ≠ "b" && p.1 ≠ "S" }
        pure ({ o with given }, [(source, kept.getD target)])
      else pure (o, pairs)
    | _ => pure (o, pairs)
  let done ← pairs.foldlM (fun c (source, target) =>
    copyNode o depthLimit true source target { c with top := (source, target), place := none }) start
  return if done.ok then 0 else 1

/-! ## Moving -/

/-- Moves a file; whether that went well. -/
def moveFile (g : Given) (source target : String) : Act Bool := do
  let t ← tree
  match t.find (pathOf source) false with
  | .error e =>
    say ("cannot stat " ++ quoted source ++ ": " ++ e.plainMessage)
    return false
  | .ok node =>
    let old := (t.find (pathOf target) false).toOption
    let there := (t.locate (pathOf source).trimSlashes false).toOption
    let same := there == (t.locate (pathOf target).trimSlashes false).toOption && there.isSome
    if same then
      say (quoted source ++ " and " ++ quoted target ++ " are the same file")
      return false
    else if old.isNone && target.endsWith "/" && (t.find (pathOf target).trimSlashes false).isOk then
      say ("cannot stat " ++ quoted target ++ ": " ++ IoError.notDirectory.plainMessage)
      return false
    else if ← isKept g source target then return true
    else
      match node.isDirectory, old.map Node.isDirectory with
      | true, some false =>
        say ("cannot overwrite non-directory " ++ quoted target ++ " with directory " ++ quoted source)
        return false
      | false, some true =>
        say ("cannot overwrite directory " ++ quoted target ++ " with non-directory")
        return false
      | _, _ =>
        let kept ← keepBackup g target
        let linked :=
          match old with
          | some m => Tree.sameFile node m
          | none => false
        let moved ← Act.edit fun t present =>
          if linked && kept.isNone then t.removeFile present (pathOf source)
          else if target.endsWith "/" && !node.isDirectory then
            .error .notDirectory
          else t.rename present (pathOf source) (pathOf target)
        match moved with
        | .ok () =>
          if g.has "v" then
            out ("renamed " ++ quoted source ++ " -> " ++ quoted target ++ backupNote kept ++ "\n")
          return true
        | .error e =>
          if e = .invalid then
            say ("cannot move " ++ quoted source ++ " to a subdirectory of itself, " ++ quoted target)
          else say ("cannot move " ++ quoted source ++ " to " ++ quoted target ++ ": " ++ e.plainMessage)
          return false

/-- Moves files. -/
def mv : Act Nat := do
  let g ← given
    { letters := "bfinTuvZ", valued := "St"
      words := [("force", "f"), ("interactive", "i"), ("no-clobber", "n"),
        ("no-target-directory", "T"), ("verbose", "v"), ("context", "Z"),
        ("strip-trailing-slashes", "strip-trailing-slashes")]
      valuedWords := [("suffix", "S"), ("target-directory", "t")]
      freeWords := [("backup", "b"), ("update", "u")] }
  if g.hasAny "bS" && g.last? "fin" == some 'n' then
    misuse 1 "options --backup and --no-clobber are mutually exclusive"
  let _ ← backupKind g
  let pairs ← targetsOf g (g.value? "t") "file operand"
  pairs.foldlM (fun status (source, target) => do
    return if ← moveFile g source target then status else 1) 0

/-! ## Linking -/

/-- A path from the directory of another one. -/
def relativePath (t : Tree) (source target : String) : String :=
  let place (s : String) : List String :=
    match t.locate (pathOf s) true with
    | .ok l => l.map ofBytes
    | .error _ =>
      let parts := (s.splitOn "/").filter fun p => p ≠ "" && p ≠ "."
      if s.startsWith "/" then parts else t.workdir.map ofBytes ++ parts
  let start := place (if wayOf target = "" then "." else wayOf target)
  let goal := place source
  let common := ((start.zip goal).takeWhile fun p => p.1 = p.2).length
  let steps := List.replicate (start.length - common) ".." ++ goal.drop common
  if steps.isEmpty then "." else "/".intercalate steps

/-- Makes a link; whether that went well. -/
def makeOneLink (g : Given) (source target : String) : Act Bool := do
  let t ← tree
  let symbolic := g.has "s"
  let kind := if symbolic then "symbolic link " else "hard link "
  let sourceNode := t.find (pathOf source) (g.has "L")
  match symbolic, sourceNode with
  | false, .error e =>
    say ("failed to access " ++ quoted source ++ ": " ++ e.plainMessage)
    return false
  | false, .ok (.directory ..) =>
    say (named source ++ ": hard link not allowed for directory")
    return false
  | _, _ =>
    let old := (t.find (pathOf target) false).toOption
    let replaces := g.hasAny "fibS"
    if replaces && old.isSome && isSame t (!symbolic) source target
        && !(old.any Node.isLink && !symbolic) then
      if symbolic && old.any Node.isLink && !isOnePlace t false source target then
        replaceAndMake t old kind
      else
        say (quoted source ++ " and " ++ quoted target ++ " are the same file")
        return false
    else replaceAndMake t old kind
where
  /-- Makes the link, in place of what is there if that is allowed. -/
  replaceAndMake (t : Tree) (old : Option Node) (kind : String) : Act Bool := do
    let directory := old.any Node.isDirectory
    if directory && g.hasAny "fibS" then
      say (named target ++ ": cannot overwrite directory")
      return false
    else
      let removed ←
        if old.isNone then pure true
        else if g.last? "fi" == some 'i' then agreed ("replace " ++ quoted target)
        else pure (g.hasAny "fbS")
      if !removed && g.last? "fi" == some 'i' then return true
      else
        let kept ← if removed && old.isSome then keepBackup g target else pure none
        if removed && old.isSome then
          let _ ← Act.edit fun t present => t.removeFile present (pathOf target)
        let aim := if g.has "r" && g.has "s" then relativePath t source target else source
        let names := if g.has "s" then quoted target else quoted target ++
          (if old.isNone then " => " ++ quoted source else "")
        let ok ← change ("failed to create " ++ kind ++ names) fun t present =>
          if g.has "s" then t.makeLink present (pathOf aim) (pathOf target)
          else t.makeName present (g.has "L") (pathOf source) (pathOf target)
        if ok && g.has "v" then
          out (kept.elim "" (fun name => quoted name ++ " ~ ") ++ quoted target ++ (if g.has "s" then " -> " else " => ") ++ quoted aim ++ "\n")
        return ok

/-- Makes links. -/
def ln : Act Nat := do
  let g ← given
    { letters := "bdFfiLnPrsTv", valued := "St"
      words := [("directory", "d"), ("force", "f"), ("interactive", "i"), ("logical", "L"),
        ("no-dereference", "n"), ("physical", "P"), ("relative", "r"), ("symbolic", "s"),
        ("no-target-directory", "T"), ("verbose", "v")]
      valuedWords := [("suffix", "S"), ("target-directory", "t")]
      freeWords := [("backup", "b")] }
  let _ ← backupKind g
  if g.has "r" && !g.has "s" then stop 1 "cannot do --relative without --symbolic"
  let t ← tree
  let last := g.operands.getLastD ""
  let lastIsLink := (t.find (pathOf last) false).toOption.any Node.isLink
  let pairs ←
    match g.value? "t", g.operands with
    | none, [a] => pure [(a, "./" ++ lastName a)]
    | none, [a, b] => if g.has "n" && lastIsLink then pure [(a, b)] else targetsOf g none "file operand"
    | d, _ => targetsOf g d "file operand"
  pairs.foldlM (fun status (source, target) => do
    return if ← makeOneLink g source target then status else 1) 0

/-- Gives a file one more name. -/
def link : Act Nat := do
  let g ← given {}
  match g.operands with
  | [] => misuse 1 "missing operand"
  | [a] => misuse 1 ("missing operand after " ++ cited a)
  | [a, b] =>
    let ok ← change ("cannot create link " ++ quoted b ++ " to " ++ quoted a) fun t present =>
      t.makeName present false (pathOf a) (pathOf b)
    return if ok then 0 else 1
  | _ :: _ :: c :: _ => misuse 1 ("extra operand " ++ cited c)

/-! ## Installing -/

/-- Copies files to where they are used, with the permission bits of programs. -/
def install : Act Nat := do
  let g ← given
    { letters := "bcCdDpsTvZ", valued := "gmotS"
      words := [("directory", "d"), ("preserve-timestamps", "p"), ("strip", "s"),
        ("no-target-directory", "T"), ("verbose", "v"), ("compare", "C")]
      valuedWords := [("group", "g"), ("mode", "m"), ("owner", "o"), ("target-directory", "t"),
        ("suffix", "S")]
      freeWords := [("backup", "b")] }
  let _ ← backupKind g
  if g.has "C" && g.has "s" then misuse 1 "options --compare (-C) and --strip are mutually exclusive"
  match (g.value? "o").map fun u => (u, ownersOf u) with
  | some (u, .error _) => stop 1 ("invalid user " ++ quoted u)
  | _ => pure ()
  match (g.value? "g").map fun u => (u, ownersOf (":" ++ u)) with
  | some (u, .error _) => stop 1 ("invalid group " ++ quoted u)
  | _ => pure ()
  let told := if g.has "v" then some "creating" else none
  let changes ← (g.value? "m").mapM (modeOf fun m => "invalid mode " ++ m)
  let mode (directory : Bool) : Nat :=
    match changes with
    | some c => Permission.applyAll c 0 directory 0
    | none => 0o755
  if g.has "d" then
    let files ← operands g "file operand"
    forAll files fun file => do
      let ok ← makeWay told file none
      if ok then
        let _ ← Act.edit fun t _ => t.setMode (fun _ => mode true) (pathOf file)
      return ok
  else
    if g.has "D" then
      let way := (g.value? "t").getD (if g.operands.length = 2 then wayOf (g.operands.getLastD "") else "")
      if way ≠ "" then
        let _ ← makeWay told way none
    match g.value? "t" with
    | some d =>
      match (← tree).find (pathOf d) true with
      | .error e =>
        if !g.operands.isEmpty then stop 1 ("failed to access " ++ quoted d ++ ": " ++ e.plainMessage)
      | .ok _ => pure ()
    | none => pure ()
    let pairs ← targetsOf g (g.value? "t") "file operand"
    let o : Copying := ⟨{ g with options := [] }, false, false, true, false, false, g.has "p", false⟩
    let t ← tree
    pairs.foldlM (fun status (source, target) => do
      match t.find (pathOf source) true with
      | .error e =>
        say ("cannot stat " ++ quoted source ++ ": " ++ e.plainMessage)
        return 1
      | .ok node =>
        if node.isDirectory then
          say ("omitting directory " ++ quoted source)
          return 1
        else if isSame (← tree) true source target &&
            !(((← tree).find (pathOf target) false).toOption.any Node.isLink) then
          say (quoted source ++ " and " ++ quoted target ++ " are the same file")
          return 1
        else if (← tree).isDirectory (pathOf target) then
          say ("cannot overwrite directory " ++ quoted target ++ " with non-directory")
          return 1
        else
          let equal ← isInstalled (mode false) source target
          if g.has "C" && equal then return status
          let kept ← keepBackup g target
          let removed ← Act.edit fun t present => t.removeFile present (pathOf target)
          if isRefused removed then
            say ("cannot remove " ++ quoted target ++ ": " ++ IoError.denied.plainMessage)
            return 1
          if g.has "v" then
            if removed.isOk then out ("removed " ++ quoted target ++ "\n")
            out (quoted source ++ " -> " ++ quoted target ++ backupNote kept ++ "\n")
          if ← copyBytes o source target 0o600 then
            keepProperties o (some (mode false)) (t.disk.modified node) target
            return status
          else return 1) 0
where
  /-- Whether a target has the bytes and the permission bits that it would get. -/
  isInstalled (mode : Nat) (source target : String) : Act Bool := do
    let t ← tree
    match t.find (pathOf target) false, t.contents (pathOf source), t.contents (pathOf target) with
    | .ok node, .ok a, .ok b => return node.isFile && t.disk.mode node = mode && a == b
    | _, _, _ => return false

end CrossBench.Tool
