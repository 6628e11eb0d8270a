import CrossBench.Files.Edit
import CrossBench.Files.Permission
import CrossBench.Tool.Account
import CrossBench.Tool.Moment

/-!
# Making and removing files

The programs that make files, directories and named pipes, set their times, sizes and permission bits,
and remove them.
-/

namespace CrossBench.Tool

open Shell Shell.Act

/-- The operands of a call, of which there has to be one. -/
def operands (g : Given) (what : String) : Act (List String) :=
  if g.operands.isEmpty then misuse 1 ("missing " ++ what) else return g.operands

/-- The changes of permission bits that a text asks for. -/
def modeOf (why : String → String) (text : String) : Act (List Permission.Change) := do
  match Permission.parse? text with
  | some changes => return changes
  | none => stop 1 (why (cited text))

/-! ## Times and sizes -/

/-- The time that files are to be given, if they are not to be given the present one. -/
def touchTime (g : Given) : Act (Option Instant) := do
  let present ← now
  let zone := (← get).zone
  let sources := [g.has "d" && !g.has "r", g.has "t", g.has "r"].filter id
  if 1 < sources.length then misuse 1 "cannot specify times from more than one source"
  else
    match g.value? "r", g.value? "t", g.value? "d" with
    | some file, _, d =>
      let t ← tree
      match t.find (pathOf file) (!g.has "h") with
      | .error e => stop 1 ("failed to get attributes of " ++ quoted file ++ ": " ++ e.plainMessage)
      | .ok node =>
        let time := t.disk.modified node
        match d with
        | none => return some time
        | some text =>
          match TimeWords.instantOf? zone time text with
          | some time => return some time
          | none => stop 1 ("invalid date format " ++ cited text)
    | none, some text, _ =>
      match TimeWords.stampOf? zone present text with
      | some time => return some time
      | none => stop 1 ("invalid date format " ++ cited text)
    | none, none, some text =>
      match TimeWords.instantOf? zone present text with
      | some time => return some time
      | none => stop 1 ("invalid date format " ++ cited text)
    | none, none, none => return none

/-- What the times of a file are called. -/
def timeWords : List String := ["atime|access|use", "mtime|modify"]

/-- Sets the times of files, and makes those that are missing. -/
def touch : Act Nat := do
  let g ← given
    { letters := "acfhm", valued := "drt"
      words := [("no-create", "c"), ("no-dereference", "h")]
      valuedWords := [("date", "d"), ("reference", "r"), ("time", "time")] }
  let named ← (g.values "time").mapM fun w => wordGiven "--time" w timeWords
  let time ← touchTime g
  let accessOnly := !g.has "m" && !named.any (fun w => w.startsWith "m") && (g.has "a" || !named.isEmpty)
  let files ← operands g "file operand"
  forAll files fun file => do
    let p := pathOf file
    let follow := !g.has "h"
    let t ← tree
    let there := (t.find p follow).isOk
    if file = "-" then return true
    else if !there && (g.has "c" || g.has "h") then
      match t.find p follow with
      | .error e =>
        if e = .notFound && g.has "c" then return true
        else
          say ("setting times of " ++ quoted file ++ ": " ++ e.plainMessage)
          return false
      | .ok _ => return true
    else
      let made ← Act.edit fun t present =>
        if there then .ok t
        else
          match t.place p true with
          | .error e => .error e
          | .ok (.absent directory n) => do
            t.alterableAt directory
            return (t.addFile present directory n 0o666).2
          | .ok (.present _) => .ok t
      match made with
      | .error e =>
        let verb := if isThereDirectory t file e then "setting times of " else "cannot touch "
        say (verb ++ quoted file ++ ": " ++ e.plainMessage)
        return false
      | .ok () =>
        if accessOnly || (!there && time.isNone) then return true
        else
          change ("setting times of " ++ quoted file) fun t present =>
            t.setModifiedOf follow (time.getD present) p
where
  /-- Whether a name that is to lead to a directory fails only at its end. -/
  isThereDirectory (t : Tree) (file : String) (e : IoError) : Bool :=
    file.endsWith "/" && (e = .notDirectory || (e = .notFound && (t.place (pathOf file).trimSlashes false).isOk))

/-- How the size of a file changes: to a size, by some bytes, to one that is no less or no greater, or
to a multiple. -/
inductive Resizing where
  | exactly (n : Nat)
  | by (n : Int)
  | atLeast (n : Int)
  | atMost (n : Int)
  | multipleBelow (n : Nat)
  | multipleAbove (n : Nat)

namespace Resizing

/-- Whether the new size depends on the old one. -/
def isRelative : Resizing → Bool
  | .exactly _ => false
  | _ => true

/-- A size after a change, in which all sizes are counted in units. -/
def apply (unit old : Nat) : Resizing → Nat
  | .exactly n => n * unit
  | .by n => ((old : Int) + n * unit).toNat
  | .atLeast n => (max (old : Int) (n * unit)).toNat
  | .atMost n => (min (old : Int) (n * unit)).toNat
  | .multipleBelow n => old / (n * unit) * (n * unit)
  | .multipleAbove n => (old + n * unit - 1) / (n * unit) * (n * unit)

/-- The greatest size that a file can have. -/
def limit : Nat := 268435456

/-- Reads a change of sizes; a failure is what is said of it, and whether the call is wrong. -/
def read (text : String) : Except (String × Bool) Resizing :=
  let cs := text.toList.dropWhile isSpace
  let mark := if "<>/%".toList.contains (cs.head?.getD 'x') then cs.head? else none
  let cs := (if mark.isSome then cs.drop 1 else cs).dropWhile isSpace
  let sign := if cs.head? = some '+' || cs.head? = some '-' then cs.head? else none
  let digits := String.ofList (if sign.isSome then cs.drop 1 else cs)
  let shown := "Invalid number: " ++ cited (String.ofList cs)
  if mark.isSome && sign.isSome then .error ("multiple relative modifiers specified", true)
  else
    match if sign.isSome && !(digits.toList.head?.getD 'x').isDigit then none
      else scaled? "EgGkKmMPtTYZ" digits with
    | none => .error (shown, false)
    | some n =>
      if 9223372036854775807 < n then .error (shown ++ ": Value too large for defined data type", false)
      else
        match mark, sign with
        | some '<', _ => .ok (.atMost n)
        | some '>', _ => .ok (.atLeast n)
        | some _, _ =>
          if n = 0 then .error ("division by zero", false)
          else .ok (if mark = some '/' then .multipleBelow n else .multipleAbove n)
        | none, some '+' => .ok (.by n)
        | none, some _ => .ok (.by (-n))
        | none, none => .ok (.exactly n)

end Resizing

/-- Sets the sizes of files. -/
def truncate : Act Nat := do
  let g ← given
    { letters := "co", valued := "sr", words := [("no-create", "c"), ("io-blocks", "o")]
      valuedWords := [("size", "s"), ("reference", "r")] }
  let resizing ←
    match g.value? "s" with
    | none => pure none
    | some text =>
      match Resizing.read text with
      | .ok c => pure (some c)
      | .error (why, true) => misuse 1 why
      | .error (why, false) => stop 1 why
  match resizing, g.value? "r" with
  | none, none => misuse 1 ("you must specify either " ++ cited "--size" ++ " or " ++ cited "--reference")
  | some c, some _ =>
    if !c.isRelative then
      misuse 1 ("you must specify a relative " ++ cited "--size" ++ " with " ++ cited "--reference")
  | _, _ => pure ()
  if g.has "o" && resizing.isNone then
    misuse 1 (cited "--io-blocks" ++ " was specified but " ++ cited "--size" ++ " was not")
  let files ← operands g "file operand"
  let start ← (g.value? "r").mapM fun file => do
    match (← tree).find (pathOf file) true with
    | .ok node => return ((← tree).contents (pathOf file)).toOption.elim 4096 fun bytes =>
        if node.isDirectory then 4096 else bytes.size
    | .error e => stop 1 ("cannot stat " ++ quoted file ++ ": " ++ e.plainMessage)
  let unit := if g.has "o" then 4096 else 1
  let sizeFrom (old : Nat) : Nat :=
    match resizing with
    | some c => c.apply unit (start.getD old)
    | none => start.getD 0
  forAll files fun file => do
    let p := pathOf file
    if g.has "c" && !((← tree).find p true).isOk then return true
    else
      let opened ← change ("cannot open " ++ quoted file ++ " for writing") fun t present =>
        match t.place p true with
        | .error e => .error e
        | .ok (.absent directory n) => do
          t.alterableAt directory
          return (t.addFile present directory n 0o666).2
        | .ok (.present location) =>
          match t.at? location with
          | some (.file number) => if t.allows (.file number) 2 then .ok t else .error .denied
          | some (.directory ..) => .error .isDirectory
          | _ => .error .invalid
      if !opened then return false
      else
        let old := ((← tree).contents p).toOption.elim 0 ByteArray.size
        let new := sizeFrom old
        if Resizing.limit < new then
          say ("failed to truncate " ++ quoted file ++ " at " ++ toString new ++ " bytes: "
            ++ IoError.tooLarge.plainMessage)
          return false
        else
          change ("failed to truncate " ++ quoted file) fun t present =>
            match t.find p true with
            | .ok (.file number) =>
              .ok (t.setData present number fun data => data.extract 0 new ++ zeros (new - data.size))
            | _ => .error .invalid
where
  /-- So many zero bytes. -/
  zeros (n : Nat) : ByteArray := ⟨Array.replicate n 0⟩

/-! ## Permission bits -/

/-- Takes the mode out of arguments in which it may look like an option. -/
def modeArgument : List String → Option String × List String
  | [] => (none, [])
  | "--" :: rest => (none, "--" :: rest)
  | a :: rest =>
    match a.toList with
    | '-' :: c :: _ =>
      if "rwxXstugoa,+=01234567".toList.contains c then (some a, rest)
      else
        let (mode, others) := modeArgument rest
        (mode, a :: others)
    | _ =>
      let (mode, others) := modeArgument rest
      (mode, a :: others)

/-- What is said of permission bits that have been looked at. -/
def modeReport (file : String) (old new : Nat) : String :=
  let shown (m : Nat) : String := Permission.digits 4 m ++ " (" ++ Permission.text m ++ ")"
  if old = new then "mode of " ++ quoted file ++ " retained as " ++ shown old ++ "\n"
  else "mode of " ++ quoted file ++ " changed from " ++ shown old ++ " to " ++ shown new ++ "\n"

/-- Sets the permission bits of a file; whether that went well. -/
def chmodFile (g : Given) (changes : List Permission.Change) (fromOption : Bool) (file : String) :
    Act Bool := do
  let p := pathOf file
  let t ← tree
  match t.find p true with
  | .error e =>
    if g.has "f" then return false
    else if (t.find p false).toOption.any Node.isLink then
      say ("cannot operate on dangling symlink " ++ quoted file)
      if g.has "v" then out (quoted file ++ " could not be accessed\n")
      return false
    else
      say ("cannot access " ++ quoted file ++ ": " ++ e.plainMessage)
      return false
  | .ok node =>
    let old := t.disk.mode node
    let new := Permission.applyAll changes t.mask node.isDirectory old
    let ok ← change ("changing permissions of " ++ quoted file) fun t _ => t.setMode (fun _ => new) p
    if g.has "v" || (g.has "c" && old ≠ new) then out (modeReport file old new)
    let whole := Permission.applyAll changes 0 node.isDirectory old
    if fromOption && whole ≠ new then
      say (named file ++ ": new permissions are " ++ Permission.text new ++ ", not "
        ++ Permission.text whole)
      return false
    else return ok

/-- Does something with a file, and then with everything below it if it is a directory; links are not
followed. -/
def forEverything (act : String → Act Bool) : Nat → String → Act Bool
  | 0, _ => return false
  | depth + 1, file => do
    let ok ← act file
    match (← tree).find (pathOf file) false with
    | .ok (.directory es mode time) =>
      if (← tree).allows (.directory es mode time) 4 then
        es.foldlM (fun ok e => do
          let done ← forEverything act depth (pathIn file (ofBytes e.1))
          return ok && done) ok
      else
        say ("cannot read directory " ++ quoted file ++ ": " ++ IoError.denied.plainMessage)
        return false
    | _ => return ok

/-- How deep directories are looked into. -/
def depthLimit : Nat := 2000

/-- Whether the top of the disk is to be kept from what is done with everything below it. -/
def rootGuard (g : Given) : Bool :=
  ((g.options.filter fun o => o.1.endsWith "preserve-root").getLast?).any fun o => o.1 = "preserve-root"

/-- Whether a path is the top of the disk. -/
def isTop (file : String) : Bool := file ≠ "" && file.all (· == '/')

/-- Sets permission bits. -/
def chmod : Act Nat := do
  let s ← get
  let (mode, others) := modeArgument s.arguments
  modify fun s => { s with arguments := others }
  let g ← given
    { letters := "Rcfv"
      words := [("recursive", "R"), ("changes", "c"), ("silent", "f"), ("quiet", "f"),
        ("verbose", "v"), ("preserve-root", "preserve-root"), ("no-preserve-root", "no-preserve-root")]
      valuedWords := [("reference", "reference")] }
  let (changes, files) ←
    match g.value? "reference", mode, g.operands with
    | some file, _, files =>
      let t ← tree
      match t.find (pathOf file) true with
      | .ok node => pure ([Permission.settingTo (t.disk.mode node)], files)
      | .error e => stop 1 ("failed to get attributes of " ++ quoted file ++ ": " ++ e.plainMessage)
    | none, some m, files =>
      match Permission.parse? m with
      | some c => pure (c, files)
      | none => misuse 1 ("invalid mode: " ++ cited m)
    | none, none, m :: files =>
      if files.isEmpty then misuse 1 ("missing operand after " ++ cited m)
      else
        match Permission.parse? m with
        | some c => pure (c, files)
        | none => misuse 1 ("invalid mode: " ++ cited m)
    | none, none, [] => misuse 1 "missing operand"
  if files.isEmpty then
    match mode with
    | some m => misuse 1 (if m.startsWith "-" then "missing operand" else "missing operand after " ++ cited m)
    | none => misuse 1 "missing operand"
  forAll files fun file => do
    if g.has "R" && rootGuard g && isTop file then
      say ("it is dangerous to operate recursively on " ++ quoted file ++
        if file = "/" then "" else " (same as '/')")
      say "use --no-preserve-root to override this failsafe"
      return false
    else if g.has "R" then
      forEverything (fun f => do
        if f ≠ file && ((← tree).find (pathOf f) false).toOption.any Node.isLink then
          if g.has "v" then out ("neither symbolic link " ++ quoted f ++ " nor referent has been changed\n")
          return true
        else chmodFile g changes mode.isSome f) depthLimit file
    else chmodFile g changes mode.isSome file

/-- The numbers of the user and the group that a text asks for, or why it asks for none. A user with a colon
behind it stands for its group too. -/
def ownersOf (text : String) : Except String (Option Nat × Option Nat) :=
  let user := String.ofList (text.toList.takeWhile (· != ':'))
  let divided := user ≠ text
  let group := String.ofList (text.toList.drop (user.length + 1))
  let number (s : String) : Option Nat := (decimal? s).filter (· < 4294967295)
  let userNumber := (userNumber? user).orElse fun _ => number user
  let groupNumber := (groupNumber? group).orElse fun _ => number group
  if user ≠ "" && userNumber.isNone then
    .error ((if divided && group = "" then "invalid spec: " else "invalid user: ") ++ cited text)
  else if group ≠ "" && groupNumber.isNone then .error ("invalid group: " ++ cited text)
  else if divided && group = "" && user ≠ "" && (decimal? user).isSome then
    .error ("invalid spec: " ++ cited text)
  else .ok (userNumber, groupNumber)

/-- The options of the programs that change owners. -/
def ownerGrammar : Grammar where
  letters := "HLPRcfhv"
  words :=
    [("recursive", "R"), ("changes", "c"), ("silent", "f"), ("quiet", "f"), ("verbose", "v"),
      ("no-dereference", "h"), ("dereference", "dereference"), ("preserve-root", "preserve-root"),
      ("no-preserve-root", "no-preserve-root")]
  valuedWords := [("reference", "reference"), ("from", "from")]

/-- Looks at the files whose owners are to be changed. All files have one owner, so that there is nothing to
change. -/
def changeOwners (g : Given) (shown : String) (files : List String) : Act Nat :=
  forAll files fun file => do
    let act (file : String) : Act Bool := do
      match (← tree).find (pathOf file) (!g.has "h") with
      | .ok _ =>
        if g.has "v" then out (shown ++ " of " ++ quoted file ++ " retained as root\n")
        return true
      | .error e =>
        unless g.has "f" do
          say ("cannot access " ++ quoted file ++ ": " ++ e.plainMessage)
        return false
    if g.has "R" then forEverything act depthLimit file else act file

/-- The files behind the owner in the arguments of a call, with the owner looked at. -/
def ownedFiles (g : Given) (check : String → Except String Unit) : Act (List String) := do
  match g.value? "reference", g.operands with
  | some file, files =>
    match (← tree).find (pathOf file) true with
    | .error e => stop 1 ("failed to get attributes of " ++ quoted file ++ ": " ++ e.plainMessage)
    | .ok _ => if files.isEmpty then misuse 1 "missing operand" else return files
  | none, [] => misuse 1 "missing operand"
  | none, [a] => misuse 1 ("missing operand after " ++ cited a)
  | none, owner :: files =>
    match check owner with
    | .ok () => return files
    | .error why => stop 1 why

/-- Changes owners, of which there is only one. -/
def chown : Act Nat := do
  let g ← given ownerGrammar
  for text in g.values "from" do
    match ownersOf text with
    | .ok _ => pure ()
    | .error why => stop 1 why
  let files ← ownedFiles g fun owner => (ownersOf owner).map fun _ => ()
  changeOwners g "ownership" files

/-- Changes groups, of which there is only one. -/
def chgrp : Act Nat := do
  let g ← given ownerGrammar
  let files ← ownedFiles g fun group =>
    match ownersOf (":" ++ group) with
    | .ok _ => .ok ()
    | .error _ => .error ("invalid group: " ++ cited group)
  changeOwners g "group" files

/-! ## Making -/

/-- Makes a directory with everything that is missing on the way to it, and tells of each one in a word;
whether that went well. -/
def makeWay (verb : Option String) (file : String) (mode : Option (List Permission.Change)) : Act Bool := do
  let absolute := file.startsWith "/"
  let parts := (file.splitOn "/").filter (· ≠ "")
  let paths := (List.range parts.length).map fun i =>
    (if absolute then "/" else "") ++ "/".intercalate (parts.take (i + 1))
  if file = "" then
    say ("cannot create directory " ++ cited "" ++ ": " ++ IoError.notFound.plainMessage)
    return false
  else
    paths.foldlM (fun ok path => do
      if !ok then return false
      else
        let t ← tree
        if t.isDirectory (pathOf path) then return true
        else
          let made ← Act.edit fun t present => t.makeDirectory present (pathOf path)
          match made with
          | .ok () =>
            if let some verb := verb then
              out ((← get).title ++ ": " ++ verb ++ " directory " ++ quoted path ++ "\n")
            match mode with
            | some changes =>
              if path = paths.getLastD "" then
                let _ ← Act.edit fun t _ =>
                  t.setMode (fun _ => Permission.applyAll changes t.mask true 0o777) (pathOf path)
            | none => pure ()
            if path ≠ paths.getLastD "" then
              let _ ← Act.edit fun t _ => t.setMode (fun m => m ||| 0o300) (pathOf path)
            return true
          | .error e =>
            let e := if e = .taken && path ≠ paths.getLastD "" && (t.find (pathOf path) true).isOk then .notDirectory else e
            let closed := e = .denied && t.isDirectory (pathOf (directoryPart path))
              && !(t.enter (pathOf (directoryPart path))).isOk
            say ("cannot create directory " ++ cited (if closed then directoryPart path else path) ++ ": " ++ e.plainMessage)
            return false) true

where
  /-- The path in front of the last slash. -/
  directoryPart (path : String) : String :=
    String.ofList (((path.toList.reverse.dropWhile (· != '/')).dropWhile (· == '/')).reverse)

/-- Says that labels of files are not kept here. -/
def warnOfContext (g : Given) : Act Unit := do
  for v in g.values "Z" do
    if v ≠ "" then say "warning: ignoring --context; it requires an SELinux/SMACK-enabled kernel"

/-- Makes directories. -/
def mkdir : Act Nat := do
  let g ← given
    { letters := "pvZ", valued := "m", words := [("parents", "p"), ("verbose", "v")]
      valuedWords := [("mode", "m")], freeWords := [("context", "Z")] }
  let files ← operands g "operand"
  warnOfContext g
  let mode ← (g.value? "m").mapM (modeOf fun m => "invalid mode " ++ m)
  forAll files fun file => do
    if g.has "p" then makeWay (if g.has "v" then some "created" else none) file mode
    else
      let ok ← change ("cannot create directory " ++ cited file) fun t present =>
        match t.makeDirectory present (pathOf file), mode with
        | .ok t, some changes =>
          t.setMode (fun _ => Permission.applyAll changes t.mask true 0o777) (pathOf file)
        | result, _ => result
      if ok && g.has "v" then
        out ((← get).title ++ ": created directory " ++ quoted file ++ "\n")
      return ok

/-- Makes named pipes. -/
def makeFifos (files : List String) (mode : Option (List Permission.Change)) : Act Nat :=
  forAll files fun file =>
    change ("cannot create fifo " ++ quoted file) fun t present =>
      let bits :=
        match mode with
        | some changes => Permission.applyAll changes t.mask false 0o666
        | none => t.masked 0o666
      let number := t.disk.files.size
      let t := (t.newRecord ⟨.empty, bits, present⟩).2
      t.create present (pathOf file) (.fifo number bits present)

/-- The permission bits that a special file is to get. -/
def specialMode (g : Given) : Act (Option (List Permission.Change)) := do
  let mode ← (g.value? "m").mapM (modeOf fun _ => "invalid mode")
  if mode.any fun changes => 0o777 < Permission.applyAll changes 0 false 0o666 then
    stop 1 "mode must specify only file permission bits"
  return mode

/-- Makes named pipes. -/
def mkfifo : Act Nat := do
  let g ← given
    { letters := "Z", valued := "m", valuedWords := [("mode", "m")], freeWords := [("context", "Z")] }
  warnOfContext g
  let files ← operands g "operand"
  makeFifos files (← specialMode g)

/-- Makes a special file, of which only named pipes can be made. -/
def mknod : Act Nat := do
  let g ← given
    { letters := "Z", valued := "m", valuedWords := [("mode", "m")], freeWords := [("context", "Z")] }
  warnOfContext g
  let mode ← specialMode g
  let refuse (why note : String) : Act Nat := do
    say why
    complain note
    giveHint 1
  let number (kind text : String) : Act Unit := do
    unless (text.toList.all Char.isDigit && text ≠ "") do
      stop 1 ("invalid " ++ kind ++ " device number " ++ cited text)
  match g.operands with
  | [] => misuse 1 "missing operand"
  | [a] => misuse 1 ("missing operand after " ++ cited a)
  | [file, "p"] => makeFifos [file] mode
  | _ :: "p" :: extra :: rest =>
    if rest.length = 1 then
      refuse ("extra operand " ++ cited extra) "Fifos do not have major and minor device numbers."
    else misuse 1 ("extra operand " ++ cited extra)
  | [_, kind] =>
    refuse ("missing operand after " ++ cited kind) "Special files require major and minor device numbers."
  | [_, _, major] => misuse 1 ("missing operand after " ++ cited major)
  | [file, kind, major, minor] =>
    if ["b", "c", "u"].contains (String.ofList (kind.toList.take 1)) then
      number "major" major
      number "minor" minor
      stop 1 (named file ++ ": " ++ IoError.notPermitted.plainMessage)
    else misuse 1 ("invalid device type " ++ cited kind)
  | _ :: _ :: _ :: _ :: extra :: _ => misuse 1 ("extra operand " ++ cited extra)

/-- The letters of names that nobody else uses. -/
def nameLetters : List Char :=
  "abcdefghijklmnopqrstuvwxyzABCDEFGHIJKLMNOPQRSTUVWXYZ0123456789".toList

/-- A name that is made of a number. -/
def nameOf (count n : Nat) : List Char :=
  (List.range count).map fun i =>
    nameLetters.getD ((n * (7919 + 2 * i) + n / Nat.pow 3 (i % 20) + i * 17) % 62) 'a'

/-- Makes a file, or a directory, with a new name. -/
def mktemp : Act Nat := do
  let g ← given
    { letters := "dquVt", valued := "p"
      words := [("directory", "d"), ("quiet", "q"), ("dry-run", "u")]
      valuedWords := [("suffix", "suffix")], freeWords := [("tmpdir", "tmpdir")] }
  let usual := ((← parameter? "TMPDIR").filter (· ≠ "")).getD "/tmp"
  let (template, place) ←
    match g.operands with
    | [] => pure ("tmp.XXXXXXXXXX", some usual)
    | [a] => pure (a, if g.has "t" then some usual else none)
    | _ => misuse 1 "too many templates"
  let place :=
    match g.value? "p", g.value? "tmpdir" with
    | some d, _ => some d
    | none, some "" => some usual
    | none, some d => some d
    | none, none => place
  let ending := (g.value? "suffix").getD ""
  let cs := template.toList
  let tail := if g.has "suffix" then [] else (cs.reverse.takeWhile (· != 'X')).reverse
  let tail := if cs.contains 'X' then tail else []
  let front := cs.take (cs.length - tail.length)
  let count := (front.reverse.takeWhile (· == 'X')).length
  if g.has "suffix" && (cs.getLast?.getD 'X') ≠ 'X' then
    stop 1 ("with --suffix, template " ++ cited template ++ " must end in X")
  let suffix := String.ofList tail ++ ending
  if suffix.toList.contains '/' then
    stop 1 ("invalid suffix " ++ cited suffix ++ ", contains directory separator")
  if count < 3 then stop 1 ("too few X's in template " ++ cited template)
  if g.has "t" && template.toList.contains '/' then
    stop 1 ("invalid template, " ++ cited template ++ ", contains directory separator")
  if !g.has "t" && place.isSome && template.startsWith "/" then
    stop 1 ("invalid template, " ++ cited template ++ "; with --tmpdir, it may not be absolute")
  let kept := String.ofList (front.take (front.length - count))
  let behind := suffix
  let whole (n : Nat) : String :=
    let name := kept ++ String.ofList (nameOf count n) ++ behind
    match place with
    | some d => pathIn d name
    | none => name
  let seed : Nat ← look fun pid k => pid * 1000003 + k.now.nanos + k.now.seconds.toNat
  let sayFailure (e : IoError) : Act Unit :=
    say ("failed to create " ++ (if g.has "d" then "directory" else "file") ++ " via template "
      ++ cited (place.elim template fun d => pathIn d template) ++ ": " ++ e.plainMessage)
  repeating seed fun n => do
    let path := whole n
    let t ← tree
    match t.place (pathOf path) false with
    | .ok (.present _) => return .inl (n + 1)
    | .error e =>
      unless g.has "q" do sayFailure e
      return .inr 1
    | .ok (.absent directory name) =>
      let made ←
        if g.has "u" then pure (.ok ())
        else
          Act.edit fun t present => do
            t.alterableAt directory
            return if g.has "d" then t.add present directory name (.directory [] 0o700 present)
              else (t.addFile present directory name 0o600).2
      match made with
      | .error e =>
        unless g.has "q" do sayFailure e
        return .inr 1
      | .ok () =>
        out (path ++ "\n")
        return .inr 0

/-! ## Removing -/

/-- Asks whether something is to be done. -/
def agreed (question : String) : Act Bool := do
  let _ ← writeText 2 ((← get).title ++ ": " ++ question ++ "? ")
  match ← readTo 0 10 with
  | .ok bytes => return bytes.data[0]? == some 121 || bytes.data[0]? == some 89
  | .error _ => return false

/-- What a node is called in a question. -/
def kindText (disk : Disk) (node : Node) : String :=
  match node with
  | .file number => if (disk.record number).data.size = 0 then "regular empty file" else "regular file"
  | .directory .. => "directory"
  | .link .. => "symbolic link"
  | .fifo .. => "fifo"
  | .device .. => "character special file"

/-- How removing is to be done. -/
structure Removal where
  recursive : Bool
  directories : Bool
  force : Bool
  asks : Bool
  verbose : Bool

/-- Whether a question is asked whose answer is no. -/
def declined (r : Removal) (question : String) : Act Bool := do
  if r.asks then return !(← agreed question) else return false

/-- Removes one file; whether that went well. -/
def removeOne (r : Removal) (file : String) (directory : Bool) : Act Bool := do
  let ok ← change ("cannot remove " ++ quoted file) fun t present =>
    if directory then t.removeDirectory present (pathOf file) else t.removeFile present (pathOf file)
  if ok && r.verbose then
    out ((if directory then "removed directory " else "removed ") ++ quoted file ++ "\n")
  return ok

/-- Removes a file with everything below it; whether that went well. -/
def removeBelow (r : Removal) : Nat → String → Act Bool
  | 0, _ => return false
  | depth + 1, file => do
    let t ← tree
    match t.find (pathOf file) false with
    | .error e =>
      if r.force && (e = .notFound || e = .notDirectory) then return true
      else
        say ("cannot remove " ++ quoted file ++ ": " ++ e.plainMessage)
        return false
    | .ok (.directory es mode time) =>
      if !r.recursive && !(r.directories && es.isEmpty) then
        let e := if r.directories then IoError.notEmpty else .isDirectory
        say ("cannot remove " ++ quoted file ++ ": " ++ e.plainMessage)
        return false
      else if es.isEmpty then
        if ← declined r ("remove directory " ++ quoted file) then return true
        else removeOne r file true
      else if !t.allows (.directory es mode time) 4 then
        say ("cannot remove " ++ quoted file ++ ": " ++ IoError.denied.plainMessage)
        return false
      else if ← declined r ("descend into directory " ++ quoted file) then return true
      else
        let ok ← es.foldlM (fun ok e => do
          let removed ← removeBelow r depth (pathIn file (ofBytes e.1))
          return removed && ok) true
        if !ok then return false
        else if ← declined r ("remove directory " ++ quoted file) then return true
        else removeOne r file true
    | .ok node =>
      if ← declined r ("remove " ++ kindText t.disk node ++ " " ++ quoted file) then return true
      else removeOne r file false

/-- The name behind the last slash of a path, slashes at its end left out. -/
def lastName (s : String) : String :=
  let trimmed := (s.toList.reverse.dropWhile (· == '/'))
  String.ofList (trimmed.takeWhile (· != '/')).reverse

/-- The options of `rm`. -/
def removalGrammar : Grammar where
  letters := "dfiIrRv"
  words :=
    [("force", "f"), ("recursive", "r"), ("dir", "d"), ("verbose", "v"),
      ("one-file-system", "one-file-system"), ("no-preserve-root", "no-preserve-root")]
  freeWords := [("interactive", "i"), ("preserve-root", "preserve-root")]

/-- Refuses a call of `rm`. Files whose names look like options may have been meant. -/
def refuseRemoval (why : String) : Act Unit := do
  say why
  let t ← tree
  for a in (← get).arguments do
    if a.startsWith "-" && a ≠ "-" && (t.find (pathOf a) false).isOk then
      complain ("Try '" ++ (← get).title ++ " ./" ++ named a ++ "' to remove the file " ++ quoted a ++ ".")
  giveHint 1

/-- Removes files, and directories if asked to. -/
def rm : Act Nat := do
  match removalGrammar.parse (← get).arguments with
  | .error why => refuseRemoval why
  | .ok _ => pure ()
  let g ← given removalGrammar
  let whens ← (g.options.filter fun o => ["f", "i", "I"].contains o.1).mapM fun o => do
    if o.1 = "f" then return 'f'
    else if o.1 = "I" then return 'I'
    else if o.2 = "" then return 'i'
    else
      let w ← wordGiven "--interactive" o.2 ["never|no|none", "once", "always|yes"]
      return if w = "once" then 'I' else if ["always", "yes"].contains w then 'i' else 'n'
  for v in g.values "preserve-root" do
    if v ≠ "" && v ≠ "all" then stop 1 ("unrecognized --preserve-root argument: " ++ quoted v)
  let force := whens.getLast? == some 'f'
  let recursive := g.hasAny "rR"
  let asks := whens.getLast? == some 'i'
  if g.operands.isEmpty then
    if force then return 0 else misuse 1 "missing operand"
  else
    let r : Removal := ⟨recursive, g.has "d", force, asks, g.has "v"⟩
    let allowed ←
      if whens.getLast? == some 'I' && (recursive || 3 < g.operands.length) then
        agreed ("remove " ++ toString g.operands.length ++ " argument"
          ++ (if g.operands.length = 1 then "" else "s") ++ if recursive then " recursively" else "")
      else pure true
    if !allowed then return 0
    else
      forAll g.operands fun file => do
        let name := lastName file
        if recursive && (name = "." ∨ name = "..") then
          say ("refusing to remove '.' or '..' directory: skipping " ++ quoted file)
          return false
        else if recursive && name = "" && file ≠ "" && !g.has "no-preserve-root" then
          say ("it is dangerous to operate recursively on " ++ quoted file ++
            if file = "/" then "" else " (same as '/')")
          say "use --no-preserve-root to override this failsafe"
          return false
        else removeBelow r depthLimit file

/-- Removes empty directories. -/
def rmdir : Act Nat := do
  let g ← given
    { letters := "pv"
      words := [("parents", "p"), ("verbose", "v"), ("ignore-fail-on-non-empty", "ignore")] }
  let files ← operands g "operand"
  let removed (failure file : String) : Act (Option Bool) := do
    if g.has "v" then out ((← get).title ++ ": removing directory, " ++ quoted file ++ "\n")
    match ← Act.edit fun t present => t.removeDirectory present (pathOf file) with
    | .ok () => return none
    | .error e =>
      if e = .notEmpty && g.has "ignore" then return some true
      else
        say (failure ++ quoted file ++ ": " ++ e.plainMessage)
        return some false
  forAll files fun file => do
    match ← removed "failed to remove " file with
    | some ok => return ok
    | none =>
      if !g.has "p" then return true
      else
        let parts := file.splitOn "/"
        let parts := if parts.getLast? = some "" then parts.dropLast else parts
        let parents := ((List.range (parts.length - 1)).map fun i =>
          "/".intercalate (parts.take (i + 1))).reverse.filter (· ≠ "")
        let result ← parents.foldlM (fun (result : Option Bool) parent => do
          match result with
          | some ok => return some ok
          | none => removed "failed to remove directory " parent) none
        return result.getD true

/-- Removes one file. -/
def unlink : Act Nat := do
  let g ← given {}
  match g.operands with
  | [] => misuse 1 "missing operand"
  | [file] =>
    let ok ← change ("cannot unlink " ++ quoted file) fun t present => t.removeFile present (pathOf file)
    return if ok then 0 else 1
  | _ :: b :: _ => misuse 1 ("extra operand " ++ cited b)

end CrossBench.Tool
