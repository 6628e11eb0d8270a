import CrossBench.Tool.Copy

/-!
# Names of files

The programs that take paths apart and say where they lead.
-/

namespace CrossBench.Tool

open Shell Shell.Act

/-- The path of a location from the top. -/
def locationText (l : Location) : String :=
  if l.isEmpty then "/" else String.join (l.map fun n => "/" ++ ofBytes n)

/-- The last name of a path, which is a slash if there are only slashes. -/
def baseOf (s : String) : String := if s ≠ "" && lastName s = "" then "/" else lastName s

/-- A name without an ending, unless that is all of it. -/
def withoutEnding (ending name : String) : String :=
  if ending ≠ "" && name ≠ ending && name.endsWith ending && name ≠ "/" then
    String.ofList (name.toList.take (name.length - ending.length))
  else name

/-- Prints the last names of paths. -/
def basename : Act Nat := do
  let g ← given
    { letters := "az", valued := "s", words := [("multiple", "a"), ("zero", "z")]
      valuedWords := [("suffix", "s")], anywhere := false }
  let mark := String.singleton (lineMark (g.has "z"))
  match g.operands with
  | [] => misuse 1 "missing operand"
  | names =>
    if g.has "a" || g.has "s" then
      out (String.join (names.map fun n => withoutEnding ((g.value? "s").getD "") (baseOf n) ++ mark))
      return 0
    else
      match names with
      | [n] =>
        out (baseOf n ++ mark)
        return 0
      | [n, ending] =>
        out (withoutEnding ending (baseOf n) ++ mark)
        return 0
      | _ => misuse 1 ("extra operand " ++ cited (names.getD 2 ""))

/-- A path without its last name. -/
def directoryOf (s : String) : String :=
  let trimmed := s.toList.reverse.dropWhile (· == '/')
  let way := trimmed.dropWhile (· != '/')
  match way, trimmed with
  | [], [] => if s = "" then "." else "/"
  | [], _ => "."
  | way, _ =>
    let kept := way.dropWhile (· == '/')
    if kept.isEmpty then "/" else String.ofList kept.reverse

/-- Prints paths without their last names. -/
def dirname : Act Nat := do
  let g ← given { letters := "z", words := [("zero", "z")] }
  let names ← operands g "operand"
  out (String.join (names.map fun n => directoryOf n ++ String.singleton (lineMark (g.has "z"))))
  return 0

/-- Where a path leads, however much of it is missing. -/
def imagined (t : Tree) : Nat → String → Except IoError Location
  | 0, _ => .error .linkLoop
  | fuel + 1, s =>
    match t.place (pathOf s) true with
    | .ok (.present l) => .ok l
    | .ok (.absent directory n) => .ok (directory ++ [n])
    | .error e =>
      if e = .notFound || e = .notDirectory then
        let name := baseOf s
        if s = "" || name = "/" then .error e
        else
          (imagined t fuel (directoryOf s)).map fun l =>
            if name = ".." then l.dropLast else if name = "." then l else l ++ [toBytes name]
      else .error e

/-- Where a path leads, of which all has to be there (`'e'`), all but the last name (`'f'`), or nothing
(`'m'`). -/
def canonical (t : Tree) (demand : Char) (s : String) : Except IoError Location :=
  if s = "" then .error .notFound
  else if demand = 'm' then imagined t (s.length + 1) s
  else
    match t.place (pathOf s) true with
    | .ok (.present l) => .ok l
    | .ok (.absent directory n) => if demand = 'e' then .error .notFound else .ok (directory ++ [n])
    | .error e =>
      if demand = 'f' && s.endsWith "/" then
        match t.place (pathOf s).trimSlashes true with
        | .ok (.absent directory n) => .ok (directory ++ [n])
        | _ => .error e
      else .error e

/-- Prints where links lead. -/
def readlink : Act Nat := do
  let g ← given
    { letters := "femnqsvz"
      words := [("canonicalize", "f"), ("canonicalize-existing", "e"), ("canonicalize-missing", "m"),
        ("no-newline", "n"), ("quiet", "q"), ("silent", "s"), ("verbose", "v"), ("zero", "z")] }
  let files ← operands g "operand"
  let bare := g.has "n" && files.length = 1
  if g.has "n" && 1 < files.length then say "ignoring --no-newline with multiple arguments"
  let mark := if bare then "" else String.singleton (lineMark (g.has "z"))
  forAll files fun file => do
    let t ← tree
    let found : Except IoError String :=
      match g.last? "fem" with
      | some demand => (canonical t demand file).map locationText
      | none =>
        match t.find (pathOf file) false with
        | .ok (.link target _) => .ok (ofBytes target.bytes)
        | .ok _ => .error .invalid
        | .error e => .error e
    match found with
    | .ok text =>
      out (text ++ mark)
      return true
    | .error e =>
      if g.has "v" then say (unreadable file e)
      return false

/-- Prints where paths lead. -/
def realpath : Act Nat := do
  let g ← given
    { letters := "eLmPqsz"
      words := [("canonicalize-existing", "e"), ("canonicalize-missing", "m"), ("logical", "L"),
        ("physical", "P"), ("quiet", "q"), ("strip", "s"), ("no-symlinks", "s"), ("zero", "z")]
      valuedWords := [("relative-to", "relative-to"), ("relative-base", "relative-base")] }
  let files ← operands g "operand"
  let mark := String.singleton (lineMark (g.has "z"))
  let demand := (g.last? "em").getD 'f'
  let base := (g.value? "relative-to").orElse fun _ => g.value? "relative-base"
  forAll files fun file => do
    let t ← tree
    let plain : Location :=
      (if file.startsWith "/" then [] else t.workdir) ++
        (((file.splitOn "/").filter fun p => p ≠ "" && p ≠ ".").map toBytes)
    let found : Except IoError Location :=
      if g.has "s" then
        .ok (plain.foldl (fun l n => if n = toBytes ".." then l.dropLast else l ++ [n]) [])
      else if g.has "L" then
        let way := plain.foldl (fun l n => if n = toBytes ".." then l.dropLast else l ++ [n]) ([] : Location)
        canonical t demand (locationText way)
      else canonical t demand file
    match found with
    | .error e =>
      unless g.has "q" do say (unreadable file e)
      return false
    | .ok l =>
      let text :=
        match base.bind fun b => (canonical t 'm' b).toOption with
        | none => locationText l
        | some start =>
          let bound := (g.value? "relative-base").bind fun b => (canonical t 'm' b).toOption
          let within (l : Location) : Bool := bound.all fun b => b.isPrefixOf l
          if !within l || !within start then locationText l
          else
            let common := ((start.zip l).takeWhile fun p => p.1 = p.2).length
            let steps := List.replicate (start.length - common) ".." ++ (l.drop common).map ofBytes
            if steps.isEmpty then "." else "/".intercalate steps
      out (text ++ mark)
      return true

/-- Prints the directory that the program runs in. -/
def pwd : Act Nat := do
  let g ← given { letters := "LP", words := [("logical", "L"), ("physical", "P")] }
  unless g.operands.isEmpty do say "ignoring non-option arguments"
  let t ← tree
  let physical := locationText t.workdir
  let shown :=
    match ← parameter? "PWD" with
    | some path =>
      if g.last? "LP" == some 'L' && (t.locate (pathOf path) true).toOption == some t.workdir then path
      else physical
    | none => physical
  out (shown ++ "\n")
  return 0

/-- Says where programs are found. -/
def which : Act Nat := do
  let s ← get
  let letters := s.arguments.takeWhile fun a => a.startsWith "-" && a ≠ "-" && a ≠ "--"
  let rest := s.arguments.drop letters.length
  let names := if rest.head? = some "--" then rest.drop 1 else rest
  let flags := letters.flatMap fun a => a.toList.drop 1
  match flags.find? fun c => c != 'a' && c != 's' with
  | some c =>
    complain ("Illegal option -" ++ String.singleton c)
    out "Usage: /usr/bin/which [-as] args\n"
    return 2
  | none =>
    let t ← tree
    let isProgram (path : String) : Bool :=
      match t.find (pathOf path) true with
      | .ok node => node.isFile && t.allows node 1
      | .error _ => false
    let places := (((← parameter? "PATH").getD "").splitOn ":").map fun d => if d = "" then "." else d
    let status ← forAll names fun name => do
      let found :=
        if name.toList.contains '/' then [name].filter isProgram
        else (places.map fun d => d ++ "/" ++ name).filter isProgram
      let shown := if flags.contains 'a' then found else found.take 1
      if !flags.contains 's' then out (String.join (shown.map (· ++ "\n")))
      return !shown.isEmpty
    return if names.isEmpty then 1 else status

/-- What is wrong with a name of a file on some system, if anything is. -/
def nameFault (t : Tree) (strict careful : Bool) (name : String) : Option String :=
  let parts := (name.splitOn "/").filter (· ≠ "")
  let found := t.find (pathOf name) false
  let allowed := "ABCDEFGHIJKLMNOPQRSTUVWXYZabcdefghijklmnopqrstuvwxyz0123456789._-/".toList
  let strange := (Letters.units name.toList).find? fun u => u.any fun c => !allowed.contains c
  let tooLong (what : String) (limit : Nat) (s : String) (shown : String) : Option String :=
    if limit < s.length then
      some ("limit " ++ toString limit ++ " exceeded by length " ++ toString s.length ++ " of file name "
        ++ what ++ shown)
    else none
  let lengthFault (whole part : Nat) : Option String :=
    (tooLong "" whole name (quoted name)).orElse fun _ =>
      parts.findSome? fun p => tooLong "component " part p (cited p)
  if careful && parts.any (·.startsWith "-") then
    some ("leading '-' in a component of file name " ++ quoted name)
  else if (strict || careful) && name = "" then some "empty file name"
  else if strict then
    match strange with
    | some u =>
      some ("non-portable character " ++ cited (String.ofList u) ++ " in file name " ++ quoted name)
    | none => lengthFault 255 14
  else
    match found with
    | .ok _ => none
    | .error e =>
      if e = .notFound && name ≠ "" then lengthFault 4095 255 else some (named name ++ ": " ++ e.plainMessage)

/-- Says which names cannot be names of files. -/
def pathchk : Act Nat := do
  let g ← given { letters := "pP", words := [("portability", "portability")] }
  let names ← operands g "operand"
  let t ← tree
  forAll names fun name => do
    match nameFault t (g.has "p" || g.has "portability") (g.has "P" || g.has "portability") name with
    | none => return true
    | some why =>
      say why
      return false

end CrossBench.Tool
