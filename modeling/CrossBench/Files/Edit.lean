import CrossBench.Files.Resolve

/-!
# Changing a tree

The changes that programs make to a tree: making files, directories, links and named pipes, removing,
renaming, and setting permission bits and times. Each either answers the changed tree or says why
the system refuses. A change of what a directory holds is also a change of the directory, so its time
moves too. New files are readable and writable by all and new directories also searchable, but for
the bits that the program's mask keeps back.
-/

namespace CrossBench

namespace Node

/-- The entries of a directory with one of them changed, added behind the others or removed. -/
def alterEntries (n : FileName) (change : Option Node → Option Node) :
    List (FileName × Node) → List (FileName × Node)
  | [] =>
    match change none with
    | some node => [(n, node)]
    | none => []
  | (m, node) :: rest =>
    if m = n then
      match change (some node) with
      | some node => (m, node) :: rest
      | none => rest
    else (m, node) :: alterEntries n change rest

/-- The tree below a directory with the node at a location changed. -/
def alterAt (change : Node → Node) : Location → Node → Node
  | [], node => change node
  | n :: rest, .directory es mode t =>
    .directory (alterEntries n (Option.map (alterAt change rest)) es) mode t
  | _ :: _, node => node

end Node

namespace Path

/-- A path without the slashes at its end, unless it is all slashes. -/
def trimSlashes (p : Path) : Path :=
  match (p.bytes.reverse.dropWhile (· == slash)).reverse with
  | [] => p
  | bytes => ⟨bytes⟩

/-- Whether a path ends in a dot or two dots, which are not names that a directory keeps. -/
def endsInDots (p : Path) : Bool :=
  let name := ((p.trimSlashes.bytes.reverse.takeWhile (· != slash)).reverse)
  name == [dot] || name == [dot, dot]

end Path

namespace Tree

/-- The permission bits that are left of some under the program's mask. -/
def masked (tree : Tree) (mode : Nat) : Nat := mode - (mode &&& tree.mask)

/-- The tree with a change to the record of a regular file. -/
def alterRecord (tree : Tree) (number : Nat) (change : FileRecord → FileRecord) : Tree :=
  { tree with disk := tree.disk.alterRecord number change }

/-- The tree with the node at a location changed. -/
def alterAt (tree : Tree) (location : Location) (change : Node → Node) : Tree :=
  { tree with disk.top := tree.disk.top.alterAt change location }

/-- The tree with an entry of a directory changed, added or removed at the time `now`. -/
def alterEntry (tree : Tree) (now : Instant) (directory : Location) (n : FileName)
    (change : Option Node → Option Node) : Tree :=
  tree.alterAt directory fun
    | .directory es mode _ => .directory (Node.alterEntries n change es) mode now
    | node => node

/-- The tree with a new entry in a directory. -/
def add (tree : Tree) (now : Instant) (directory : Location) (n : FileName) (node : Node) : Tree :=
  tree.alterEntry now directory n fun _ => some node

/-- The tree without the node at a location. -/
def drop (tree : Tree) (now : Instant) (location : Location) : Tree :=
  match location.getLast? with
  | none => tree
  | some n => tree.alterEntry now location.dropLast n fun _ => none

/-- The tree with one more record, and its number. -/
def newRecord (tree : Tree) (r : FileRecord) : Nat × Tree :=
  (tree.disk.files.size, { tree with disk.files := tree.disk.files.push r })

/-- The tree with a new empty file in a directory, and its number. -/
def addFile (tree : Tree) (now : Instant) (directory : Location) (n : FileName) (mode : Nat) :
    Nat × Tree :=
  let (number, tree) := tree.newRecord ⟨.empty, tree.masked mode, now⟩
  (number, tree.add now directory n (.file number))

/-- The tree with other bytes in a regular file. -/
def setData (tree : Tree) (now : Instant) (number : Nat) (change : ByteArray → ByteArray) : Tree :=
  tree.alterRecord number fun r => { r with data := change r.data, modified := now }

/-- Makes a file with these bytes, or replaces the bytes of the file that is there. What goes to a
device is lost. -/
def writeFile (tree : Tree) (now : Instant) (p : Path) (bytes : List UInt8) : Except IoError Tree :=
  let data (_ : ByteArray) : ByteArray := bytes.toByteArray
  match tree.place p true with
  | .error e => .error e
  | .ok (.absent directory n) => do
    tree.alterableAt directory
    let (number, tree) := tree.addFile now directory n 0o666
    return tree.setData now number data
  | .ok (.present location) =>
    match tree.at? location with
    | some (.file number) =>
      if tree.allows (.file number) 2 then .ok (tree.setData now number data) else .error .denied
    | some (.directory ..) => .error .isDirectory
    | _ => .ok tree

/-- Puts a new node where a path leads, if nothing is there. -/
def create (tree : Tree) (now : Instant) (p : Path) (node : Node) : Except IoError Tree :=
  match tree.place p false with
  | .error e => .error e
  | .ok (.present _) => .error .taken
  | .ok (.absent directory n) => do
    tree.alterableAt directory
    return tree.add now directory n node

/-- Makes a directory. -/
def makeDirectory (tree : Tree) (now : Instant) (p : Path) : Except IoError Tree :=
  tree.create now p.trimSlashes (.directory [] (tree.masked 0o777) now)

/-- Makes the directories on the way to a path and at its end, as far as they are missing. -/
def makeDirectories (tree : Tree) (now : Instant) (p : Path) : Except IoError Tree :=
  let absolute := if p.isAbsolute then [Path.slash] else []
  let parts := (Path.segments p.bytes).filter (· ≠ [])
  (List.range parts.length).foldlM (fun (tree : Tree) i =>
    let q : Path := ⟨absolute ++ [Path.slash].intercalate (parts.take (i + 1))⟩
    if tree.isDirectory q then .ok tree else tree.makeDirectory now q) tree

/-- Makes a symbolic link. -/
def makeLink (tree : Tree) (now : Instant) (target p : Path) : Except IoError Tree :=
  if target.bytes = [] then .error .notFound else tree.create now p (.link target now)

/-- Gives what a path leads to one more name. -/
def makeName (tree : Tree) (now : Instant) (follow : Bool) (old p : Path) : Except IoError Tree :=
  match tree.find old follow with
  | .error e => .error e
  | .ok (.directory ..) => .error .notPermitted
  | .ok node => tree.create now p node

/-- Removes what is no directory. -/
def removeFile (tree : Tree) (now : Instant) (p : Path) : Except IoError Tree :=
  match tree.locate p false with
  | .error e => .error e
  | .ok location => do
    tree.alterableAt location.dropLast
    match tree.at? location with
    | some (.directory ..) => .error .isDirectory
    | _ => .ok (tree.drop now location)

/-- Removes a directory without entries. -/
def removeDirectory (tree : Tree) (now : Instant) (p : Path) : Except IoError Tree :=
  match tree.locate p.trimSlashes false with
  | .error e => .error e
  | .ok location =>
    if (Path.segments p.trimSlashes.bytes).getLast? = some [Path.dot] then .error .invalid
    else do
      tree.alterableAt location.dropLast
      match tree.at? location with
      | some (.directory [] _ _) => .ok (tree.drop now location)
      | some (.directory ..) => .error .notEmpty
      | _ => .error .notDirectory

/-- Removes what a path leads to, with everything below it. -/
def removeAll (tree : Tree) (now : Instant) (p : Path) : Except IoError Tree :=
  match tree.locate p false with
  | .error e => .error e
  | .ok location => .ok (tree.drop now location)

/-- Whether two nodes are the same regular file. -/
def sameFile : Node → Node → Bool
  | .file a, .file b => a == b
  | _, _ => false

/-- Moves a node to another name. What has that name is replaced, if it may be. -/
def rename (tree : Tree) (now : Instant) (source target : Path) : Except IoError Tree :=
  match tree.locate source.trimSlashes false, tree.place target.trimSlashes false with
  | .error e, _ => .error e
  | _, .error e => .error e
  | .ok location, .ok place =>
    if source.endsInDots || target.endsInDots then .error .busy
    else
    match tree.at? location with
    | none => .error .notFound
    | some node =>
      let move (directory : Location) (n : FileName) : Except IoError Tree := do
        tree.alterableAt location.dropLast
        tree.alterableAt directory
        if node.isDirectory && directory ≠ location.dropLast && !tree.allows node 2 then .error .denied
        else return (tree.drop now location).add now directory n node
      match place with
      | .absent directory n =>
        if location <+: directory then .error .invalid else move directory n
      | .present existing =>
        match tree.at? existing, existing.getLast? with
        | some (.directory es _ _), some n =>
          if existing = location then .ok tree
          else if !node.isDirectory then .error .isDirectory
          else if es.isEmpty then move existing.dropLast n
          else .error .notEmpty
        | some old, some n =>
          if existing = location || sameFile node old then .ok tree
          else if node.isDirectory then .error .notDirectory
          else move existing.dropLast n
        | _, _ => .error .busy

/-- Sets the permission bits of what a path leads to. -/
def setMode (tree : Tree) (mode : Nat → Nat) (p : Path) : Except IoError Tree :=
  match tree.locate p true with
  | .error e => .error e
  | .ok location =>
    match tree.at? location with
    | some (.file number) =>
      .ok (tree.alterRecord number fun r => { r with mode := mode r.mode })
    | _ =>
      .ok (tree.alterAt location fun
        | .directory es m t => .directory es (mode m) t
        | .fifo number m t => .fifo number (mode m) t
        | node => node)

/-- Sets the time of the last change of what a path leads to. A link at its end is followed if
`follow`. -/
def setModifiedOf (tree : Tree) (follow : Bool) (t : Instant) (p : Path) : Except IoError Tree :=
  match tree.locate p follow with
  | .error e => .error e
  | .ok location =>
    match tree.at? location with
    | some (.file number) => .ok (tree.alterRecord number fun r => { r with modified := t })
    | _ =>
      .ok (tree.alterAt location fun
        | .file number => .file number
        | .directory es mode _ => .directory es mode t
        | .link target _ => .link target t
        | .fifo number mode _ => .fifo number mode t
        | .device d _ => .device d t)

/-- Sets the time of the last change of what a path leads to, links followed. -/
def setModified (tree : Tree) (t : Instant) (p : Path) : Except IoError Tree :=
  tree.setModifiedOf true t p

end Tree

/-!
## How many names a file has

A regular file can have names in several directories. A count goes through the whole disk.
-/

mutual

/-- How many names a regular file has at and below a node. -/
def namesBelow (number : Nat) : Node → Nat
  | .file n => if n = number then 1 else 0
  | .directory es _ _ => namesAmong number es
  | .link .. => 0
  | .fifo .. => 0
  | .device .. => 0
termination_by structural node => node

/-- How many names a regular file has among entries and below them. -/
def namesAmong (number : Nat) : List (FileName × Node) → Nat
  | [] => 0
  | (_, node) :: rest => namesBelow number node + namesAmong number rest
termination_by structural es => es

end

/-- How many names a node has. A directory has one in each directory below it too, and one in itself. -/
def Disk.linkCount (disk : Disk) : Node → Nat
  | .file number => namesBelow number disk.top
  | .directory es _ _ => 2 + (es.filter fun e => e.2.isDirectory).length
  | _ => 1

end CrossBench
