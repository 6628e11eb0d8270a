import CrossBench.Files.Node
import CrossBench.Os.Error

/-!
# From paths to nodes

`Tree.place` follows a path through a tree, links included, and ends either at a node or at a free
name in a directory. A path is followed step by step: a name needs a directory that may be searched,
a dot (also the one that a slash at the end stands for) needs a directory, and a link is replaced by
the steps of its target. At most `Tree.linkLimit` links are followed, so a loop of links ends in an
error; the recursion ends for the same reason. A path has at most `Tree.lengthLimit` bytes.

On top of it stand the questions that the harness asks: `isFile`, `isDirectory`, `modified?` and
`list`.
-/

namespace CrossBench

/-- A step on the way that a path describes. -/
inductive Step where
  | here
  | up
  | into (n : FileName)
  deriving DecidableEq

/-- The steps of a path. A slash at the end asks for a directory, as a dot would. -/
def Path.steps (p : Path) : List Step :=
  let parts := Path.segments p.bytes
  let steps := parts.filterMap fun s =>
    if s = [] then none
    else if s = [Path.dot] then some .here
    else if s = [Path.dot, Path.dot] then some .up
    else some (.into s)
  if parts.getLast? = some [] ∧ steps ≠ [] then steps ++ [.here] else steps

/-- What a program sees of a disk: the directory that relative paths start from, and the permission bits
that it keeps from what it makes. To the system the program is the owner of everything. -/
structure Tree where
  disk : Disk
  workdir : Location
  mask : Nat

/-- Where a path leads. -/
inductive Place where
  /-- To the node at this location. -/
  | present (location : Location)
  /-- To a name that is free in the directory at this location. -/
  | absent (directory : Location) (name : FileName)
  deriving DecidableEq

namespace Tree

/-- How many links the system follows on one path. -/
def linkLimit : Nat := 40

/-- How many bytes a path may have. -/
def lengthLimit : Nat := 4095

/-- How many bytes a name may have. -/
def nameLimit : Nat := 255

/-- The node at a location. -/
def at? (tree : Tree) (location : Location) : Option Node := tree.disk.top.at? location

/-- Whether a program may do with a node what one of its bits is for. -/
def allows (tree : Tree) (node : Node) (bit : Nat) : Bool :=
  tree.disk.permits node bit

/-- Whether the names in the directory at a location may be changed, or else the reason. -/
def alterableAt (tree : Tree) (directory : Location) : Except IoError Unit :=
  match tree.at? directory with
  | some node => if tree.allows node 2 && tree.allows node 1 then .ok () else .error .denied
  | none => .error .notFound

/-- The directory at a location that a step is about to be taken in. -/
def directoryAt (tree : Tree) (location : Location) : Except IoError Node :=
  match tree.at? location with
  | some node =>
    if !node.isDirectory then .error .notDirectory
    else if tree.allows node 1 then .ok node
    else .error .denied
  | none => .error .notFound

/-- Follows `steps` from the directory at `location`. A link at the end is followed if `follow`. -/
def placeFrom (tree : Tree) (follow : Bool) (links : Nat) (location : Location) :
    List Step → Except IoError Place
  | [] => .ok (.present location)
  | .here :: rest =>
    match tree.directoryAt location with
    | .error e => .error e
    | .ok _ => placeFrom tree follow links location rest
  | .up :: rest =>
    match tree.directoryAt location with
    | .error e => .error e
    | .ok _ => placeFrom tree follow links location.dropLast rest
  | .into n :: rest =>
    match tree.directoryAt location with
    | .error e => .error e
    | .ok directory =>
      if n.length > nameLimit then .error .nameTooLong
      else
        match directory.entry? n with
        | none => if rest = [] then .ok (.absent location n) else .error .notFound
        | some (.link target _) =>
          if rest = [] ∧ follow = false then .ok (.present (location ++ [n]))
          else
            match links with
            | 0 => .error .linkLoop
            | links + 1 =>
              placeFrom tree follow links (if target.isAbsolute then [] else location)
                (target.steps ++ rest)
        | some _ => placeFrom tree follow links (location ++ [n]) rest
termination_by steps => (links, steps.length)

/-- Where a path leads. The empty path leads nowhere, and the system takes no path with a zero byte. -/
def place (tree : Tree) (p : Path) (follow : Bool) : Except IoError Place :=
  if p.bytes = [] then .error .notFound
  else if 0 ∈ p.bytes then .error .embeddedZero
  else if lengthLimit < p.bytes.length then .error .nameTooLong
  else tree.placeFrom follow linkLimit (if p.isAbsolute then [] else tree.workdir) p.steps

/-- The location of the node that a path leads to. -/
def locate (tree : Tree) (p : Path) (follow : Bool) : Except IoError Location :=
  match tree.place p follow with
  | .error e => .error e
  | .ok (.present location) => .ok location
  | .ok (.absent ..) => .error .notFound

/-- The node that a path leads to. A link at its end is followed if `follow`. -/
def find (tree : Tree) (p : Path) (follow : Bool) : Except IoError Node :=
  match tree.locate p follow with
  | .error e => .error e
  | .ok location =>
    match tree.at? location with
    | some node => .ok node
    | none => .error .notFound

/-- The location of the directory that a path leads to, if a program may go there. -/
def enter (tree : Tree) (p : Path) : Except IoError Location := do
  let location ← tree.locate p true
  let _ ← tree.directoryAt location
  return location

/-- Whether a path leads to a regular file, links followed. -/
def isFile (tree : Tree) (p : Path) : Bool :=
  match tree.find p true with
  | .ok node => node.isFile
  | .error _ => false

/-- Whether a path leads to a directory, links followed. -/
def isDirectory (tree : Tree) (p : Path) : Bool :=
  match tree.find p true with
  | .ok node => node.isDirectory
  | .error _ => false

/-- The time of the last change of what a path leads to, links followed. -/
def modified? (tree : Tree) (p : Path) : Option Instant :=
  match tree.find p true with
  | .ok node => some (tree.disk.modified node)
  | .error _ => none

/-- The names in a directory, in enumeration order. -/
def list (tree : Tree) (p : Path) : Except IoError (List FileName) :=
  match tree.find p true with
  | .error e => .error e
  | .ok node =>
    if !node.isDirectory then .error .notDirectory
    else if tree.allows node 4 then .ok (node.entries.map (·.1))
    else .error .denied

/-- The bytes of the file that a path leads to. -/
def contents (tree : Tree) (p : Path) : Except IoError ByteArray :=
  match tree.find p true with
  | .error e => .error e
  | .ok (.file number) =>
    if tree.allows (.file number) 4 then .ok (tree.disk.record number).data else .error .denied
  | .ok (.directory ..) => .error .isDirectory
  | .ok _ => .ok .empty

/-- The bytes of the file that a path leads to, as a list. -/
def read (tree : Tree) (p : Path) : Except IoError (List UInt8) :=
  match tree.contents p with
  | .error e => .error e
  | .ok bytes => .ok bytes.toList

end Tree

end CrossBench
