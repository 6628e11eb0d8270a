import CrossBench.Files.Resolve

/-!
# Everything below a directory

`Tree.regularFiles` lists the regular files at or below a path, at any depth, each once, with the
time of its last change. Links below the path are not followed and are not regular files; a path
that is itself a link to a directory is entered, and one that is a link to a file is not a regular
file. A directory that cannot be listed contributes nothing, and neither does a path that leads
nowhere, nor a file or a directory so deep that its path is longer than a path may be.
-/

namespace CrossBench

mutual

/-- The regular files at or below a node that stands at the path `p`, by path and number. -/
def Node.regularFiles (enterable : Node → Bool) (p : Path) : Node → List (Path × Nat)
  | .file number => if p.bytes.length ≤ Tree.lengthLimit then [(p, number)] else []
  | .link .. => []
  | .fifo .. => []
  | .device .. => []
  | .directory es mode t =>
    if p.bytes.length ≤ Tree.lengthLimit && enterable (.directory es mode t) then
      regularFilesOf enterable p es
    else []
termination_by structural node => node

/-- The regular files at or below the entries of the directory at `p`. -/
def Node.regularFilesOf (enterable : Node → Bool) (p : Path) :
    List (FileName × Node) → List (Path × Nat)
  | [] => []
  | (n, node) :: rest =>
    node.regularFiles enterable (p.child n) ++ regularFilesOf enterable p rest
termination_by structural es => es

end

namespace Tree

/-- Whether the entries of a directory can be listed and looked at. -/
def enterable (tree : Tree) (node : Node) : Bool := tree.allows node 4 && tree.allows node 1

/-- The regular files at or below a path, by path and number. -/
def filesBelow (tree : Tree) (p : Path) : List (Path × Nat) :=
  match tree.find p false with
  | .error _ => []
  | .ok (.link ..) =>
    match tree.find p true with
    | .ok (.directory es mode t) => (Node.directory es mode t).regularFiles tree.enterable p
    | _ => []
  | .ok node => node.regularFiles tree.enterable p

/-- The regular files at or below a path, each with the time of its last change. -/
def regularFiles (tree : Tree) (p : Path) : List (Path × Instant) :=
  (tree.filesBelow p).map fun (path, number) => (path, (tree.disk.record number).modified)

end Tree

end CrossBench
