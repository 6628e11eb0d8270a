import CrossBench.Text.Utf8

/-!
# Paths

A path is a byte string. Its *components* are the parts between slashes, where empty parts and
parts that are a single dot are dropped, except that a leading slash is a component of its own
(`root`) and so is a dot that the path begins with (`here`). Everything that the harness reads off a
path is read off its components:

* `fileName?` is the last component if it is a proper name;
* `extension?` is what follows the last dot of that name, provided something stands before the dot.

`join` appends one path to another; an absolute right side replaces the left one, and joining the
empty path leaves a slash at the end.

`toText` is the text of a path for messages, with U+FFFD for ill-formed bytes; `text?` is the exact
text of a path that has one.
-/

namespace CrossBench

/-- The name of a directory entry: the bytes between two slashes. -/
abbrev FileName := List UInt8

/-- A path as the operating system takes it. -/
structure Path where
  bytes : List UInt8
  deriving DecidableEq, Inhabited

/-- One step of a path. -/
inductive Component where
  | root
  | here
  | parent
  | name (n : FileName)
  deriving DecidableEq

namespace Path

/-- The byte of `/`. -/
def slash : UInt8 := 0x2F

/-- The byte of `.`. -/
def dot : UInt8 := 0x2E

/-- The path that a text spells. -/
def ofText (s : String) : Path := ⟨Utf8.encode s⟩

/-- The text of a path for messages. -/
def toText (p : Path) : String := Utf8.decodeLossy p.bytes

/-- The exact text of a path, if its bytes are well-formed. -/
def text? (p : Path) : Option String := Utf8.decode? p.bytes

/-- The parts of a byte string between slashes, empty ones included. -/
def segments : List UInt8 → List FileName
  | [] => [[]]
  | b :: rest =>
    if b = slash then [] :: segments rest
    else
      match segments rest with
      | [] => [[b]]
      | first :: more => (b :: first) :: more

/-- A path that begins with a slash. -/
def isAbsolute (p : Path) : Bool := p.bytes.head? == some slash

/-- The component of a segment in the middle of a path. -/
def componentOf? (s : FileName) : Option Component :=
  if s = [] ∨ s = [dot] then none
  else if s = [dot, dot] then some .parent
  else some (.name s)

/-- The components of a path. -/
def components (p : Path) : List Component :=
  let start : List Component :=
    if p.isAbsolute then [.root]
    else if (segments p.bytes).head? = some [dot] then [.here]
    else []
  start ++ (segments p.bytes).filterMap componentOf?

/-- The last component, if it is a proper name. -/
def fileName? (p : Path) : Option FileName :=
  match p.components.getLast? with
  | some (.name n) => some n
  | _ => none

/-- A name divided at its last dot. -/
def splitLastDot (n : FileName) : Option (FileName × FileName) :=
  let ext := (n.reverse.takeWhile (· != dot)).reverse
  if dot ∈ n then some (n.take (n.length - ext.length - 1), ext) else none

/-- The part of a name behind its last dot; a name whose only dot is its first byte has none. -/
def extensionOf (n : FileName) : Option FileName :=
  match splitLastDot n with
  | some (stem, ext) => if stem = [] then none else some ext
  | none => none

/-- The extension of a path: that of its file name. -/
def extension? (p : Path) : Option FileName := p.fileName?.bind extensionOf

/-- `p` followed by `q`. -/
def join (p q : Path) : Path :=
  if q.isAbsolute then q
  else
    match p.bytes.getLast? with
    | none => q
    | some b => if b = slash then ⟨p.bytes ++ q.bytes⟩ else ⟨p.bytes ++ slash :: q.bytes⟩

/-- `p` followed by one name. -/
def child (p : Path) (n : FileName) : Path := p.join ⟨n⟩

/-- A path up to its last slash. -/
def parent (p : Path) : Path := ⟨(p.bytes.reverse.dropWhile (· != slash)).reverse⟩

/-- The name under which a file or suite is reported: its file name, or the whole path if it has
none (it ends in `..`, or is a root). -/
def label (p : Path) : String :=
  match p.fileName? with
  | some n => Utf8.decodeLossy n
  | none => p.toText

end Path

end CrossBench
