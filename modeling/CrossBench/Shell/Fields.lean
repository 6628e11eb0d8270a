import CrossBench.Shell.Pattern
import CrossBench.Shell.Parameters
import CrossBench.Files.Walk

/-!
# From expanded words to arguments

The expansion of a word is a row of letters. `fieldsOf` divides it where values have separators and
where values end, and `pathsOf` puts the names of files in place of a field that is a pattern, if
there are any.
-/

namespace CrossBench.Shell

/-- A text as letters of a value. -/
def valueLetters (s : String) : List Letter := s.toList.map .value

/-- A text as letters that stand for themselves. It is there even if it is empty. -/
def quotedLetters (s : String) : List Letter := if s = "" then [.mark] else s.toList.map .quoted

/-- The text of letters. -/
def lettersText (letters : List Letter) : String := String.ofList ((marksOf letters).map (·.1))

/-- Fields while they are gathered. -/
structure Gathering where
  done : List (List Mark)
  current : Option (List Mark)
  /-- Whether there is only a void in the field. -/
  empty : Bool
  /-- Whether a blank has just ended a field. -/
  blank : Bool

namespace Gathering

/-- The gathering with the field under way ended. -/
def finish (g : Gathering) : Gathering :=
  match g.current with
  | some marks =>
    if marks.isEmpty && g.empty then { g with current := none, empty := false }
    else { g with done := marks.reverse :: g.done, current := none, empty := false }
  | none => { g with empty := false }

/-- The gathering with one more letter. -/
def add (separators : List Char) (g : Gathering) (l : Letter) : Gathering :=
  let keep (m : Mark) : Gathering :=
    { g with current := some (m :: g.current.getD []), blank := false }
  match l with
  | .plain c => keep (c, false)
  | .quoted c => keep (c, true)
  | .mark => { g with current := some (g.current.getD []), blank := false }
  | .void => { g with empty := true }
  | .gap => { g.finish with blank := false }
  | .value c =>
    if !separators.contains c then keep (c, false)
    else if c = ' ' ∨ c = '\t' ∨ c = '\n' then
      match g.current with
      | some _ => { g.finish with blank := true }
      | none => g
    else
      match g.current with
      | some _ => { g.finish with blank := false }
      | none =>
        if g.blank then { g with blank := false } else { g with done := [] :: g.done, blank := false }

end Gathering

/-- The fields of letters. -/
def fieldsOf (separators : String) (letters : List Letter) : List (List Mark) :=
  let s := separators.toList
  (letters.foldl (Gathering.add s) ⟨[], none, false, false⟩).finish.done.reverse

/-- How the names of files are found. -/
structure Finding where
  dialect : Dialect
  /-- Whether patterns may have groups. -/
  groups : Bool
  /-- Whether names that begin with a dot need no dot in the pattern. -/
  hidden : Bool
  fold : Bool
  /-- Whether characters may take several bytes. -/
  wide : Bool
  /-- Whether the names of a directory itself and of the one above it are among the names. -/
  dots : Bool
  /-- Whether two stars stand for any number of directories. -/
  deep : Bool

/-- A field divided at its slashes: what stands between them, each with the slashes behind it. -/
def componentsOf (marks : List Mark) : List (List Mark × List UInt8) :=
  let parts := marks.splitBy fun a b => !(a.1 == '/' && b.1 != '/')
  parts.map fun part =>
    let name := part.takeWhile (·.1 != '/')
    (name, (part.drop name.length).map fun _ => Path.slash)

/-- The text of characters, without backslashes that keep others. -/
def unescapedMarks : List Mark → List Char
  | ('\\', false) :: (c, _) :: rest => c :: unescapedMarks rest
  | (c, _) :: rest => c :: unescapedMarks rest
  | [] => []

mutual

/-- What is at any depth below a node, each with its path behind a front. Links are not followed. -/
def nodesBelow (enterable : Node → Bool) (hidden : Bool) (front : List UInt8) :
    Node → List (List UInt8 × Node)
  | .file _ => []
  | .link .. => []
  | .fifo .. => []
  | .device .. => []
  | .directory es mode t =>
    if enterable (.directory es mode t) then nodesBelowEntries enterable hidden front es else []
termination_by structural node => node

/-- What is at or below the entries of a directory. -/
def nodesBelowEntries (enterable : Node → Bool) (hidden : Bool) (front : List UInt8) :
    List (FileName × Node) → List (List UInt8 × Node)
  | [] => []
  | (n, node) :: rest =>
    (if hidden || n.head? != some Path.dot then
      (front ++ n, node) :: nodesBelow enterable hidden (front ++ n ++ [Path.slash]) node
    else []) ++ nodesBelowEntries enterable hidden front rest
termination_by structural es => es

end

/-- Whether a component stands for any number of directories. -/
def isDeep (how : Finding) (part : List Mark) : Bool :=
  how.deep && part == [('*', false), ('*', false)]

/-- The paths behind a front that a row of components matches; `found` says that a component before
them has been a pattern. -/
def pathsBelow (how : Finding) (tree : Tree) (found : Bool) :
    List (List Mark × List UInt8) → List UInt8 → List (List UInt8)
  | [], front => [front]
  | (part, slashes) :: rest, front =>
    if isDeep how part then
      if rest.head?.any fun next => isDeep how next.1 then pathsBelow how tree found rest front
      else
        match tree.find ⟨if front = [] then [Path.dot] else front⟩ true with
        | .ok (.directory es mode t) =>
          let all := nodesBelow tree.enterable how.hidden front (.directory es mode t)
          if slashes.isEmpty then
            let itself :=
              if found then (front.reverse.dropWhile (· == Path.slash)).reverse else front
            (if front = [] then [] else [itself]) ++ all.map (·.1)
          else if rest.isEmpty then
            (if front = [] then [] else [front])
              ++ (all.filter fun e => tree.isDirectory ⟨e.1⟩).map fun e => e.1 ++ slashes
          else
            let places := (all.filter fun e => e.2.isDirectory).map fun e => e.1 ++ slashes
            pathsBelow how tree true rest front
              ++ places.flatMap fun place => pathsBelow how tree true rest place
        | _ => []
    else if isPattern how.groups part then
      let names := (tree.list ⟨if front = [] then [Path.dot] else front⟩).toOption.getD []
      let dots : List (List UInt8) :=
        if how.dots then [[Path.dot], [Path.dot, Path.dot]] else []
      let hidden : Bool := how.hidden || part.head?.any fun m => m.1 == '.'
      let p := Pattern.ofMarks how.dialect how.groups (Letters.decodeWith how.wide part)
      let found := (dots ++ names).filter fun n =>
        (n.head? != some Path.dot || hidden) && p.accepts how.fold (Letters.decode how.wide (ofBytes n).toList)
      found.flatMap fun n =>
        if slashes.isEmpty then [front ++ n]
        else if tree.isDirectory ⟨front ++ n⟩ then
          pathsBelow how tree true rest (front ++ n ++ slashes)
        else []
    else
      let path := front ++ toBytes (String.ofList (unescapedMarks part))
      if rest.isEmpty && slashes.isEmpty then
        if (tree.find ⟨path⟩ false).toOption.isSome then [path] else []
      else pathsBelow how tree found rest (path ++ slashes)

/-- Whether a path is one of those that patterns say are to be left out. What a pattern matches in it
are its components. -/
def isIgnored (how : Finding) (patterns : List String) (path : String) : Bool :=
  let name := Letters.decode how.wide path.toList
  let parts := name.splitOn '/'
  patterns.any fun p =>
    let globs := (Letters.decode how.wide p.toList).splitOn '/'
    globs.length = parts.length && (globs.zip parts).all fun (g, part) =>
      (Pattern.ofMarks how.dialect how.groups (g.map fun c => (c, false))).accepts how.fold part

/-- The names of the files that a field matches, in ascending order; none if it is no pattern. -/
def pathsOf (how : Finding) (tree : Tree) (marks : List Mark) : List String :=
  if isPattern how.groups marks then
    let found := pathsBelow how tree false (componentsOf marks) []
    let found := found.filter fun p =>
      p.getLast? != some Path.slash || (tree.find ⟨p⟩ true).toOption.isSome
    (found.mergeSort fun a b => a ≤ b).map ofBytes
  else []

end CrossBench.Shell
