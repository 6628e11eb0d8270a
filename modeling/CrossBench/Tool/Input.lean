import CrossBench.Tool.Arguments

/-!
# What programs read

A program reads files by their names, of which a hyphen stands for the standard input, as a whole or
piece by piece: what comes out of a pipe may have no end.
-/

namespace CrossBench.Tool

open Shell Shell.Act

/-- The first descriptor for the files of a program. -/
def firstFile : Nat := 3

/-- Opens a file to read it; its descriptor. -/
def openInput (name : String) : Act (Except IoError Nat) := do
  if name = "-" then return .ok 0
  else
    let fd ← freeFrom firstFile
    match ← openAt fd (pathOf name) .reading 0 with
    | .ok () => return .ok fd
    | .error e => return .error e

/-- Closes a file. -/
def closeInput (fd : Nat) : Act Unit := if fd = 0 then return () else close fd

/-- Does something with an open file, and closes it. -/
def withInput {α : Type} (name : String) (act : Nat → Act (Except IoError α)) :
    Act (Except IoError α) := do
  match ← openInput name with
  | .error e => return .error e
  | .ok fd =>
    let result ← act fd
    closeInput fd
    return result

/-- The bytes of a file. -/
def contents (name : String) : Act (Except IoError ByteArray) := withInput name readAll

/-- Goes through a file block by block until `act` has had enough. -/
def foldBlocks {α : Type} (fd : Nat) (first : α) (act : α → ByteArray → Act (α × Bool)) :
    Act (Except IoError α) :=
  repeating first fun a => do
    match ← readSome fd blockSize with
    | .error e => return .inr (.error e)
    | .ok bytes =>
      if bytes.isEmpty then return .inr (.ok a)
      else
        let (a, more) ← act a bytes
        return if more then .inl a else .inr (.ok a)

/-- Goes through a file line by line until `act` has had enough. Lines end with the byte `stop`, which
the last of them may lack. -/
def foldLinesBy {α : Type} (stop : UInt8) (fd : Nat) (first : α)
    (act : α → List Char → Act (α × Bool)) : Act (Except IoError α) :=
  repeating first fun a => do
    match ← readTo fd stop with
    | .error e => return .inr (.error e)
    | .ok bytes =>
      if bytes.isEmpty then return .inr (.ok a)
      else
        let whole := bytes.data.back? == some stop
        let line := charsOf (if whole then bytes.extract 0 (bytes.size - 1) else bytes)
        let (a, more) ← act a line
        return if more then .inl a else .inr (.ok a)

/-- Goes through the lines of a file. -/
def foldLines {α : Type} (fd : Nat) (first : α) (act : α → List Char → Act (α × Bool)) :
    Act (Except IoError α) := foldLinesBy 10 fd first act

/-- The byte at which lines end. -/
def lineEnd (zero : Bool) : UInt8 := if zero then 0 else 10

/-- The character at which lines end. -/
def lineMark (zero : Bool) : Char := if zero then Char.ofNat 0 else '\n'

/-- The lines of characters that end with a mark. -/
def linesBy (mark : Char) (cs : List Char) : List (List Char) :=
  let parts := cs.splitBy fun a _ => a != mark
  parts.map fun part => if part.getLast? = some mark then part.dropLast else part

/-- Why a file cannot be read. -/
def unreadable (name : String) (e : IoError) : String := named name ++ ": " ++ e.plainMessage

/-- Prints lines. -/
def outLines (mark : Char) (lines : List (List Char)) : Act Unit :=
  outChars (lines.flatMap (· ++ [mark]))

/-- The files of a call: the standard input if there are none. -/
def orInput (files : List String) : List String := if files.isEmpty then ["-"] else files

/-- Does something with each file, and says why one cannot be read. -/
def eachInput (why : String → IoError → String) (files : List String)
    (act : String → Nat → Act (Except IoError Unit)) : Act Nat :=
  forAll (orInput files) fun name => do
    match ← withInput name (act name) with
    | .ok () => return true
    | .error e =>
      say (why name e)
      return false

/-- White space. -/
def isSpace (c : Char) : Bool := c == ' ' || ('\t' ≤ c && c ≤ '\r')

/-- The position of the open file that a descriptor leads to moves back, if it is a regular file: what
has been read too much is left to others. -/
def giveBack (fd count : Nat) : Act Unit := alter fun pid k =>
  match k.opened? pid fd with
  | some (number, f) =>
    match f.channel with
    | .file _ => k.alterOpen number fun f => { f with position := f.position - count }
    | _ => k
  | none => k

end CrossBench.Tool
