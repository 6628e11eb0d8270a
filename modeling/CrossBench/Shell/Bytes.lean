import CrossBench.Path

/-!
# Texts of bytes

Programs pass bytes to one another, and take them for text in which each character stands for the
byte of its number.
-/

namespace CrossBench.Shell

/-- A text as bytes. -/
def toBytes (s : String) : List UInt8 := s.toList.map fun c => UInt8.ofNat c.toNat

/-- Bytes as a text. -/
def ofBytes (bytes : List UInt8) : String := String.ofList (bytes.map fun b => Char.ofNat b.toNat)

/-- The path that a text spells. -/
def pathOf (s : String) : Path := ⟨toBytes s⟩

/-- A text as an array of bytes. -/
def packed (s : String) : ByteArray :=
  s.foldl (fun bytes c => bytes.push (UInt8.ofNat c.toNat)) .empty

/-- An array of bytes as characters. -/
def charsOf (bytes : ByteArray) : List Char := bytes.toList.map fun b => Char.ofNat b.toNat

/-- An array of bytes as a text. -/
def textOf (bytes : ByteArray) : String :=
  bytes.foldl (fun s b => s.push (Char.ofNat b.toNat)) ""

/-- Characters as an array of bytes. -/
def packedChars (cs : List Char) : ByteArray :=
  cs.foldl (fun bytes c => bytes.push (UInt8.ofNat c.toNat)) .empty

/-- The lines of a text: what stands between its line breaks, and what follows the last one if
anything does. -/
def linesOf (cs : List Char) : List (List Char) :=
  let parts := cs.splitBy fun a _ => a != '\n'
  parts.map fun part => if part.getLast? = some '\n' then part.dropLast else part

end CrossBench.Shell
