/-!
# Text in a column, and blank characters

A cell of fixed width is a text cut to at most `precision` characters and then filled up to at
least `width` characters. `Cell.left`, `Cell.right` and `Cell.center` differ only in where the
filling goes; a text that is already wide enough is never cut by its width.

`isBlank` is the `White_Space` property of Unicode. `trimBlank` removes blank characters from both
ends of a text; the diagnostics of a build are trimmed with it.
-/

namespace CrossBench

/-- A text together with the shape of the cell it goes into. -/
structure Cell where
  text : String
  width : Nat
  precision : Option Nat

namespace Cell

/-- The characters that are shown: all of them, or the first `precision`. -/
def shown (cell : Cell) : List Char :=
  match cell.precision with
  | none => cell.text.toList
  | some n => cell.text.toList.take n

/-- How many characters of filling the cell needs. -/
def slack (cell : Cell) : Nat := cell.width - cell.shown.length

/-- The text first, the filling behind it. -/
def left (cell : Cell) (fill : Char) : String :=
  String.ofList (cell.shown ++ List.replicate cell.slack fill)

/-- The filling first, the text behind it. -/
def right (cell : Cell) (fill : Char) : String :=
  String.ofList (List.replicate cell.slack fill ++ cell.shown)

/-- The text in the middle; of an odd filling the smaller half stands in front. -/
def center (cell : Cell) (fill : Char) : String :=
  String.ofList
    (List.replicate (cell.slack / 2) fill ++ cell.shown
      ++ List.replicate (cell.slack - cell.slack / 2) fill)

end Cell

/-- The characters with the `White_Space` property. -/
def isBlank (c : Char) : Bool :=
  let n := c.toNat
  (9 ≤ n && n ≤ 13) || n == 0x20 || n == 0x85 || n == 0xA0 || n == 0x1680
    || (0x2000 ≤ n && n ≤ 0x200A) || n == 0x2028 || n == 0x2029 || n == 0x202F
    || n == 0x205F || n == 0x3000

/-- A text without the blank characters at its two ends. -/
def trimBlank (s : String) : String :=
  String.ofList ((s.toList.dropWhile isBlank).reverse.dropWhile isBlank).reverse

example : trimBlank " \u2003a b\r\n" = "a b" := by decide +kernel

end CrossBench
