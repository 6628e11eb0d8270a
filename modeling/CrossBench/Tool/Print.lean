import CrossBench.Shell.Print.Format
import CrossBench.Tool.Input

/-!
# Programs that print

What these programs print depends on nothing but their arguments. `seq` prints the numbers from a first one
to a last one by steps. Numbers have as many digits behind the point as those that are given, and are as
exact as 64 binary digits allow.
-/

namespace CrossBench.Tool

open Shell Shell.Act

/-- Prints its arguments. -/
def echo : Act Nat := do
  let s ← get
  out (optionEcho s.isWide .toolEcho false true s.arguments)
  return 0

/-- Prints its arguments as the first of them says. -/
def printf : Act Nat := do
  let arguments := (← get).arguments
  let arguments := if arguments.head? = some "--" then arguments.drop 1 else arguments
  match arguments with
  | [] => misuse 1 "missing operand"
  | form :: more =>
    let t ← now
    let printed := Printing.tool.print ⟨(← get).isWide, t, t, (← get).zone⟩ form more
    let (parts, last) := printed.parts
    parts.forM fun (text, complaint) => do
      out text
      say complaint
    out last
    let left := printed.arguments
    if !left.isEmpty && left.length = more.length && !printed.ended then
      say ("warning: ignoring excess arguments, starting with " ++ cited (left.headD ""))
    return printed.status

/-- Prints a line again and again. -/
def yes : Act Nat := do
  let g ← given {}
  let words := if g.operands.isEmpty then ["y"] else g.operands
  let line := packed (" ".intercalate words ++ "\n")
  let block := (List.range (4096 / line.size + 1)).foldl (fun b _ => b ++ line) ByteArray.empty
  again do
    outBytes block
    return true
  return 1

end CrossBench.Tool

namespace CrossBench.Tool.Sequence

open Shell Shell.Act
open Decimal (Magnitude)

/-! ## Ranges of numbers -/

/-- A quotient. -/
structure Fraction where
  num : Int
  den : Nat

/-- The nearest quotient that has 64 binary digits. -/
def nearest (num : Int) (den : Nat) : Fraction :=
  let (n, d) := Decimal.nearest 64 num.natAbs den
  ⟨if num < 0 then -(n : Int) else n, d⟩

namespace Fraction

/-- Which of two quotients is less. -/
def order (a b : Fraction) : Ordering := compare (a.num * b.den) (b.num * a.den)

/-- A quotient and so many times another one. -/
def plus (a : Fraction) (i : Nat) (step : Fraction) : Fraction :=
  let product := nearest (step.num * i) step.den
  nearest (a.num * product.den + product.num * a.den) (a.den * product.den)

/-- A quotient as a conversion has it. -/
def text (c : Shell.Conversion) (a : Fraction) : List Char :=
  Printing.fractionText c (a.num < 0) (.quotient a.num.natAbs a.den)

end Fraction

/-- A number that is given: its value, unless that is infinite, how wide it is as a text, and how many of
its digits stand behind the point. -/
structure Operand where
  value : Option Fraction
  negative : Bool
  width : Int
  places : Option Nat

/-- The number that a text is, and none if it is no number. -/
def Operand.ofText? (text : String) : Option Operand :=
  let cs := text.toList.dropWhile fun c => isSpace c || c == '+'
  match leadingNumber? 64 cs with
  | none => none
  | some l =>
    if l.rest ≠ [] then none
    else
      match l.magnitude with
      | .nan => none
      | .infinite => some ⟨none, l.negative, 0, none⟩
      | .quotient num den =>
        let value : Fraction := ⟨if l.negative then -(num : Int) else num, den⟩
        if cs.any fun c => c == 'x' || c == 'X' then some ⟨some value, l.negative, 0, none⟩
        else
          let mantissa := cs.takeWhile fun c => c != 'e' && c != 'E'
          let front := mantissa.takeWhile (· != '.')
          let pointed := mantissa.contains '.'
          let fraction := mantissa.drop (front.length + 1)
          let width : Int :=
            mantissa.length
              + if !pointed then 0 else if fraction = [] then -1
                else if front.getLast?.any Char.isDigit then 0 else 1
          match cs.drop mantissa.length with
          | [] => some ⟨some value, l.negative, width, some fraction.length⟩
          | _ :: e =>
            let down := e.head? == some '-'
            let n := ((e.filter Char.isDigit).foldl (fun n c => n * 10 + (c.toNat - 48)) 0)
            let places := if down then fraction.length + n else fraction.length - n
            let width := width + (if down && (!pointed || fraction = []) then 1 else 0) + n
            some ⟨some value, l.negative, width, some places⟩

/-- How numbers are printed: with texts in front of them and behind them. -/
structure Form where
  front : List Char
  conversion : Shell.Conversion
  behind : List Char

/-- A conversion with so many places in a field of some width. -/
def fixed (width places : Nat) : Shell.Conversion :=
  { written := [], flags := ['0'], width := some width, precision := some places, letter := 'f', inner := [] }

/-- Reads a form; the complaint about one that cannot be used. -/
def Form.ofText (text : String) : Except String Form :=
  let rec literal : Nat → List Char → List Char × Option (List Char)
    | 0, _ => ([], none)
    | _, [] => ([], none)
    | n + 1, '%' :: '%' :: rest =>
      let (t, after) := literal n rest
      ('%' :: t, after)
    | _, '%' :: rest => ([], some rest)
    | n + 1, c :: rest =>
      let (t, after) := literal n rest
      (c :: t, after)
  let form := "format " ++ cited text
  match literal (text.length + 1) text.toList with
  | (_, none) => .error (form ++ " has no % directive")
  | (front, some rest) =>
    let flags := rest.takeWhile fun c => "-+#0 '".toList.contains c
    let rest := rest.drop flags.length
    let number (ds : List Char) : Nat := ds.foldl (fun n c => n * 10 + (c.toNat - 48)) 0
    let width := rest.takeWhile Char.isDigit
    let rest := rest.drop width.length
    let (places, rest) : Option (List Char) × List Char :=
      match rest with
      | '.' :: rest =>
        let ds := rest.takeWhile Char.isDigit
        (some ds, rest.drop ds.length)
      | rest => (none, rest)
    let rest := if rest.head? == some 'L' then rest.drop 1 else rest
    match rest with
    | [] => .error (form ++ " ends in %")
    | letter :: rest =>
      if !"efgaEFGA".toList.contains letter then
        .error (form ++ " has unknown %" ++ String.singleton letter ++ " directive")
      else
        match literal (rest.length + 1) rest with
        | (_, some _) => .error (form ++ " has too many % directives")
        | (behind, none) =>
          .ok ⟨front,
            { written := [], flags, width := if width = [] then none else some (number width : Int)
              precision := places.map fun ds => (number ds : Int), letter, inner := [] }, behind⟩

/-- The form of numbers for which none is given. -/
def Form.usual (first step last : Operand) (equal : Bool) : Form :=
  match first.places, step.places, last.places with
  | some a, some b, some c =>
    let places := max a b
    if !equal then ⟨[], { fixed 0 places with flags := [], width := none }, []⟩
    else
      let point (had : Nat) : Int := if had = 0 && 0 < places then 1 else 0
      let firstWidth := first.width + (places - a : Int) + point a
      let lastWidth := last.width + ((places : Int) - c) + point c - (if 0 < c && places = 0 then 1 else 0)
      ⟨[], fixed (max firstWidth lastWidth).toNat places, []⟩
  | _, _, _ => ⟨[], { fixed 0 0 with flags := [], width := none, precision := none, letter := 'g' }, []⟩

/-- A number in a form. -/
def Form.text (f : Form) (a : Fraction) : List Char := f.front ++ a.text f.conversion ++ f.behind

/-- Whether a number is beyond the last one. -/
def beyond (step : Fraction) (last : Operand) (a : Fraction) : Bool :=
  match last.value with
  | none => last.negative != decide (step.num < 0)
  | some b => if step.num < 0 then a.order b == .lt else b.order a == .lt

/-- Whether a number that is beyond the last one is printed like it, and unlike the one in front. -/
def isExtra (f : Form) (last : Operand) (before a : Fraction) : Bool :=
  match last.value, leadingNumber? 64 (a.text f.conversion) with
  | some b, some l =>
    match l.magnitude with
    | .quotient num den =>
      let shown : Fraction := ⟨if l.negative then -(num : Int) else num, den⟩
      shown.order b == .eq && a.text f.conversion ≠ before.text f.conversion
    | _ => false
  | _, _ => false

/-- Prints the numbers of a range. -/
def seq : Act Nat := do
  let rec guarded : List String → List String
    | [] => []
    | a :: rest =>
      match a.toList with
      | '-' :: c :: _ =>
        if c.isDigit || c == '.' then "--" :: a :: rest
        else if a = "--" then a :: rest
        else a :: guarded rest
      | _ => a :: rest
  modify fun s => { s with arguments := guarded s.arguments }
  let g ← given
    { letters := "w", valued := "fs", words := [("equal-width", "w")], anywhere := false
      valuedWords := [("format", "f"), ("separator", "s")] }
  let words := g.operands
  if words.isEmpty then misuse 1 "missing operand"
  if let some d := words[3]? then misuse 1 ("extra operand " ++ cited d)
  let form : Option Form ←
    match g.value? "f" with
    | none => pure none
    | some text =>
      match Form.ofText text with
      | .ok f => pure (some f)
      | .error why => stop 1 why
  if form.isSome && g.has "w" then
    misuse 1 "format string may not be specified when printing equal width strings"
  let operand (a : String) : Act Operand := do
    match Operand.ofText? a with
    | some n => return n
    | none =>
      let cs := a.toList.dropWhile fun c => isSpace c || c == '+' || c == '-'
      if (cs.take 3).map Char.toLower = ['n', 'a', 'n'] && cs.length = 3 then
        misuse 1 ("invalid " ++ cited "not-a-number" ++ " argument: " ++ cited a)
      else misuse 1 ("invalid floating point argument: " ++ cited a)
  let one : Operand := ⟨some ⟨1, 1⟩, false, 1, some 0⟩
  let (first, step, last) ←
    match words with
    | [a, b] => do pure (← operand a, one, ← operand b)
    | [a, m, b] => do pure (← operand a, ← operand m, ← operand b)
    | _ => do pure (one, one, ← operand (words.headD ""))
  if step.value.any fun v => v.num = 0 then
    misuse 1 ("invalid Zero increment value: " ++ cited (words.getD 1 ""))
  let whole := words.map fun w => if w.toList.all Char.isDigit && w ≠ "" then decimal? w else none
  if whole.all Option.isSome && form.isNone && !g.has "w" && words.length < 3 then
    let ns := whole.filterMap id
    let low := if ns.length = 1 then 1 else ns.headD 0
    countUp ((g.value? "s").getD "\n") low (ns.getLastD 0)
    return 0
  let f := form.getD (Form.usual first step last (g.has "w"))
  let separator := ((g.value? "s").getD "\n").toList
  let start := first.value.getD ⟨0, 1⟩
  let by_ := step.value.getD ⟨1, 1⟩
  if first.value.isNone || beyond by_ last start then return 0
  outChars (f.text start)
  repeating (1, start) fun (i, before) => do
    let (texts, i, before, more) := block f separator start by_ last 500 i before []
    outChars texts.reverse.flatten
    return if more then .inl (i, before) else .inr ()
  out "\n"
  return 0
where
  /-- Prints the natural numbers of a range. -/
  countUp (separator : String) (low high : Nat) : Act Unit := do
    if low ≤ high then
      repeating low fun n => do
        let stop := min (high + 1) (n + 1000)
        out (separator.intercalate ((List.range (stop - n)).map fun i => toString (n + i))
          ++ if stop ≤ high then separator else "\n")
        return if stop ≤ high then .inl stop else .inr ()
  /-- Some of the numbers behind the first one, the latest first. -/
  block (f : Form) (separator : List Char) (start by_ : Fraction) (last : Operand) :
      Nat → Nat → Fraction → List (List Char) → List (List Char) × Nat × Fraction × Bool
    | 0, i, before, texts => (texts, i, before, true)
    | n + 1, i, before, texts =>
      let a := start.plus i by_
      if !beyond by_ last a then
        block f separator start by_ last n (i + 1) a (f.text a :: separator :: texts)
      else if isExtra f last before a then (f.text a :: separator :: texts, i, a, false)
      else (texts, i, before, false)

end CrossBench.Tool.Sequence
