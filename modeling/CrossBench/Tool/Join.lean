import CrossBench.Tool.Order

/-!
# Lines of two files

`comm` and `join` go through two files whose lines are in order, side by side. Where the lines turn out not
to be in order they say so, in general only after a line has come up that the other file does not have.
-/

namespace CrossBench.Tool

open Shell Shell.Act

/-- Reads the lines of the two files of a call. -/
def twoInputs (g : Given) (mark : Char) (extra : String → String) :
    Act (List (List Char) × List (List Char)) := do
  match g.operands with
  | [] => misuse 1 "missing operand"
  | [a] => misuse 1 ("missing operand after " ++ cited a)
  | [a, b] =>
    let read (name : String) : Act (List (List Char)) := do
      match ← contents name with
      | .ok bytes => return linesBy mark (charsOf bytes)
      | .error e => stop 1 (unreadable name e)
    let x ← read a
    let y ← read b
    return (x, y)
  | _ :: _ :: c :: _ => misuse 1 ("extra operand " ++ extra c)

/-- What is being said about the order of two files. -/
structure OrderCheck where
  unpaired : Bool
  first : Bool
  second : Bool

/-- Says that a file is not in order, unless that has been said. -/
def noteOrder (strict : Bool) (which : Nat) (lines : List (List Char)) (c : OrderCheck) : Act OrderCheck := do
  match lines with
  | a :: b :: _ =>
    let known := if which = 1 then c.first else c.second
    if (c.unpaired || strict) && !known && SortKey.compareTexts b a == .lt then
      say ("file " ++ toString which ++ " is not in sorted order")
      return if which = 1 then { c with first := true } else { c with second := true }
    else return c
  | _ => return c

/-- Compares two files whose lines are in order. -/
def comm : Act Nat := do
  let g ← given
    { letters := "123z"
      words := [("check-order", "check"), ("nocheck-order", "nocheck"), ("total", "total"),
        ("zero-terminated", "z")]
      valuedWords := [("output-delimiter", "delimiter")] }
  if 1 < (g.values "delimiter").eraseDups.length then stop 1 "multiple output delimiters specified"
  let mark := lineMark (g.has "z")
  let (x, y) ← twoInputs g mark fun c => cited c
  let gap := ((g.value? "delimiter").map String.toList).getD ['\t']
  let gap := if gap = [] then [Char.ofNat 0] else gap
  let column (n : Nat) (line : List Char) : Act Unit :=
    if g.has (toString n) then return ()
    else
      let before := (List.range (n - 1)).filter fun i => !g.has (toString (i + 1))
      outChars (before.flatMap (fun _ => gap) ++ line ++ [mark])
  let strict := g.has "check"
  let check (which : Nat) (lines : List (List Char)) (c : OrderCheck) : Act OrderCheck :=
    if g.has "nocheck" then return c
    else do
      let after ← noteOrder strict which lines c
      if strict && (after.first || after.second) then gone 1
      return after
  let (counts, c) ← repeating (x, y, ((0, 0, 0) : Nat × Nat × Nat), (⟨false, false, false⟩ : OrderCheck))
    fun (x, y, (m, n, k), c) => do
      match x, y with
      | [], [] => return .inr ((m, n, k), c)
      | a :: x', [] =>
        column 1 a
        let c := { c with unpaired := true }
        let c ← check 1 (a :: x') c
        return .inl (x', [], (m + 1, n, k), c)
      | [], b :: y' =>
        column 2 b
        let c := { c with unpaired := true }
        let c ← check 2 (b :: y') c
        return .inl ([], y', (m, n + 1, k), c)
      | a :: x', b :: y' =>
        match SortKey.compareTexts a b with
        | .eq =>
          column 3 a
          let c ← check 1 (a :: x') c
          let c ← check 2 (b :: y') c
          return .inl (x', y', (m, n, k + 1), c)
        | .lt =>
          column 1 a
          let c := { c with unpaired := true }
          let c ← check 1 (a :: x') c
          return .inl (x', b :: y', (m + 1, n, k), c)
        | .gt =>
          column 2 b
          let c := { c with unpaired := true }
          let c ← check 2 (b :: y') c
          return .inl (a :: x', y', (m, n + 1, k), c)
  if g.has "total" then
    let d := String.ofList gap
    out (toString counts.1 ++ d ++ toString counts.2.1 ++ d ++ toString counts.2.2 ++ d ++ "total\n")
  if c.first || c.second then stop 1 "input is not in sorted order"
  return 0

/-! ## Fields in common -/

/-- What lines are divided at. -/
inductive Divider where
  | blanks
  | char (c : Char)
  /-- A line is one field. -/
  | never

/-- The fields of a line. Blanks behind the last field make one more, which is empty. -/
def Divider.fields (d : Divider) (line : List Char) : List (List Char) :=
  if line = [] then []
  else
    match d with
    | .char t => line.splitOn t
    | .never => [line]
    | .blanks =>
      let line := line.dropWhile SortKey.isBlank
      let runs := line.splitBy fun a b => SortKey.isBlank a == SortKey.isBlank b
      let parts := runs.filter fun part => !part.any SortKey.isBlank
      if line.getLast?.any SortKey.isBlank then parts ++ [[]] else parts

/-- A field that is printed: of the first or of the second file, or the one in common. -/
inductive Shown where
  | common
  | field (second : Bool) (n : Nat)

/-- Reads which field is meant, counted from 1. -/
def fieldNumber (text : String) : Except String Nat :=
  match (decimal? text).filter (0 < ·) with
  | some n => .ok (n - 1)
  | none => .error ("invalid field number: " ++ cited text)

/-- Reads which fields are printed. -/
def shownFields (text : String) : Except String (List Shown) :=
  let words := (((text.splitOn ",").flatMap (·.splitOn " ")).flatMap (·.splitOn "\t")).filter (· ≠ "")
  words.mapM fun w =>
    match w.toList with
    | ['0'] => .ok .common
    | '0' :: _ => .error ("invalid field specifier: " ++ cited w)
    | which :: rest =>
      if which = '1' || which = '2' then
        match rest with
        | '.' :: ds => (fieldNumber (String.ofList ds)).map (.field (which = '2'))
        | _ => .error ("invalid field specifier: " ++ cited w)
      else .error ("invalid file number in field spec: " ++ cited w)
    | [] => .ok .common

/-- A line with its fields. -/
structure Row where
  line : List Char
  fields : List (List Char)

/-- How lines are joined. -/
structure Joining where
  /-- The places of the fields in common. -/
  first : Nat
  second : Nat
  folds : Bool
  gap : Char
  mark : Char
  filling : List Char
  shown : Option (List Shown)
  /-- How many fields the lines of each file are taken to have. -/
  counts : Option (Nat × Nat)

namespace Joining

/-- The field in common, of one of the files. -/
def key (j : Joining) (second : Bool) (r : Row) : List Char :=
  let cs := r.fields.getD (if second then j.second else j.first) []
  if j.folds then cs.map Char.toLower else cs

/-- The order of a field of one file and a field of another. -/
def compareRows (j : Joining) (sides : Bool × Bool) (a b : Row) : Ordering :=
  SortKey.compareTexts (j.key sides.1 a) (j.key sides.2 b)

/-- A field as it is printed. -/
def field (j : Joining) (n : Nat) (r : Option Row) : List Char :=
  let cs := (r.map fun r => r.fields.getD n []).getD []
  if cs = [] then j.filling else cs

/-- The line for a line of each file, or of one of them. -/
def text (j : Joining) (a b : Option Row) : List Char :=
  let common := if a.isSome then j.field j.first a else j.field j.second b
  let parts :=
    match j.shown with
    | some shown =>
      shown.map fun s =>
        match s with
        | .common => common
        | .field second n => j.field n (if second then b else a)
    | none =>
      let others (count : Nat) (place : Nat) (r : Option Row) : List (List Char) :=
        ((List.range count).filter (· ≠ place)).map fun n => j.field n r
      let count (auto : Nat × Nat → Nat) (r : Option Row) : Nat :=
        (j.counts.map auto).getD ((r.map fun r => r.fields.length).getD 0)
      common :: others (count Prod.fst a) j.first a ++ others (count Prod.snd b) j.second b
  [j.gap].intercalate parts ++ [j.mark]

end Joining

/-- The lines of a file from the one that has been read last. -/
structure Side where
  name : String
  second : Bool
  rows : List Row
  /-- The number of that line. -/
  number : Nat
  /-- Whether it has been said that the lines are not in order. -/
  warned : Bool

/-- Reads the next line. `heeds` tells whether the order of lines matters, and `strict` whether it has to be
right. -/
def Side.advance (s : Side) (j : Joining) (heeds strict : Bool) : Act Side := do
  match s.rows with
  | a :: b :: rest =>
    let number := s.number + 1
    let bad := heeds && !s.warned && j.compareRows (s.second, s.second) a b == .gt
    if bad then
      say (s.name ++ ":" ++ toString number ++ ": is not sorted: " ++ String.ofList b.line)
      if strict then gone 1
    return { s with rows := b :: rest, number, warned := s.warned || bad }
  | _ => return { s with rows := [] }

/-- Joins the lines of two files that have a field in common. -/
def join : Act Nat := do
  let g ← given
    { letters := "iz", valued := "12aejotv"
      words := [("ignore-case", "i"), ("header", "header"), ("check-order", "check"),
        ("nocheck-order", "nocheck"), ("zero-terminated", "z")] }
  let get {α : Type} (e : Except String α) : Act α := do
    match e with
    | .ok a => return a
    | .error why => stop 1 why
  let files (letter : String) : Act (List Nat) := (g.values letter).mapM fun text => do
    match decimal? text with
    | some 1 => return 1
    | some 2 => return 2
    | _ => stop 1 ("invalid field number: " ++ cited text)
  let unpaired ← files "a"
  let alone ← files "v"
  let divider ←
    match g.value? "t" with
    | none => pure Divider.blanks
    | some "" => pure Divider.never
    | some "\\0" => pure (Divider.char (Char.ofNat 0))
    | some text =>
      if text.length = 1 then pure (Divider.char (text.toList.headD ' '))
      else stop 1 ("multi-character tab " ++ cited text)
  let place (letter : String) : Act Nat := do
    let values := (g.values letter ++ g.values "j")
    let places ← values.mapM fun v => get (fieldNumber v)
    match places.eraseDups with
    | a :: b :: _ => stop 1 ("incompatible join fields " ++ toString (a + 1) ++ ", " ++ toString (b + 1))
    | places => return places.headD 0
  let first ← place "1"
  let second ← place "2"
  let auto := (g.values "o").contains "auto"
  let chosen := (g.values "o").filter (· ≠ "auto")
  let shown ← if chosen.isEmpty then pure none else do pure (some (← get (shownFields (",".intercalate chosen))))
  let mark := lineMark (g.has "z")
  if g.operands = ["-", "-"] then
    stop 1 "both files cannot be standard input: No such file or directory"
  let (x, y) ← twoInputs g mark fun c => quoted c
  let rows (lines : List (List Char)) : List Row := lines.map fun l => ⟨l, divider.fields l⟩
  let side (name : String) (second : Bool) (lines : List (List Char)) : Side := ⟨name, second, rows lines, 1, false⟩
  let a := side (g.operands.headD "") false x
  let b := side (g.operands.getD 1 "") true y
  let width (s : Side) : Nat := (s.rows.head?.map fun r => r.fields.length).getD 0
  let j : Joining :=
    { first, second, folds := g.has "i", mark, shown
      gap := match divider with
        | .char t => t
        | _ => ' '
      filling := ((g.value? "e").getD "").toList
      counts := if auto then some (width a, width b) else none }
  let strict := g.has "check"
  let heeds (unpaired : Bool) : Bool := !g.has "nocheck" && (strict || unpaired)
  let tellsFirst := unpaired.contains 1 || alone.contains 1
  let tellsSecond := unpaired.contains 2 || alone.contains 2
  let (a, b) ←
    if g.has "header" && !(a.rows.isEmpty && b.rows.isEmpty) then do
      outChars (j.text a.rows.head? b.rows.head?)
      let skip (s : Side) : Side := { s with rows := s.rows.drop 1, number := s.number + 1 }
      pure (skip a, skip b)
    else pure (a, b)
  let (a, b, seen) ← repeating (a, b, false) fun (a, b, seen) => do
    match a.rows, b.rows with
    | r :: _, s :: _ =>
      match j.compareRows (false, true) r s with
      | .lt =>
        if tellsFirst then outChars (j.text (some r) none)
        return .inl (← a.advance j (heeds seen) strict, b, true)
      | .gt =>
        if tellsSecond then outChars (j.text none (some s))
        return .inl (a, ← b.advance j (heeds seen) strict, true)
      | .eq =>
        let left := a.rows.takeWhile fun q => j.compareRows (false, true) q s == .eq
        let a ← left.foldlM (fun a _ => a.advance j (heeds seen) strict) a
        let right := b.rows.takeWhile fun q => j.compareRows (false, true) r q == .eq
        let b ← right.foldlM (fun b _ => b.advance j (heeds seen) strict) b
        if alone.isEmpty then
          left.forM fun r => right.forM fun s => outChars (j.text (some r) (some s))
        return .inl (a, b, seen)
    | _, _ => return .inr (a, b, seen)
  let rest (s : Side) (tells : Bool) (line : Row → List Char) : Act Side :=
    s.rows.foldlM (fun s r => do
      if tells then outChars (line r)
      s.advance j (heeds seen) strict) s
  let a ← rest a tellsFirst fun r => j.text (some r) none
  let b ← rest b tellsSecond fun r => j.text none (some r)
  if a.warned || b.warned then stop 1 "input is not in sorted order"
  return 0

end CrossBench.Tool
