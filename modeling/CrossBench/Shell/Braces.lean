import CrossBench.Shell.Parameters

/-!
# Braces

In the extended dialect a word with a list in braces stands for several words, one for each part of
the list; `{1..9..2}` and `{a..e}` stand for a row of numbers or letters.
-/

namespace CrossBench.Shell.Braces

/-- A character of a word that is neither quoted nor expanded, or a whole part of it. -/
inductive Atom where
  | char (c : Char)
  | piece (p : Piece)

/-- The atoms of a word. -/
def atoms (w : Word) : List Atom :=
  w.parts.flatMap fun
    | .text s false => s.toList.map Atom.char
    | p => [.piece p]

/-- The word of atoms. -/
def wordOf (atoms : List Atom) : Word :=
  let rec go (taken : List Char) : List Atom → List Piece
    | [] => if taken.isEmpty then [] else [.text (String.ofList taken.reverse) false]
    | .char c :: rest => go (c :: taken) rest
    | .piece p :: rest =>
      (if taken.isEmpty then [] else [.text (String.ofList taken.reverse) false]) ++ p :: go [] rest
  .ofParts (go [] atoms)

/-- What stands in braces, divided at its commas, and what follows. -/
def inside (depth : Nat) (current : List Atom) (done : List (List Atom)) :
    List Atom → Option (List (List Atom) × List Atom)
  | [] => none
  | .char c :: rest =>
    if c = '\x7b' then inside (depth + 1) (.char c :: current) done rest
    else if c = '\x7d' then
      match depth with
      | 0 => some ((current.reverse :: done).reverse, rest)
      | depth + 1 => inside depth (.char c :: current) done rest
    else if c = ',' ∧ depth = 0 then inside depth [] (current.reverse :: done) rest
    else inside depth (.char c :: current) done rest
  | .piece p :: rest => inside depth (.piece p :: current) done rest

/-- The text of atoms that are all characters. -/
def text? (atoms : List Atom) : Option String :=
  (atoms.mapM fun (a : Atom) =>
    match a with
    | .char c => some c
    | .piece _ => none).map String.ofList

/-- An integer with its digits. -/
def integer? (s : String) : Option Int :=
  match s.toList with
  | '-' :: ds => (decimal? (String.ofList ds)).map fun n => -(n : Int)
  | '+' :: ds => (decimal? (String.ofList ds)).map fun n => (n : Int)
  | _ => (decimal? s).map fun n => (n : Int)

/-- Whether a number is written with a zero in front. -/
def isPadded (s : String) : Bool :=
  match s.toList with
  | '-' :: '0' :: _ :: _ => true
  | '0' :: _ :: _ => true
  | _ => false

/-- A number with zeros in front. -/
def padded (width : Nat) (n : Int) : String :=
  let ds := toString n.natAbs
  let zeros := String.ofList (List.replicate (width - ds.length - if n < 0 then 1 else 0) '0')
  (if n < 0 then "-" else "") ++ zeros ++ ds

/-- The numbers from one to another. -/
def steps (first last step : Int) : List Int :=
  let step : Nat := if step = 0 then 1 else step.natAbs
  (List.range ((last - first).natAbs / step + 1)).map fun i =>
    if first ≤ last then first + (i * step : Nat) else first - (i * step : Nat)

/-- The atoms of an element of a row. A backslash quotes what follows, which is nothing then. -/
def rowAtoms (t : String) : List Atom :=
  if t = "\\" then [.piece (.text "" true)] else t.toList.map Atom.char

/-- A row of numbers or letters. -/
def row? (s : String) : Option (List String) :=
  let ends : Option (String × String × Int) :=
    match s.splitOn ".." with
    | [a, b] => some (a, b, 1)
    | [a, b, c] => (integer? c).map fun n => (a, b, n)
    | _ => none
  ends.bind fun (a, b, step) =>
    match integer? a, integer? b, a.toList, b.toList with
    | some m, some n, _, _ =>
      let width := if isPadded a || isPadded b then max a.length b.length else 0
      some ((steps m n step).map (padded width))
    | _, _, [x], [y] =>
      if x.isAlpha && y.isAlpha then
        some ((steps x.toNat y.toNat step).map fun n => String.singleton (Char.ofNat n.toNat))
      else none
    | _, _, _, _ => none

/-- The words that a word stands for. -/
def expandAtoms : Nat → List Atom → List (List Atom)
  | 0, atoms => [atoms]
  | _, [] => [[]]
  | fuel + 1, .char c :: rest =>
    let literal : List (List Atom) := (expandAtoms fuel rest).map (.char c :: ·)
    if c = '\x7b' then
      match inside 0 [] [] rest with
      | none => literal
      | some ([single], after) =>
        match (text? single).bind row? with
        | some texts =>
          let behind := expandAtoms fuel after
          texts.flatMap fun t => behind.map fun w => rowAtoms t ++ w
        | none =>
          let within := expandAtoms fuel single
          let behind := expandAtoms fuel after
          within.flatMap fun w => behind.map fun v => .char '\x7b' :: w ++ .char '\x7d' :: v
      | some (choices, after) =>
        let behind := expandAtoms fuel after
        (choices.flatMap (expandAtoms fuel)).flatMap fun w => behind.map fun v => w ++ v
    else literal
  | fuel + 1, .piece p :: rest => (expandAtoms fuel rest).map (.piece p :: ·)

/-- The words that a word stands for. -/
def expand (w : Word) : List Word :=
  let as := atoms w
  let braced := as.any fun
    | .char c => c == '\x7b'
    | .piece _ => false
  if braced then (expandAtoms (as.length + 1) as).map wordOf else [w]

end CrossBench.Shell.Braces
