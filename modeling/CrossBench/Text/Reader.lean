/-!
# Reading characters

A `Reader` takes something off the front of a text or refuses it. `<|>` tries the second reader where
the first one refuses. `many` repeats a reader up to where it refuses or takes nothing. A text is read
together with a bound on its length, which limits the rounds of `many` and shows whether a reader has
taken something, without counting what is left.
-/

namespace CrossBench

/-- A text that is still to be read. The bound is at least its length, and each character that `char`,
`satisfy` or `takeWhile` takes lowers it by one. -/
structure Unread where
  /-- The characters ahead. -/
  chars : List Char
  /-- At least their number. -/
  bound : Nat

/-- Takes a value off the front of a text, or refuses the text. -/
abbrev Reader := StateT Unread Option

namespace Reader

/-- What a reader takes off the front of a text, and what it leaves. -/
def read {α : Type} (r : Reader α) (text : List Char) : Option (α × List Char) :=
  (r ⟨text, text.length⟩).map fun (a, rest) => (a, rest.chars)

/-- The text is refused. -/
def refuse {α : Type} : Reader α := fun _ => none

/-- A reader from a function on texts. The bound stays, so that it has to be used behind a character
that has been taken. -/
def ofFunction {α : Type} (f : List Char → Option (α × List Char)) : Reader α := fun s =>
  match f s.chars with
  | some (a, rest) => some (a, ⟨rest, s.bound⟩)
  | none => none

/-- Takes a character of a class. -/
def satisfy (p : Char → Bool) : Reader Char := fun s =>
  match s.chars with
  | d :: rest => if p d then some (d, ⟨rest, s.bound - 1⟩) else none
  | [] => none

/-- Takes this character. -/
def char (c : Char) : Reader Unit := do
  let _ ← satisfy (· == c)

/-- Takes these characters. -/
def literal : List Char → Reader Unit
  | [] => pure ()
  | c :: rest => do
    char c
    literal rest

/-- Takes all characters of a class. -/
def takeWhile (p : Char → Bool) : Reader (List Char) := fun s =>
  let (taken, rest) := s.chars.span p
  some (taken, ⟨rest, s.bound - taken.length⟩)

/-- Takes what `r` takes, if it takes something. -/
def option {α : Type} (r : Reader α) : Reader (Option α) := fun s =>
  match r s with
  | some (a, rest) => some (some a, rest)
  | none => some (none, s)

/-- Refuses a text that is not at its end. -/
def atEnd : Reader Unit := fun s =>
  match s.chars with
  | [] => some ((), s)
  | _ :: _ => none

/-- At most `rounds` repetitions, behind those that have been `found`, the last one first. -/
def manyUpTo {α : Type} (r : Reader α) (found : List α) : Nat → Reader (List α)
  | 0 => pure found.reverse
  | rounds + 1 => fun s =>
    match r s with
    | none => some (found.reverse, s)
    | some (a, rest) =>
      if rest.bound < s.bound then manyUpTo r (a :: found) rounds rest
      else some (found.reverse, s)

/-- As many repetitions as there are. -/
def many {α : Type} (r : Reader α) : Reader (List α) := fun s => manyUpTo r [] s.bound s

/-- What a reader takes, as it is written. The reader may not use `ofFunction`. -/
def written (r : Reader Unit) : Reader String := fun s =>
  match r s with
  | some ((), rest) => some (String.ofList (s.chars.take (s.bound - rest.bound)), rest)
  | none => none

end Reader

end CrossBench
