/-!
# The order of versions

Names with numbers in them are compared part by part: what is no digit character by character, letters in
front of other signs and a tilde in front of everything, and numbers by their values. Endings such as
`.tar.gz` count only where all else is the same.
-/

namespace CrossBench.Version

/-- The rank of the character in front; digits and the end have ranks of their own. -/
def rank (cs : List Char) : Int :=
  match cs with
  | [] => -1
  | c :: _ =>
    if c.isDigit then 0
    else if c.isAlpha then c.toNat
    else if c = '~' then -2
    else c.toNat + 256

/-- The order of two texts that begin with no digit, up to the digits, and what follows in both. -/
def orderSigns : Nat → List Char → List Char → Ordering × List Char × List Char
  | 0, a, b => (.eq, a, b)
  | fuel + 1, a, b =>
    if (a.head?.any fun c => !c.isDigit) || (b.head?.any fun c => !c.isDigit) then
      match compare (rank a) (rank b) with
      | .eq => orderSigns fuel (a.drop 1) (b.drop 1)
      | o => (o, a, b)
    else (.eq, a, b)

/-- The order of the numbers in front. -/
def orderNumbers (a b : List Char) : Ordering :=
  let x := (a.takeWhile Char.isDigit).dropWhile (· == '0')
  let y := (b.takeWhile Char.isDigit).dropWhile (· == '0')
  (compare x.length y.length).then (compareOfLessAndEq x y)

/-- The order of two texts, part by part. -/
def orderParts : Nat → List Char → List Char → Ordering
  | 0, _, _ => .eq
  | _, [], [] => .eq
  | fuel + 1, a, b =>
    match orderSigns (a.length + b.length + 1) a b with
    | (.eq, a, b) =>
      match orderNumbers a b with
      | .eq => orderParts fuel (a.dropWhile Char.isDigit) (b.dropWhile Char.isDigit)
      | o => o
    | (o, _, _) => o

/-- A name without its endings. -/
def stem (cs : List Char) : List Char :=
  let parts := cs.splitBy fun _ b => b != '.'
  let isEnding (part : List Char) : Bool :=
    match part with
    | '.' :: c :: rest => (c.isAlpha || c == '~') && rest.all fun c => c.isAlphanum || c == '~'
    | _ => false
  let kept := (parts.drop 1).reverse.dropWhile isEnding
  ((parts.take 1) ++ kept.reverse).flatten

/-- The order of two names. Those that begin with a point come first. -/
def order (a b : List Char) : Ordering :=
  let hidden (cs : List Char) : Bool := cs.head? == some '.'
  if a = b then .eq
  else if a = [] then .lt
  else if b = [] then .gt
  else if hidden a != hidden b then if hidden a then .lt else .gt
  else if a = ['.'] then .lt
  else if b = ['.'] then .gt
  else if a = ['.', '.'] then .lt
  else if b = ['.', '.'] then .gt
  else
    let fuel := a.length + b.length + 1
    (orderParts fuel (stem a) (stem b)).then (orderParts fuel a b)

end CrossBench.Version
