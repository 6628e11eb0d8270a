import CrossBench.Text.Letters
import Std.Data.HashSet

/-!
# Regular expressions

A regular expression matches parts of a text. All its readings are followed at once, in the order in
which they are preferred: `advance` takes the places that a part of an expression starts from to those
that it can end at, and of several readings that end at one place only the first is kept. Of all
matches that begin at the first possible place the longest is taken, or the one that is preferred.
-/

namespace CrossBench

/-- A regular expression. -/
inductive Regex where
  | empty
  | char (c : Char)
  | any
  | oneOf (negated : Bool) (ranges : List Range)
  | group (number : Nat) (r : Regex)
  | both (first second : Regex)
  | either (first second : Regex)
  /-- So often at least and at most; if `short`, rather seldom than often. -/
  | repeated (r : Regex) (least : Nat) (most : Option Nat) (short : Bool)
  /-- What a group has matched. -/
  | back (number : Nat)
  | lineStart
  | lineEnd
  | textStart
  | textEnd
  | wordStart
  | wordEnd
  | wordEdge
  | noWordEdge
  /-- Something that begins here, or ends here if not `ahead`, or nothing that does so. -/
  | look (ahead negated : Bool) (r : Regex)
  /-- What is preferred, and nothing else. -/
  | only (r : Regex)
  /-- The match is taken to begin here. -/
  | here
  deriving Inhabited

namespace Regex

/-- A text in which matches are looked for. -/
structure Subject where
  text : Array Char
  /-- Whether capitals and small letters are the same. -/
  fold : Bool
  /-- Whether lines begin and end at the line breaks in the text. -/
  lines : Bool
  /-- Whether a byte that belongs to no character is like any character. -/
  strays : Bool

/-- A reading of a part of an expression: the place where it ends, and where groups have matched, the
latest first. -/
structure Reading where
  place : Nat
  groups : List (Nat × Nat × Nat)

/-- How many readings are compared one by one. -/
def fewReadings : Nat := 8

/-- The readings without those that end where an earlier one does. -/
def distinct (readings : List Reading) : List Reading :=
  match readings with
  | [] => []
  | [r] => [r]
  | readings =>
    if readings.length ≤ fewReadings then
      (readings.foldl (fun (seen, kept) (r : Reading) =>
        if seen.contains r.place then (seen, kept) else (r.place :: seen, r :: kept))
        (([], []) : List Nat × List Reading)).2.reverse
    else
      (readings.foldl (fun (seen, kept) (r : Reading) =>
        if seen.contains r.place then (seen, kept) else (seen.insert r.place, r :: kept))
        ((∅, []) : Std.HashSet Nat × List Reading)).2.reverse

/-- A character of a word. -/
def isWord (c : Char) : Bool := isOfKind "word" c

namespace Subject

/-- Whether a word stands in front of a place. -/
def wordBefore (s : Subject) (place : Nat) : Bool := 0 < place && (s.text[place - 1]?).any isWord

/-- Whether a word stands behind a place. -/
def wordBehind (s : Subject) (place : Nat) : Bool := (s.text[place]?).any isWord

/-- Whether two characters are the same. -/
def same (s : Subject) (a b : Char) : Bool := a == b || (s.fold && Letters.toLower a == Letters.toLower b)

/-- Whether a character can be any. -/
def isAny (s : Subject) (c : Char) : Bool :=
  !(s.lines && c == '\n') && (s.strays || c.toNat < Letters.strayBase)

/-- Whether a list in brackets has a character. -/
def admits (s : Subject) (negated : Bool) (ranges : List Range) (c : Char) : Bool :=
  (ranges.any fun r =>
    r.admits c || (s.fold && (r.admits (Letters.toLower c) || r.admits (Letters.toUpper c))))
    != negated && (!negated || s.isAny c)

/-- The places of a reading at which a character is one of some. -/
def step (s : Subject) (p : Char → Bool) (r : Reading) : Option Reading :=
  match s.text[r.place]? with
  | some c => if p c then some { r with place := r.place + 1 } else none
  | none => none

/-- How many characters from a place on are some of those, up to a limit. -/
def run (s : Subject) (p : Char → Bool) : Nat → Nat → Nat
  | 0, _ => 0
  | n + 1, place =>
    match s.text[place]? with
    | some c => if p c then run s p n (place + 1) + 1 else 0
    | none => 0

/-- The place behind a part of the text that is the same as another part. -/
def copy (s : Subject) (start stop : Nat) (place : Nat) : Option Nat :=
  let count := stop - start
  if (List.range count).all fun i =>
      match s.text[start + i]?, s.text[place + i]? with
      | some a, some b => s.same a b
      | _, _ => false
  then some (place + count) else none

end Subject

/-- The characters that an expression matches one of, if it is such. -/
def single? (s : Subject) : Regex → Option (Char → Bool)
  | char c => some (s.same c)
  | any => some s.isAny
  | oneOf negated ranges => some (s.admits negated ranges)
  | _ => none

/-- The readings of as many characters as one likes, of a kind. -/
def runs (s : Subject) (p : Char → Bool) (least : Nat) (most : Option Nat) (short : Bool)
    (readings : List Reading) : List Reading :=
  distinct (readings.flatMap fun r =>
    let limit := s.text.size - r.place
    let count := s.run p ((most.map (min · limit)).getD limit) r.place
    if count < least then []
    else
      let places := (List.range (count + 1 - least)).map (· + (r.place + least))
      (if short then places else places.reverse).map fun place => { r with place })

/-- The readings of as many pieces as one likes behind a reading, of which `step` takes one, added to
those that have been found, the latest first. The ends of those that are under way are `seen`. -/
def gather (step : Reading → List Reading) (short : Bool) :
    Nat → Reading → Std.HashSet Nat × List Reading → Std.HashSet Nat × List Reading
  | 0, r, (seen, found) => (seen, r :: found)
  | fuel + 1, r, (seen, found) =>
    if seen.contains r.place then (seen, found)
    else
      let seen := seen.insert r.place
      if short then (step r).foldl (fun t next => gather step short fuel next t) (seen, r :: found)
      else
        let (seen, found) := (step r).foldl (fun t next => gather step short fuel next t) (seen, found)
        (seen, r :: found)

/-- The readings of as many pieces as one likes. -/
def closure (step : Reading → List Reading) (short : Bool) (fuel : Nat) (readings : List Reading) :
    List Reading :=
  distinct (readings.flatMap fun r => (gather step short fuel r (∅, [])).2.reverse)

/-- The readings of some pieces. -/
def iterate (step : List Reading → List Reading) : Nat → List Reading → List Reading
  | 0, readings => readings
  | n + 1, readings => if readings.isEmpty then [] else iterate step n (distinct (step readings))

/-- The readings of up to so many pieces. -/
def upTo (step : List Reading → List Reading) (short : Bool) : Nat → List Reading → List Reading
  | 0, readings => readings
  | n + 1, readings =>
    let next := distinct (step readings)
    if next.isEmpty then readings
    else
      let more := upTo step short n next
      distinct (if short then readings ++ more else more ++ readings)

/-- The readings of an expression behind other readings. -/
def advance (s : Subject) : Regex → List Reading → List Reading
  | empty, rs => rs
  | char c, rs => rs.filterMap (s.step (s.same c))
  | any, rs => rs.filterMap (s.step s.isAny)
  | oneOf negated ranges, rs => rs.filterMap (s.step (s.admits negated ranges))
  | group n r, rs =>
    distinct (rs.flatMap fun start =>
      (advance s r [start]).map fun e => { e with groups := (n, start.place, e.place) :: e.groups })
  | both a b, rs => advance s b (advance s a rs)
  | either a b, rs => distinct (rs.flatMap fun r => advance s a [r] ++ advance s b [r])
  | repeated r least most short, rs =>
    match r.single? s with
    | some p => runs s p least most short rs
    | none =>
      let step := advance s r
      let first := iterate step least rs
      match most with
      | some most =>
        distinct (first.flatMap fun r => upTo step short (min (most - least) (s.text.size + 1)) [r])
      | none => closure (fun r => distinct (step [r])) short (s.text.size + 1) first
  | back n, rs =>
    rs.filterMap fun r =>
      match r.groups.find? fun g => g.1 = n with
      | some (_, start, stop) => (s.copy start stop r.place).map fun place => { r with place }
      | none => none
  | lineStart, rs =>
    rs.filter fun r => r.place = 0 || (s.lines && s.text[r.place - 1]? == some '\n')
  | lineEnd, rs =>
    rs.filter fun r => r.place = s.text.size || (s.lines && s.text[r.place]? == some '\n')
  | textStart, rs => rs.filter fun r => r.place = 0
  | textEnd, rs => rs.filter fun r => r.place = s.text.size
  | wordStart, rs => rs.filter fun r => !s.wordBefore r.place && s.wordBehind r.place
  | wordEnd, rs => rs.filter fun r => s.wordBefore r.place && !s.wordBehind r.place
  | wordEdge, rs => rs.filter fun r => s.wordBefore r.place != s.wordBehind r.place
  | noWordEdge, rs => rs.filter fun r => s.wordBefore r.place == s.wordBehind r.place
  | look ahead negated r, rs =>
    rs.filter fun at_ =>
      let found :=
        if ahead then !(advance s r [at_]).isEmpty
        else
          (List.range (at_.place + 1)).any fun start =>
            (advance s r [{ at_ with place := start }]).any fun e => e.place = at_.place
      found != negated
  | only r, rs => distinct (rs.flatMap fun start => (advance s r [start]).take 1)
  | here, rs => rs.map fun r => { r with groups := (0, r.place, r.place) :: r.groups }
termination_by structural r => r

/-- A match: where it begins and ends, and where its groups do. -/
structure Match where
  start : Nat
  stop : Nat
  groups : List (Nat × Nat × Nat)

/-- The match that a reading comes to which begins at a place. -/
def matchOf (place : Nat) (r : Reading) : Match :=
  ⟨((r.groups.find? fun g => g.1 = 0).map (·.2.1)).getD place, r.place, r.groups⟩

/-- The longest match that begins at a place. -/
def matchAt (s : Subject) (r : Regex) (place : Nat) : Option Match :=
  match advance s r [⟨place, []⟩] with
  | [] => none
  | first :: rest =>
    some (matchOf place (rest.foldl (fun best e => if best.place < e.place then e else best) first))

/-- The first match at one of some places, one after the other. -/
def findFrom (s : Subject) (r : Regex) : Nat → Nat → Option Match
  | 0, _ => none
  | n + 1, place =>
    match matchAt s r place with
    | some m => some m
    | none => findFrom s r n (place + 1)

/-- The first match from a place on. -/
def find? (s : Subject) (r : Regex) (place : Nat) : Option Match :=
  findFrom s r (s.text.size + 1 - place) place

namespace Match

/-- Where a group has matched; the whole match is group 0. -/
def group? (m : Match) (n : Nat) : Option (Nat × Nat) :=
  if n = 0 then some (m.start, m.stop)
  else (m.groups.find? fun g => g.1 = n).map (·.2)

/-- What a group has matched. -/
def text (m : Match) (s : Subject) (n : Nat) : List Char :=
  match m.group? n with
  | some (start, stop) => (s.text.extract start stop).toList
  | none => []

end Match

/-- The expression that matches a text and nothing else. -/
def literal (text : List Char) : Regex :=
  text.foldr (fun c r => .both (.char c) r) .empty

/-- How many groups an expression has. -/
def groupCount : Regex → Nat
  | group n r => max n (groupCount r)
  | both a b => max (groupCount a) (groupCount b)
  | either a b => max (groupCount a) (groupCount b)
  | repeated r _ _ _ => groupCount r
  | look _ _ r => groupCount r
  | only r => groupCount r
  | _ => 0

end Regex

end CrossBench
