import CrossBench.Shell.Session
import CrossBench.Text.Letters

/-!
# Patterns

In a pattern a star stands for any text, a question mark for any character, and a list in brackets
for one of its characters, or for any other if the list is negated. Quoted characters stand for
themselves. The extended dialect has groups of patterns besides.

A pattern is matched by following all its readings at once: `ends` answers what can be left of a text
behind a front that the pattern matches.
-/

namespace CrossBench.Shell

/-- A character, and whether it stands for itself. -/
abbrev Mark := Char × Bool

/-- A part of a pattern. -/
inductive Glob where
  | anyText
  | anyChar
  | oneOf (negated : Bool) (ranges : List Range)
  | exactly (c : Char)
  /-- One of some patterns, as often as a sign says. -/
  | group (sign : Char) (choices : List (List Glob))

/-- A pattern. -/
abbrev Pattern := List Glob

namespace Pattern

/-- The text up to a character and the bracket behind it, and what follows. -/
def upTo (c : Char) : List Mark → Option (List Char × List Mark)
  | [] => none
  | [_] => none
  | (a, _) :: (b, kept) :: rest =>
    if a = c ∧ b = ']' then some ([], rest)
    else (upTo c ((b, kept) :: rest)).map fun (text, rest) => (a :: text, rest)

/-- A name in a list in brackets, and what follows. -/
def namedRange? (d : Dialect) (marks : List Mark) : Option (Option Range × List Mark) :=
  match marks with
  | ('[', false) :: (':', _) :: rest =>
    match upTo ':' rest with
    | some (kind, after) =>
      let kind := String.ofList kind
      if kindNames.contains kind then some (some (.named kind), after)
      else if d = .extended then some (none, after)
      else none
    | none => none
  | ('[', false) :: (c, _) :: rest =>
    if d = .extended ∧ (c = '.' ∨ c = '=') then
      match upTo c rest with
      | some ([a], after) => some (some (.between a a), after)
      | some (_, after) => some (none, after)
      | none => none
    else none
  | _ => none

/-- The ranges of a list in brackets, up to its closing bracket, and what follows. A bracket in the
first place is in the list. -/
def ranges (d : Dialect) : Nat → Bool → List Mark → Option (List Range × List Mark)
  | 0, _, _ => none
  | _, _, [] => none
  | fuel + 1, first, (c, kept) :: rest =>
    if c = ']' ∧ !kept ∧ !first then some ([], rest)
    else
      match namedRange? d ((c, kept) :: rest) with
      | some (r, after) =>
        (ranges d fuel false after).map fun (more, after) => (r.toList ++ more, after)
      | none =>
        let (c, rest) :=
          match c, kept, rest with
          | '\\', false, (e, _) :: rest => (e, rest)
          | c, _, rest => (c, rest)
        match rest with
        | ('-', false) :: (e, keptEnd) :: after =>
          if e = ']' ∧ !keptEnd then
            (ranges d fuel false rest).map fun (more, after) => (.between c c :: more, after)
          else
            let (e, after) :=
              match e, keptEnd, after with
              | '\\', false, (f, _) :: after => (f, after)
              | e, _, after => (e, after)
            (ranges d fuel false after).map fun (more, after) => (.between c e :: more, after)
        | rest => (ranges d fuel false rest).map fun (more, after) => (.between c c :: more, after)

/-- The list in brackets behind an opening bracket, and what follows. -/
def bracket (d : Dialect) (marks : List Mark) : Option (Glob × List Mark) :=
  let negated : Bool :=
    match marks, d with
    | ('!', false) :: _, _ => true
    | ('^', false) :: _, .extended => true
    | _, _ => false
  let inside := if negated then marks.drop 1 else marks
  (ranges d (inside.length + 1) true inside).map fun (ranges, after) => (.oneOf negated ranges, after)

/-- The alternatives of a group, up to its closing parenthesis, and what follows. -/
def choices : Nat → List Mark → List Mark → Option (List (List Mark) × List Mark)
  | _, _, [] => none
  | depth, taken, (c, kept) :: rest =>
    if kept then choices depth ((c, kept) :: taken) rest
    else if c = '(' then choices (depth + 1) ((c, kept) :: taken) rest
    else if c = ')' then
      match depth with
      | 0 => some ([taken.reverse], rest)
      | depth + 1 => choices depth ((c, kept) :: taken) rest
    else if c = '|' ∧ depth = 0 then
      (choices depth [] rest).map fun (more, after) => (taken.reverse :: more, after)
    else choices depth ((c, kept) :: taken) rest

/-- The parts of a pattern. -/
def partsOf (d : Dialect) (groups : Bool) : Nat → List Mark → Pattern
  | 0, _ => []
  | _, [] => []
  | fuel + 1, (c, kept) :: rest =>
    if kept then .exactly c :: partsOf d groups fuel rest
    else
      let signed := c = '?' || c = '*' || c = '+' || c = '@' || c = '!'
      let group : Option (List (List Mark) × List Mark) :=
        match rest with
        | ('(', false) :: inside => if groups && signed then choices 0 [] inside else none
        | _ => none
      match group with
      | some (parts, after) =>
        .group c (parts.map (partsOf d groups fuel)) :: partsOf d groups fuel after
      | none =>
        match c, rest with
        | '*', _ => .anyText :: partsOf d groups fuel rest
        | '?', _ => .anyChar :: partsOf d groups fuel rest
        | '[', _ =>
          match bracket d rest with
          | some (part, after) => part :: partsOf d groups fuel after
          | none => .exactly '[' :: partsOf d groups fuel rest
        | '\\', (e, _) :: rest => .exactly e :: partsOf d groups fuel rest
        | c, _ => .exactly c :: partsOf d groups fuel rest

/-- The pattern that characters are. -/
def ofMarks (d : Dialect) (groups : Bool) (marks : List Mark) : Pattern :=
  partsOf d groups (marks.length + 1) marks

end Pattern

/-- The characters of an expanded word. -/
def marksOf (letters : List Letter) : List Mark :=
  letters.filterMap fun
    | .plain c => some (c, false)
    | .value c => some (c, false)
    | .quoted c => some (c, true)
    | .gap => some (' ', true)
    | .mark => none
    | .void => none

/-- Whether characters have something that makes them a pattern. -/
def isPattern (groups : Bool) (marks : List Mark) : Bool :=
  marks.any (fun (c, kept) => !kept && (c == '*' || c == '?' || c == '[')) ||
    (groups && (marks.zip (marks.drop 1)).any fun ((c, kept), (e, keptNext)) =>
      !kept && !keptNext && e == '(' && (c == '+' || c == '@' || c == '!'))

/-- Texts without those that have the length of an earlier one. -/
def distinctLengths (texts : List (List Char)) : List (List Char) :=
  (texts.foldl (fun (seen, kept) text =>
    let n := text.length
    if seen.contains n then (seen, kept) else (n :: seen, text :: kept))
    (([], []) : List Nat × List (List Char))).2.reverse

/-- A text and what is left of it behind each of its fronts. -/
def tails : List Char → List (List Char)
  | [] => [[]]
  | c :: rest => (c :: rest) :: tails rest

/-- Whether two characters are the same, capitals and small letters too if `fold`. -/
def sameChar (fold : Bool) (a b : Char) : Bool :=
  a == b || (fold && Letters.toLower a == Letters.toLower b)

/-- What is left of some texts behind as many pieces as one likes, each of which `step` takes. -/
def closure (step : List (List Char) → List (List Char)) : Nat → List (List Char) → List (List Char)
  | 0, texts => texts
  | n + 1, texts => distinctLengths (texts ++ closure step n (step texts))

mutual

/-- What is left of texts behind a part of a pattern. -/
def Glob.ends (fold : Bool) (texts : List (List Char)) : Glob → List (List Char)
  | .anyText => distinctLengths (texts.flatMap tails)
  | .anyChar => texts.filterMap fun
    | _ :: rest => some rest
    | [] => none
  | .oneOf negated ranges => texts.filterMap fun
    | c :: rest =>
      let found := ranges.any fun r =>
        r.admits c || (fold && (r.admits (Letters.toLower c) || r.admits (Letters.toUpper c)))
      if found != negated then some rest else none
    | [] => none
  | .exactly e => texts.filterMap fun
    | c :: rest => if sameChar fold c e then some rest else none
    | [] => none
  | .group sign choices =>
    let once := endsOfAny fold texts choices
    match sign with
    | '@' => once
    | '?' => distinctLengths (texts ++ once)
    | '!' =>
      distinctLengths <| texts.flatMap fun text =>
        let taken := (endsOfAny fold [text] choices).map (·.length)
        (tails text).filter fun rest => !taken.contains rest.length
    | sign =>
      let longest := (texts.map (·.length)).foldl max 0
      let more := closure (fun texts => endsOfAny fold texts choices) longest
      if sign = '+' then more once else more texts
termination_by structural g => g

/-- What is left of texts behind a pattern. -/
def endsOfAll (fold : Bool) (texts : List (List Char)) : List Glob → List (List Char)
  | [] => texts
  | g :: rest => endsOfAll fold (g.ends fold texts) rest
termination_by structural parts => parts

/-- What is left of texts behind one of some patterns. -/
def endsOfAny (fold : Bool) (texts : List (List Char)) : List (List Glob) → List (List Char)
  | [] => []
  | p :: rest => distinctLengths (endsOfAll fold texts p ++ endsOfAny fold texts rest)
termination_by structural choices => choices

end

namespace Pattern

/-- What can be left of a text behind a front that a pattern matches. -/
def ends (fold : Bool) (p : Pattern) (text : List Char) : List (List Char) :=
  endsOfAll fold [text] p

/-- Whether a pattern matches a whole text. -/
def accepts (fold : Bool) (p : Pattern) (text : List Char) : Bool :=
  (p.ends fold text).any (·.isEmpty)

/-- A text without the shortest or longest front that a pattern matches. -/
def trimFront (longest : Bool) (p : Pattern) (text : List Char) : List Char :=
  let better (a b : List Char) : Bool := if longest then b.length < a.length else a.length < b.length
  match p.ends false text with
  | [] => text
  | first :: rest => rest.foldl (fun best e => if better best e then e else best) first

/-- The number of characters in front of the shortest or longest end of a text that a pattern
matches. -/
def backFrom (p : Pattern) (longest : Bool) (text : List Char) : Option Nat :=
  let counts := List.range (text.length + 1)
  (if longest then counts else counts.reverse).find? fun n => p.accepts false (text.drop n)

/-- A text without the shortest or longest end that a pattern matches. -/
def trimBack (longest : Bool) (p : Pattern) (text : List Char) : List Char :=
  match p.backFrom longest text with
  | some n => text.take n
  | none => text

/-- The shortest of what can be left of a text behind a front that a pattern matches. -/
def longestFront? (fold : Bool) (p : Pattern) (text : List Char) : Option (List Char) :=
  match p.ends fold text with
  | [] => none
  | first :: rest => some (rest.foldl (fun best e => if e.length < best.length then e else best) first)

/-- A text with another one in place of the longest parts that a pattern matches: of the first of
them, or of all. What takes the place may depend on what was there. -/
def replace (fold every : Bool) (p : Pattern) (by_ : List Char → List Char) :
    Nat → List Char → List Char
  | 0, text => text
  | _, [] => []
  | fuel + 1, c :: rest =>
    match p.longestFront? fold (c :: rest) with
    | none => c :: replace fold every p by_ fuel rest
    | some after =>
      let taken := (c :: rest).take (rest.length + 1 - after.length)
      if taken.isEmpty then c :: replace fold every p by_ fuel rest
      else if every then by_ taken ++ replace fold every p by_ fuel after
      else by_ taken ++ after

end Pattern

end CrossBench.Shell
