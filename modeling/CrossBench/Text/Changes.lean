import Std.Data.HashMap

/-!
# Changes between two texts

What has to be taken out of one list of lines and put into it so that it becomes another one: as little
as possible. The search goes from both ends at once and meets in a middle, at which the lists are cut in
two. Lines that are nowhere in the other list are left out of the search, and some lines that are in it
very often. At last changes are moved as far back as they can be, so that those that lie close together
become one.
-/

namespace CrossBench

/-- A change of lines: which lines of the first list become which of the second. -/
structure Change where
  start : Nat
  stop : Nat
  newStart : Nat
  newStop : Nat
  deriving Repr, DecidableEq

namespace Change

/-- How many lines are taken out. -/
def deleted (c : Change) : Nat := c.stop - c.start

/-- How many lines are put in. -/
def inserted (c : Change) : Nat := c.newStop - c.newStart

/-- The change some lines further down. -/
def shift (n : Nat) (c : Change) : Change := ⟨c.start + n, c.stop + n, c.newStart + n, c.newStop + n⟩

end Change

namespace Changes

/-! ## Numbers for lines -/

/-- Numbers for texts, besides those that some have already: the same texts have the same number. -/
def numbered (seen : Std.HashMap String Nat) (lines : List String) : Array Nat × Std.HashMap String Nat :=
  lines.foldl (fun (ns, seen) line =>
    match seen[line]? with
    | some n => (ns.push n, seen)
    | none => (ns.push seen.size, seen.insert line seen.size)) (#[], seen)

/-- How often each number is in a list. -/
def countsOf (size : Nat) (lines : Array Nat) : Array Nat :=
  lines.foldl (fun counts n => counts.modify n (· + 1)) (Array.replicate size 0)

/-! ## Lines that are left out of the search -/

/-- Whether a line is looked for. -/
inductive Role where
  | kept
  | dropped
  /-- The line is left out if its neighbours are. -/
  | doubtful
  deriving DecidableEq

/-- Twice as much for each time that a number can be divided by four. -/
def doubledFor : Nat → Nat → Nat → Nat
  | 0, _, base => base
  | fuel + 1, n, base => if n / 4 = 0 then base else doubledFor fuel (n / 4) (base * 2)

/-- Keeps doubtful lines near the beginning of a run: those before three lines in a row that are dropped
for certain, or before the first of these that is at least eight lines in. `place` is where the run goes
on, and `row` how many such lines stand in front of it. -/
def keptAtEdge (place row : Nat) : List Role → List Role
  | [] => []
  | role :: rest =>
    match role with
    | .dropped =>
      if 8 ≤ place || row = 2 then role :: rest else role :: keptAtEdge (place + 1) (row + 1) rest
    | _ => .kept :: keptAtEdge (place + 1) 0 rest

/-- A run of lines, of which the first and the last are dropped for certain, with those of its doubtful
lines kept that are too many. -/
def settledRun (run : List Role) : List Role :=
  let doubtful := (run.filter (· = .doubtful)).length
  let kept (role : Role) : Role := if role = .doubtful then .kept else role
  if run.length < doubtful * 4 then run.map kept
  else
    let least := doubledFor run.length (run.length / 4) 1 + 1
    let run := (run.splitBy (· == ·)).flatMap fun part =>
      if least ≤ part.length then part.map kept else part
    (keptAtEdge 0 0 (keptAtEdge 0 0 run).reverse).reverse

/-- The roles of lines when it is settled for the doubtful ones. -/
def settled : Nat → List Role → List Role
  | 0, roles => roles
  | _, [] => []
  | fuel + 1, role :: rest =>
    match role with
    | .dropped =>
      let run := (role :: rest).takeWhile (· ≠ .kept)
      let run := (run.reverse.dropWhile (· = .doubtful)).reverse
      settledRun run ++ settled fuel ((role :: rest).drop run.length)
    | _ => .kept :: settled fuel rest

/-- The roles of the lines of a list; `counts` says how often lines are in the other list. -/
def rolesOf (counts : Array Nat) (lines : Array Nat) : List Role :=
  let many := doubledFor lines.size (lines.size / 64) 5
  let roles := lines.toList.map fun n =>
    let found := counts.getD n 0
    if found = 0 then Role.dropped else if many < found then .doubtful else .kept
  settled (lines.size + 1) roles

/-! ## The search -/

/-- How far the diagonals have been followed from one end. -/
structure Front where
  reached : Array Int
  low : Int
  high : Int

/-- Two lists that are compared, and the place of the first diagonal in the fronts. -/
structure Pair where
  first : Array Nat
  second : Array Nat

namespace Pair

/-- Whether two lines are the same. -/
def same (p : Pair) (x y : Int) : Bool :=
  match p.first[x.toNat]?, p.second[y.toNat]? with
  | some a, some b => a == b
  | _, _ => false

/-- The number under which a diagonal is kept. -/
def slot (p : Pair) (d : Int) : Nat := (d + p.second.size + 1).toNat

/-- How far a diagonal is reached. -/
def at_ (p : Pair) (f : Front) (d : Int) : Int := f.reached.getD (p.slot d) 0

/-- Notes how far a diagonal is reached. -/
def note (p : Pair) (f : Front) (d x : Int) : Front :=
  { f with reached := f.reached.set! (p.slot d) x }

/-- Follows lines that are the same downwards. -/
def slideDown (p : Pair) (xLimit yLimit : Int) : Nat → Int → Int → Int
  | 0, x, _ => x
  | fuel + 1, x, y =>
    if x < xLimit && y < yLimit && p.same x y then slideDown p xLimit yLimit fuel (x + 1) (y + 1) else x

/-- Follows lines that are the same upwards. -/
def slideUp (p : Pair) (xStart yStart : Int) : Nat → Int → Int → Int
  | 0, x, _ => x
  | fuel + 1, x, y =>
    if xStart < x && yStart < y && p.same (x - 1) (y - 1) then
      slideUp p xStart yStart fuel (x - 1) (y - 1)
    else x

/-- Widens a front by a diagonal on each side where there is one. -/
def widen (p : Pair) (least most outside : Int) (f : Front) : Front :=
  let f :=
    if least < f.low then { p.note f (f.low - 2) outside with low := f.low - 1 }
    else { f with low := f.low + 1 }
  if f.high < most then { p.note f (f.high + 2) outside with high := f.high + 1 }
  else { f with high := f.high - 1 }

/-- A part of the two lists. -/
structure Part where
  xStart : Int
  xStop : Int
  yStart : Int
  yStop : Int

/-- Follows each second diagonal of the upper front one step further, from the highest on, up to where it
meets the lower front. -/
def followDown (p : Pair) (part : Part) (lower : Front) (meets : Bool) :
    Nat → Int → Front → Front × Option (Int × Int)
  | 0, _, f => (f, none)
  | steps + 1, d, f =>
    let before := p.at_ f (d - 1)
    let behind := p.at_ f (d + 1)
    let x := if before < behind then behind else before + 1
    let x := p.slideDown part.xStop part.yStop p.first.size x (x - d)
    let f := p.note f d x
    if meets && lower.low ≤ d && d ≤ lower.high && p.at_ lower d ≤ x then (f, some (x, x - d))
    else followDown p part lower meets steps (d - 2) f

/-- Follows each second diagonal of the lower front one step further. -/
def followUp (p : Pair) (part : Part) (upper : Front) (meets : Bool) :
    Nat → Int → Front → Front × Option (Int × Int)
  | 0, _, f => (f, none)
  | steps + 1, d, f =>
    let before := p.at_ f (d - 1)
    let behind := p.at_ f (d + 1)
    let x := if before < behind then before else behind - 1
    let x := p.slideUp part.xStart part.yStart p.first.size x (x - d)
    let f := p.note f d x
    if meets && upper.low ≤ d && d ≤ upper.high && x ≤ p.at_ upper d then (f, some (x, x - d))
    else followUp p part upper meets steps (d - 2) f

/-- How many diagonals of a front are followed. -/
def stepsOf (f : Front) : Nat := ((f.high - f.low) / 2 + 1).toNat

/-- Where the fronts meet. -/
def middle (p : Pair) (part : Part) : Nat → Front → Front → Int × Int
  | 0, _, _ => (part.xStart, part.yStart)
  | cost + 1, upper, lower =>
    let least := part.xStart - part.yStop
    let most := part.xStop - part.yStart
    let odd := (part.xStart - part.yStart - (part.xStop - part.yStop)) % 2 ≠ 0
    let upper := p.widen least most (-1) upper
    match p.followDown part lower odd (stepsOf upper) upper.high upper with
    | (_, some place) => place
    | (upper, none) =>
      let lower := p.widen least most (p.first.size + p.second.size + 2) lower
      match p.followUp part upper (!odd) (stepsOf lower) lower.high lower with
      | (_, some place) => place
      | (lower, none) => middle p part cost upper lower

/-- Where a part of the lists is cut in two. -/
def cut (p : Pair) (part : Part) : Int × Int :=
  let empty : Array Int := Array.replicate (p.first.size + p.second.size + 3) 0
  let top := part.xStart - part.yStart
  let bottom := part.xStop - part.yStop
  p.middle part (p.first.size + p.second.size + 1) (p.note ⟨empty, top, top⟩ top part.xStart)
    (p.note ⟨empty, bottom, bottom⟩ bottom part.xStop)

/-- The lines that are to be taken out and put in, besides some that are known. -/
def search (p : Pair) : Nat → Part → List Nat × List Nat → List Nat × List Nat
  | 0, _, found => found
  | fuel + 1, part, found =>
    let xStart := p.slideDown part.xStop part.yStop p.first.size part.xStart part.yStart
    let yStart := part.yStart + (xStart - part.xStart)
    let xStop := p.slideUp xStart yStart p.first.size part.xStop part.yStop
    let yStop := part.yStop - (part.xStop - xStop)
    let part : Part := ⟨xStart, xStop, yStart, yStop⟩
    let between (a b : Int) : List Nat := (List.range (b - a).toNat).map (· + a.toNat)
    if xStart = xStop then (found.1, between yStart yStop ++ found.2)
    else if yStart = yStop then (between xStart xStop ++ found.1, found.2)
    else
      let (x, y) := p.cut part
      search p fuel ⟨x, xStop, y, yStop⟩ (search p fuel ⟨xStart, x, yStart, y⟩ found)

end Pair

/-! ## Moving changes -/

/-- Which lines of a list are changed. -/
abbrev Flags := Array Bool

/-- Whether a line is changed; there are no lines outside of the list. -/
def flag (flags : Flags) (i : Int) : Bool := if i < 0 then false else flags.getD i.toNat false

/-- The first line from a place on that is not changed. -/
def firstFree (flags : Flags) : Nat → Int → Int
  | 0, i => i
  | fuel + 1, i => if flag flags i then firstFree flags fuel (i + 1) else i

/-- The last line up to a place that is not changed. -/
def lastFree (flags : Flags) : Nat → Int → Int
  | 0, i => i
  | fuel + 1, i => if flag flags i then lastFree flags fuel (i - 1) else i

/-- A run of changed lines, and the place in the other list that belongs to its end. -/
structure Run where
  flags : Flags
  start : Int
  stop : Int
  other : Int
  /-- The last end of the run at which it has stood beside a run of the other list. -/
  beside : Int

/-- The lines of a list, and what is changed in the other one. -/
structure Side where
  lines : Array Nat
  otherFlags : Flags

namespace Side

/-- More steps than there are. -/
def room (s : Side) : Nat := s.lines.size + s.otherFlags.size + 2

/-- Whether two lines are the same. -/
def same (s : Side) (i j : Int) : Bool := s.lines.getD i.toNat 0 == s.lines.getD j.toNat 0

/-- Sets a flag. -/
def mark (flags : Flags) (i : Int) (value : Bool) : Flags := flags.set! i.toNat value

/-- Moves a run back by one line, and takes in a run that it meets. -/
def back (s : Side) (r : Run) : Run :=
  let flags := mark (mark r.flags (r.start - 1) true) (r.stop - 1) false
  { r with
    flags
    start := lastFree flags s.room (r.start - 2) + 1
    stop := r.stop - 1
    other := lastFree s.otherFlags s.room (r.other - 1) }

/-- Moves a run back as far as it goes. -/
def backAll (s : Side) : Nat → Run → Run
  | 0, r => r
  | fuel + 1, r =>
    if 0 < r.start && s.same (r.start - 1) (r.stop - 1) then backAll s fuel (s.back r) else r

/-- Moves a run forth as far as it goes. -/
def forthAll (s : Side) : Nat → Run → Run
  | 0, r => r
  | fuel + 1, r =>
    if r.stop ≠ s.lines.size && s.same r.start r.stop then
      let flags := mark (mark r.flags r.start false) r.stop true
      let stop := firstFree flags s.room (r.stop + 1)
      let other := firstFree s.otherFlags s.room (r.other + 1)
      forthAll s fuel
        { r with
          flags, stop, other
          start := r.start + 1
          beside := if other = r.other + 1 then r.beside else stop }
    else r

/-- Moves a run to and fro until it does not grow any more. -/
def grow (s : Side) : Nat → Run → Run
  | 0, r => r
  | fuel + 1, r =>
    let length := r.stop - r.start
    let r := s.backAll s.room r
    let r := { r with beside := if flag s.otherFlags (r.other - 1) then r.stop else s.lines.size }
    let r := s.forthAll s.room r
    if r.stop - r.start = length then r else grow s fuel r

/-- Moves a run back to where it has stood beside a run of the other list. -/
def settle (s : Side) : Nat → Run → Run
  | 0, r => r
  | fuel + 1, r =>
    if r.beside < r.stop then
      let flags := mark (mark r.flags (r.start - 1) true) (r.stop - 1) false
      settle s fuel
        { r with
          flags
          start := r.start - 1
          stop := r.stop - 1
          other := lastFree s.otherFlags s.room (r.other - 1) }
    else r

/-- The first changed line from a place on, and the place in the other list. -/
def nextRun (s : Side) (flags : Flags) : Nat → Int → Int → Int × Int
  | 0, i, j => (i, j)
  | fuel + 1, i, j =>
    if i < s.lines.size && !flag flags i then
      nextRun s flags fuel (i + 1) (firstFree s.otherFlags s.room j + 1)
    else (i, j)

/-- Moves all runs from a place on. -/
def shifted (s : Side) : Nat → Flags → Int → Int → Flags
  | 0, flags, _, _ => flags
  | fuel + 1, flags, i, j =>
    let (start, j) := s.nextRun flags s.room i j
    if s.lines.size ≤ start then flags
    else
      let stop := firstFree flags s.room (start + 1)
      let other := firstFree s.otherFlags s.room j
      let r := s.settle s.room (s.grow s.room ⟨flags, start, stop, other, s.lines.size⟩)
      shifted s fuel r.flags r.stop r.other

end Side

/-! ## Changes -/

/-- The changes that flags say, from two places on. -/
def ofFlags (gone come : Flags) : Nat → Nat → Nat → List Change
  | 0, _, _ => []
  | fuel + 1, i, j =>
    if gone.size ≤ i && come.size ≤ j then []
    else
      let stop := (firstFree gone (gone.size + 1) i).toNat
      let newStop := (firstFree come (come.size + 1) j).toNat
      let rest := ofFlags gone come fuel (stop + 1) (newStop + 1)
      if stop = i && newStop = j then rest else ⟨i, stop, j, newStop⟩ :: rest

/-- The flags of a list of so many lines of which some are changed. -/
def flagsOf (size : Nat) (changed : List Nat) : Flags :=
  changed.foldl (fun flags i => flags.set! i true) (Array.replicate size false)

/-- The changes from one list to another. With `thorough`, no line is left out of the search. -/
def between (thorough : Bool) (a b : List String) : List Change :=
  let (first, seen) := numbered ∅ a
  let (second, seen) := numbered seen b
  let kept (own other : Array Nat) : List Nat × List Nat :=
    let roles := rolesOf (countsOf seen.size other) own
    let places := roles.zipIdx.partition fun r => thorough || r.1 = .kept
    (places.1.map (·.2), places.2.map (·.2))
  let (keptFirst, gone) := kept first second
  let (keptSecond, come) := kept second first
  let pair : Pair :=
    ⟨(keptFirst.map fun i => first.getD i 0).toArray, (keptSecond.map fun i => second.getD i 0).toArray⟩
  let found := pair.search (pair.first.size + pair.second.size + 1)
    ⟨0, pair.first.size, 0, pair.second.size⟩ ([], [])
  let (realFirst, realSecond) := (keptFirst.toArray, keptSecond.toArray)
  let gone := flagsOf first.size (gone ++ found.1.map fun i => realFirst.getD i 0)
  let come := flagsOf second.size (come ++ found.2.map fun i => realSecond.getD i 0)
  let gone := Side.shifted ⟨first, come⟩ (first.size + second.size + 2) gone 0 0
  let come := Side.shifted ⟨second, gone⟩ (first.size + second.size + 2) come 0 0
  ofFlags gone come (first.size + second.size + 2) 0 0

end Changes

end CrossBench
