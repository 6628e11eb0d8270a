import CrossBench.Shell.Print.Format
import CrossBench.Text.TimeWords
import CrossBench.Tool.Input

/-!
# The time

`date` prints the time, or times that it is told in words, in a form that can be chosen. `sleep` lets
time go by.
-/

namespace CrossBench.Tool

open Shell Shell.Act

/-- Prints the time, or times that it is told. -/
def date : Act Nat := do
  let g ← given
    { letters := "uR", valued := "dfrs", free := "I"
      words := [("utc", "u"), ("universal", "u"), ("uct", "u"), ("rfc-email", "R"), ("rfc-822", "R"),
        ("rfc-2822", "R"), ("debug", "debug")]
      valuedWords := [("date", "d"), ("file", "f"), ("reference", "r"), ("set", "s"), ("rfc-3339", "rfc-3339")]
      freeWords := [("iso-8601", "I")] }
  let s ← get
  let zone := if g.has "u" then Zone.utc else s.zone
  let sources := ["d", "f", "r"].filter g.has
  if 1 < sources.length then
    misuse 1 "the options to specify dates for printing are mutually exclusive"
  if g.has "s" && !sources.isEmpty then
    misuse 1 "the options to print and set the time may not be used together"
  let hours := "%Y-%m-%dT%H"
  let forms ← (g.options.filter fun o => ["I", "rfc-3339", "R"].contains o.1).mapM fun (kind, value) => do
    match kind with
    | "R" => pure "%a, %d %b %Y %H:%M:%S %z"
    | "I" =>
      let words := ["hours", "minutes", "date", "seconds", "ns"]
      match if value = "" then some "date" else wordAmong words value with
      | some "date" => pure "%Y-%m-%d"
      | some "hours" => pure (hours ++ "%:z")
      | some "minutes" => pure (hours ++ ":%M%:z")
      | some "seconds" => pure (hours ++ ":%M:%S%:z")
      | some _ => pure (hours ++ ":%M:%S,%N%:z")
      | none => misuseOf "--iso-8601" value words
    | _ =>
      let words := ["date", "seconds", "ns"]
      match wordAmong words value with
      | some "date" => pure "%Y-%m-%d"
      | some "seconds" => pure "%Y-%m-%d %H:%M:%S%:z"
      | some _ => pure "%Y-%m-%d %H:%M:%S.%N%:z"
      | none => misuseOf "--rfc-3339" value words
  if 1 < forms.length then stop 1 "multiple output formats specified"
  let (form, told) ←
    match g.operands with
    | _ :: b :: _ => misuse 1 ("extra operand " ++ cited b)
    | [a] =>
      if a.startsWith "+" then
        if !forms.isEmpty then stop 1 "multiple output formats specified"
        else pure (some (String.ofList (a.toList.drop 1)), none)
      else if !sources.isEmpty || g.has "s" then
        misuse 1 ("the argument " ++ cited a ++ " lacks a leading '+';\nwhen using an option to specify "
          ++ "date(s), any non-option\nargument must be a format string beginning with '+'")
      else pure (none, some a)
    | [] => pure (none, none)
  let form := (form.orElse fun _ => forms.head?).getD "%a %b %e %H:%M:%S %Z %Y"
  let present ← now
  let show_ (t : Instant) : Act Unit := out (Calendar.text zone t form ++ "\n")
  let read (text : String) : Act Bool := do
    match TimeWords.instantOf? zone present text with
    | some t =>
      show_ t
      return true
    | none =>
      say ("invalid date " ++ cited text)
      return false
  match g.value? "f", g.value? "r", g.value? "d", (told.orElse fun _ => g.value? "s") with
  | some file, _, _, _ =>
    match ← contents file with
    | .error e => stop 1 (unreadable file e)
    | .ok bytes =>
      let all ← (linesBy '\n' (charsOf bytes)).mapM fun l => read (String.ofList l)
      return if all.all id then 0 else 1
  | none, some file, _, _ =>
    match (← tree).find (pathOf file) true with
    | .ok node =>
      show_ ((← tree).disk.modified node)
      return 0
    | .error e => stop 1 (unreadable file e)
  | none, none, some text, _ => return if ← read text then 0 else 1
  | none, none, none, some text =>
    let time := if told.isSome then settingOf? zone present text else TimeWords.instantOf? zone present text
    match time with
    | none => stop 1 ("invalid date " ++ cited text)
    | some t =>
      say "cannot set date: Operation not permitted"
      show_ t
      return 1
  | none, none, none, none =>
    show_ present
    return 0
where
  /-- The time that digits set: the month, the day, the hour and the minute, and the year if it is
  told. -/
  settingOf? (zone : Zone) (present : Instant) (text : String) : Option Instant :=
    let main := text.toList.takeWhile (· != '.')
    let rest := text.toList.drop main.length
    let year := main.drop 8
    let swapped := year ++ main.take 8 ++ rest
    TimeWords.stampOf? zone present (String.ofList swapped)

/-- The nanoseconds of a time that is told by a number and a unit. -/
def pauseOf? (s : String) : Option Nat :=
  let cs := s.toList
  let (digits, unit) : List Char × Nat :=
    match cs.getLast? with
    | some 's' => (cs.dropLast, 1)
    | some 'm' => (cs.dropLast, 60)
    | some 'h' => (cs.dropLast, 3600)
    | some 'd' => (cs.dropLast, 86400)
    | _ => (cs, 1)
  match leadingNumber? 64 digits with
  | some l =>
    if l.negative && !(match l.magnitude with | .quotient 0 _ => true | _ => false) then none
    else if l.rest ≠ [] || digits.head?.any isSpace then none
    else
      match l.magnitude with
      | .quotient num den => some (num * Instant.second * unit / den)
      | .infinite => some (Nat.pow 10 20)
      | .nan => none
  | none => none

/-- Lets time go by. -/
def sleep : Act Nat := do
  let g ← given { anywhere := true }
  if g.operands.isEmpty then misuse 1 "missing operand"
  let pauses := g.operands.map fun a => (a, pauseOf? a)
  let wrong := pauses.filter fun p => p.2.isNone
  if !wrong.isEmpty then
    wrong.forM fun p => say ("invalid time interval " ++ cited p.1)
    giveHint 1
  Act.sleep (pauses.foldl (fun n p => n + p.2.getD 0) 0)
  return 0

end CrossBench.Tool
