import CrossBench.Text.Zone

/-!
# Dates

The day and the time that clocks of a zone show at an instant, and texts of them by formats in which a
percent sign and a letter stand for a part. Marks between the two say how a part is filled and cased.
-/

namespace CrossBench

/-- A day and a time of day. -/
structure Calendar where
  year : Int
  month : Nat
  day : Nat
  hour : Nat
  minute : Nat
  second : Nat
  nanos : Nat
  /-- From Sunday on. -/
  weekday : Nat
  /-- From the first of January on. -/
  yearday : Nat
  /-- Since the epoch. -/
  seconds : Int
  /-- The name of the zone's time, and its seconds east of universal time. -/
  zone : String
  east : Int
  /-- Whether it is the zone's other time. -/
  summer : Bool

namespace Calendar

/-- The day of a number. -/
def ofDayNumber (n : Int) : Int × Nat × Nat :=
  let year := yearOfDay n
  let yearday := (n - dayNumber year 1 1).toNat
  let month := ((List.range 12).map (· + 1)).filter (fun m => daysBeforeMonth year m ≤ yearday)
    |>.getLast?.getD 1
  (year, month, yearday - daysBeforeMonth year month + 1)

/-- The day and the time of an instant. -/
def ofInstant (z : Zone) (t : Instant) : Calendar :=
  let (zone, east, summer) := z.clockAt t.seconds
  let shown := t.seconds + east
  let days := shown / 86400
  let rest := (shown % 86400).toNat
  let (year, month, day) := ofDayNumber days
  { year, month, day, zone, east, summer
    hour := rest / 3600
    minute := rest / 60 % 60
    second := rest % 60
    nanos := t.nanos
    weekday := ((days + 4) % 7).toNat
    yearday := (days - dayNumber year 1 1).toNat
    seconds := t.seconds }

/-- The names of the days. -/
def dayNames : List String :=
  ["Sunday", "Monday", "Tuesday", "Wednesday", "Thursday", "Friday", "Saturday"]

/-- The names of the months. -/
def monthNames : List String :=
  ["January", "February", "March", "April", "May", "June", "July", "August", "September", "October",
    "November", "December"]

/-- The year and the week of it in which most days of a week are. -/
def week (c : Calendar) : Int × Nat :=
  let monday := (c.weekday + 6) % 7
  let n : Int := ((c.yearday : Int) - monday + 10) / 7
  let last (year : Int) : Nat :=
    let first := ((dayNumber year 1 1 + 3) % 7).toNat
    if first = 3 || (first = 2 && isLeapYear year) then 53 else 52
  if n < 1 then (c.year - 1, last (c.year - 1))
  else if (last c.year : Int) < n then (c.year + 1, 1)
  else (c.year, n.toNat)

/-! ## Parts -/

/-- The marks of a part. -/
structure Marks where
  /-- How it is filled: `'-'` for not at all. -/
  fill : Option Char := none
  capitals : Bool := false
  /-- Whether its case is the other one. -/
  other : Bool := false
  width : Option Nat := none
  colons : Nat := 0

/-- A number with so many digits at least. -/
def Marks.number (m : Marks) (fill : Char) (digits : Nat) (n : Int) : String :=
  let ds := toString n.natAbs
  let signed := m.fill = some '+' && 1 < digits && (digits < ds.length || digits < m.width.getD 0)
  let sign := if n < 0 then "-" else if signed then "+" else ""
  let width := max (m.width.getD 0) digits
  let gap := width - ds.length - sign.length
  match m.fill.getD fill with
  | '-' => sign ++ ds
  | '_' => "".pushn ' ' gap ++ sign ++ ds
  | ' ' => "".pushn ' ' gap ++ sign ++ ds
  | _ => sign ++ "".pushn '0' gap ++ ds

/-- A text in the width that is wanted. -/
def Marks.text (m : Marks) (s : String) : String :=
  let s := if m.capitals then s.map Char.toUpper else s
  let gap := m.width.getD 0 - s.length
  match m.fill with
  | some '-' => s
  | some '0' => "".pushn '0' gap ++ s
  | some '+' => "".pushn '0' gap ++ s
  | _ => "".pushn ' ' gap ++ s

/-- A difference from universal time. -/
def Marks.difference (m : Marks) (east : Int) : String :=
  let sign := if east < 0 then "-" else "+"
  let n := east.natAbs
  let two (n : Nat) : String := (if n < 10 then "0" else "") ++ toString n
  let h := n / 3600
  let mi := n / 60 % 60
  let s := n % 60
  let body :=
    match m.colons with
    | 0 => two h ++ two mi
    | 1 => two h ++ ":" ++ two mi
    | 2 => two h ++ ":" ++ two mi ++ ":" ++ two s
    | _ =>
      if s ≠ 0 then two h ++ ":" ++ two mi ++ ":" ++ two s
      else if mi ≠ 0 then two h ++ ":" ++ two mi
      else two h
  let gap := m.width.getD 0 - body.length - 1
  let digits :=
    if m.colons = 0 then toString (h * 100 + mi)
    else String.ofList (if body.startsWith "0" then body.toList.drop 1 else body.toList)
  match m.fill with
  | some '-' => sign ++ digits
  | some '_' =>
    "".pushn ' ' (max (m.width.getD 0) (body.length + 1) - digits.length - 1) ++ sign ++ digits
  | _ => sign ++ "".pushn '0' gap ++ body

/-- What a letter stands for. -/
def part (c : Calendar) (m : Marks) (letter : Char) : Option String :=
  let number (fill : Char) (width : Nat) (n : Int) : Option String := some (m.number fill width n)
  let two (n : Nat) : String := (if n < 10 then "0" else "") ++ toString n
  let text (s : String) : Option String := some (m.text s)
  let name (s : String) : Option String := text (if m.other then s.map Char.toUpper else s)
  let dayName := dayNames.getD c.weekday ""
  let monthName := monthNames.getD (c.month - 1) ""
  let short (s : String) : String := String.ofList (s.toList.take 3)
  let clock := two c.hour ++ ":" ++ two c.minute ++ ":" ++ two c.second
  let noon : Nat := if c.hour % 12 = 0 then 12 else c.hour % 12
  let half := if c.hour < 12 then "AM" else "PM"
  let slashes := two c.month ++ "/" ++ two c.day ++ "/" ++ two (c.year % 100).toNat
  match letter with
  | 'Y' => number '0' 4 c.year
  | 'C' => number '0' 2 (c.year / 100)
  | 'y' => number '0' 2 (c.year % 100)
  | 'm' => number '0' 2 c.month
  | 'd' => number '0' 2 c.day
  | 'e' => number ' ' 2 c.day
  | 'H' => number '0' 2 c.hour
  | 'k' => number ' ' 2 c.hour
  | 'I' => number '0' 2 noon
  | 'l' => number ' ' 2 noon
  | 'M' => number '0' 2 c.minute
  | 'S' => number '0' 2 c.second
  | 's' => number '0' 1 c.seconds
  | 'j' => number '0' 3 (c.yearday + 1 : Nat)
  | 'u' => number '0' 1 (if c.weekday = 0 then 7 else c.weekday : Nat)
  | 'w' => number '0' 1 c.weekday
  | 'V' => number '0' 2 c.week.2
  | 'G' => number '0' 4 c.week.1
  | 'g' => number '0' 2 (c.week.1 % 100)
  | 'U' => number '0' 2 ((c.yearday + 7 - c.weekday) / 7 : Nat)
  | 'W' => number '0' 2 ((c.yearday + 7 - (c.weekday + 6) % 7) / 7 : Nat)
  | 'q' => number '0' 1 ((c.month + 2) / 3 : Nat)
  | 'N' =>
    let nine := "".pushn '0' (9 - (toString c.nanos).length) ++ toString c.nanos
    match m.width with
    | none => some nine
    | some n => some (String.ofList (nine.toList.take n) ++ "".pushn '0' (n - 9))
  | 'a' => name (short dayName)
  | 'A' => name dayName
  | 'b' => name (short monthName)
  | 'h' => name (short monthName)
  | 'B' => name monthName
  | 'p' => text (if m.other then half.map Char.toLower else half)
  | 'P' => text (half.map Char.toLower)
  | 'F' =>
    let year := { m with fill := m.fill.or (some '+'), width := m.width.map (· - 6) }
    let year := if m.fill.isNone && c.year ≤ 9999 then { year with fill := none } else year
    let year := year.number '0' 4 c.year
    some (year ++ "-" ++ two c.month ++ "-" ++ two c.day)
  | 'D' => text slashes
  | 'x' => text slashes
  | 'T' => text clock
  | 'X' => text clock
  | 'R' => text (two c.hour ++ ":" ++ two c.minute)
  | 'r' => text (two noon ++ ":" ++ two c.minute ++ ":" ++ two c.second ++ " " ++ half)
  | 'c' => text (short dayName ++ " " ++ short monthName ++ " " ++ (if c.day < 10 then " " else "")
      ++ toString c.day ++ " " ++ clock ++ " " ++ toString c.year)
  | 'Z' => text (if m.other then c.zone.map Char.toLower else c.zone)
  | 'z' => some (m.difference c.east)
  | 'n' => text "\n"
  | 't' => text "\t"
  | '%' => text "%"
  | _ => none

/-- Takes the marks behind a percent sign. -/
def marksOf : Nat → Marks → List Char → Marks × List Char
  | 0, m, cs => (m, cs)
  | fuel + 1, m, c :: rest =>
    if c = '_' || c = '-' || c = '0' || c = '+' then marksOf fuel { m with fill := some c } rest
    else if c = '^' then marksOf fuel { m with capitals := true } rest
    else if c = '#' then marksOf fuel { m with other := true } rest
    else (m, c :: rest)
  | _, m, [] => (m, [])

/-- The text of a day and a time by a format. -/
def format (c : Calendar) : Nat → List Char → String
  | 0, _ => ""
  | _, [] => ""
  | fuel + 1, '%' :: rest =>
    let (m, letters) := marksOf rest.length {} rest
    let digits := letters.takeWhile Char.isDigit
    let letters := letters.drop digits.length
    let width : Option Nat :=
      if digits = [] then none else some (digits.foldl (fun n d => n * 10 + (d.toNat - 48)) 0)
    let letters :=
      match letters with
      | 'E' :: more => more
      | 'O' :: more => more
      | letters => letters
    let colons := (letters.takeWhile (· == ':')).length
    let m := { m with width, colons }
    match letters.drop colons with
    | letter :: after =>
      match if 0 < colons && letter != 'z' then none else c.part m letter with
      | some text => text ++ format c fuel after
      | none => "%" ++ String.ofList (rest.take (rest.length - after.length)) ++ format c fuel after
    | [] => "%" ++ String.ofList rest
  | fuel + 1, ch :: rest => String.singleton ch ++ format c fuel rest

/-- The text of an instant by a format. -/
def text (z : Zone) (t : Instant) (form : String) : String :=
  (ofInstant z t).format (form.length + 1) form.toList

end Calendar

end CrossBench
