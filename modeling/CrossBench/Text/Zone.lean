import CrossBench.Files.Node

/-!
# Time zones

A zone says how far its clocks are from universal time: by a fixed difference, or by two of them that
take turns at days which rules tell. A zone is spelled by the names of its times, the differences and
the rules, or by the name of a place that is known.
-/

namespace CrossBench

/-- Whether a year has a day more. -/
def isLeapYear (year : Int) : Bool := year % 4 = 0 && (year % 100 ≠ 0 || year % 400 = 0)

/-- The days of a year in front of a month. -/
def daysBeforeMonth (year : Int) (month : Nat) : Nat :=
  [0, 31, 59, 90, 120, 151, 181, 212, 243, 273, 304, 334].getD (month - 1) 0
    + if 2 < month && isLeapYear year then 1 else 0

/-- The number of a day, from the first day of 1970 on. -/
def dayNumber (year : Int) (month : Nat) (day : Int) : Int :=
  let y := year - 1
  y * 365 + y / 4 - y / 100 + y / 400 - 719162 + (daysBeforeMonth year month : Nat) + (day - 1)

/-- The year that a day of a number is in. -/
def yearOfDay (n : Int) : Int :=
  let guess := 1970 + n / 366 - 1 - (if n < 0 then 1 else 0)
  let guess := guess + (n - dayNumber guess 1 1) / 366
  if dayNumber (guess + 1) 1 1 ≤ n then
    if dayNumber (guess + 2) 1 1 ≤ n then guess + 2 else guess + 1
  else guess

namespace Zone

/-- A day of the year. -/
inductive YearDay where
  /-- Counted from 1 on, without the day that some years have more. -/
  | common (n : Nat)
  /-- Counted from 0 on. -/
  | counted (n : Nat)
  /-- A day of a week of a month, of which week 5 is the last. -/
  | inWeek (month week weekday : Nat)

/-- When clocks are changed: on a day, so many seconds after its beginning. -/
structure Turn where
  day : YearDay
  seconds : Int

/-- The number of a day in a year. -/
def YearDay.number (d : YearDay) (year : Int) : Int :=
  match d with
  | .common n => dayNumber year 1 n + if 60 ≤ n && isLeapYear year then 1 else 0
  | .counted n => dayNumber year 1 1 + n
  | .inWeek month week weekday =>
    let first := dayNumber year month 1
    let start := first + ((weekday : Int) - (first + 4)) % 7
    let next := if month = 12 then dayNumber (year + 1) 1 1 else dayNumber year (month + 1) 1
    let day := start + 7 * ((week : Int) - 1)
    if next ≤ day then day - 7 else day

/-- When clocks are changed in a year, as they show it. -/
def Turn.at_ (t : Turn) (year : Int) : Int := t.day.number year * 86400 + t.seconds

end Zone

/-- A time zone. -/
structure Zone where
  name : String
  /-- Seconds east of universal time. -/
  east : Int
  /-- The other time, and when it begins and ends. -/
  summer : Option (String × Int × Zone.Turn × Zone.Turn) := none

namespace Zone

/-- Universal time. -/
def utc : Zone := ⟨"UTC", 0, none⟩

/-- The name of the time and its difference from universal time, and whether it is the other one. -/
def clockAt (z : Zone) (seconds : Int) : String × Int × Bool :=
  match z.summer with
  | none => (z.name, z.east, false)
  | some (name, east, start, stop) =>
    let year := yearOfDay ((seconds + z.east) / 86400)
    let start := start.at_ year - z.east
    let stop := stop.at_ year - east
    let other : Bool :=
      if start < stop then start ≤ seconds && seconds < stop else !(stop ≤ seconds && seconds < start)
    if other then (name, east, true) else (z.name, z.east, false)

/-- The seconds since the epoch at which clocks show a time, if they ever do. `other` says whether
the time is the other one, if that is known. -/
def instantAt? (z : Zone) (shown : Int) (other : Option Bool) : Option Int :=
  let candidates :=
    match z.summer with
    | none => [shown - z.east]
    | some (_, east, _, _) => [shown - east, shown - z.east]
  candidates.find? fun seconds =>
    let (_, east, isOther) := z.clockAt seconds
    seconds + east = shown && other.all (· == isOther)

/-! ## Reading -/

/-- Takes a name. -/
def takeName (cs : List Char) : Option (String × List Char) :=
  match cs with
  | '<' :: rest =>
    let name := rest.takeWhile fun c => c.isAlphanum || c == '+' || c == '-'
    match rest.drop name.length with
    | '>' :: rest => if name.length < 3 then none else some (String.ofList name, rest)
    | _ => none
  | cs =>
    let name := cs.takeWhile Char.isAlpha
    if name.length < 3 then none else some (String.ofList name, cs.drop name.length)

/-- The number that digits spell. -/
def valueOf (ds : List Char) : Nat := ds.foldl (fun n c => n * 10 + (c.toNat - 48)) 0

/-- Takes hours, minutes and seconds. -/
def takeClock (cs : List Char) (mostHours : Nat) : Option (Int × List Char) :=
  let (negative, cs) : Bool × List Char :=
    match cs with
    | '-' :: rest => (true, rest)
    | '+' :: rest => (false, rest)
    | cs => (false, cs)
  let part (cs : List Char) : Nat × List Char :=
    match cs with
    | ':' :: rest =>
      let ds := rest.takeWhile Char.isDigit
      (min 59 (valueOf ds), rest.drop ds.length)
    | cs => (0, cs)
  let hours := cs.takeWhile Char.isDigit
  if hours = [] then none
  else
    let (minutes, rest) := part (cs.drop hours.length)
    let (seconds, rest) := part rest
    let all : Int := (min mostHours (valueOf hours) * 3600 + minutes * 60 + seconds : Nat)
    some (if negative then -all else all, rest)

/-- Takes a rule for a change of clocks, behind its comma. -/
def takeTurn (cs : List Char) : Option (Turn × List Char) := do
  let number (cs : List Char) : Option (Nat × List Char) :=
    let ds := cs.takeWhile Char.isDigit
    if ds = [] then none else some (valueOf ds, cs.drop ds.length)
  let dotted (cs : List Char) : Option (Nat × List Char) :=
    match cs with
    | '.' :: rest => number rest
    | _ => none
  let (day, rest) ←
    match cs with
    | 'J' :: rest => (number rest).map fun (n, rest) => (YearDay.common n, rest)
    | 'M' :: rest => do
      let (month, rest) ← number rest
      let (week, rest) ← dotted rest
      let (weekday, rest) ← dotted rest
      if 1 ≤ month ∧ month ≤ 12 ∧ 1 ≤ week ∧ week ≤ 5 ∧ weekday ≤ 6 then
        some (YearDay.inWeek month week weekday, rest)
      else none
    | cs => (number cs).map fun (n, rest) => (YearDay.counted n, rest)
  match rest with
  | '/' :: rest =>
    let (seconds, rest) ← takeClock rest 167
    return (⟨day, seconds⟩, rest)
  | rest => return (⟨day, 7200⟩, rest)

/-- The zone that names, differences and rules spell. -/
def spelled (cs : List Char) : Zone :=
  match takeName cs with
  | none => ⟨"", 0, none⟩
  | some (name, rest) =>
    match takeClock rest 24 with
    | none => ⟨name, 0, none⟩
    | some (west, rest) =>
      let plain : Zone := ⟨name, -west, none⟩
      if rest = [] then plain
      else
        match takeName rest with
        | none => if rest.head? = some ',' then plain else ⟨"", 0, none⟩
        | some (other, rest) =>
          let (east, rest) :=
            match takeClock rest 24 with
            | some (w, rest) => (-w, rest)
            | none => (3600 - west, rest)
          let usual : Turn × Turn := (⟨.inWeek 3 2 0, 7200⟩, ⟨.inWeek 11 1 0, 7200⟩)
          let turns : Turn × Turn :=
            match rest with
            | ',' :: rest =>
              match takeTurn rest with
              | some (start, ',' :: rest) =>
                match takeTurn rest with
                | some (stop, _) => (start, stop)
                | none => usual
              | _ => usual
            | _ => usual
          ⟨name, -west, some (other, east, turns.1, turns.2)⟩

/-- The zones of places, in the words in which zones are spelled. -/
def places : List (String × String) :=
  let central := "CET-1CEST,M3.5.0,M10.5.0/3"
  let eastern := "EET-2EEST,M3.5.0/3,M10.5.0/4"
  let sydney := "AEST-10AEDT,M10.1.0,M4.1.0/3"
  [("UTC", "UTC0"), ("Etc/UTC", "UTC0"), ("UCT", "UTC0"), ("Universal", "UTC0"), ("Zulu", "UTC0"),
    ("GMT", "GMT0"), ("Etc/GMT", "GMT0"), ("GMT0", "GMT0"), ("Greenwich", "GMT0"),
    ("Africa/Cairo", "EET-2EEST,M4.5.5/0,M10.5.4/24"), ("Africa/Johannesburg", "SAST-2"),
    ("Africa/Lagos", "WAT-1"), ("Africa/Nairobi", "EAT-3"),
    ("America/Anchorage", "AKST9AKDT,M3.2.0,M11.1.0"), ("America/Argentina/Buenos_Aires", "<-03>3"),
    ("America/Bogota", "<-05>5"), ("America/Chicago", "CST6CDT,M3.2.0,M11.1.0"),
    ("America/Denver", "MST7MDT,M3.2.0,M11.1.0"), ("America/Halifax", "AST4ADT,M3.2.0,M11.1.0"),
    ("America/Los_Angeles", "PST8PDT,M3.2.0,M11.1.0"), ("America/Mexico_City", "CST6"),
    ("America/New_York", "EST5EDT,M3.2.0,M11.1.0"), ("America/Phoenix", "MST7"),
    ("America/Sao_Paulo", "<-03>3"), ("America/St_Johns", "NST3:30NDT,M3.2.0,M11.1.0"),
    ("America/Toronto", "EST5EDT,M3.2.0,M11.1.0"), ("America/Vancouver", "PST8PDT,M3.2.0,M11.1.0"),
    ("Asia/Bangkok", "<+07>-7"), ("Asia/Calcutta", "IST-5:30"), ("Asia/Dubai", "<+04>-4"),
    ("Asia/Hong_Kong", "HKT-8"), ("Asia/Jakarta", "WIB-7"),
    ("Asia/Jerusalem", "IST-2IDT,M3.4.4/26,M10.5.0"), ("Asia/Karachi", "PKT-5"),
    ("Asia/Kathmandu", "<+0545>-5:45"), ("Asia/Kolkata", "IST-5:30"), ("Asia/Manila", "PST-8"),
    ("Asia/Seoul", "KST-9"), ("Asia/Shanghai", "CST-8"), ("Asia/Singapore", "<+08>-8"),
    ("Asia/Taipei", "CST-8"), ("Asia/Tehran", "<+0330>-3:30"), ("Asia/Tokyo", "JST-9"),
    ("Japan", "JST-9"), ("Atlantic/Reykjavik", "GMT0"),
    ("Australia/Adelaide", "ACST-9:30ACDT,M10.1.0,M4.1.0/3"), ("Australia/Brisbane", "AEST-10"),
    ("Australia/Melbourne", sydney), ("Australia/Perth", "AWST-8"), ("Australia/Sydney", sydney),
    ("Europe/Amsterdam", central), ("Europe/Athens", eastern), ("Europe/Berlin", central),
    ("Europe/Brussels", central), ("Europe/Copenhagen", central),
    ("Europe/Dublin", "GMT0IST,M3.5.0/1,M10.5.0"), ("Europe/Helsinki", eastern),
    ("Europe/Istanbul", "<+03>-3"), ("Europe/Kiev", eastern), ("Europe/Kyiv", eastern),
    ("Europe/Lisbon", "WET0WEST,M3.5.0/1,M10.5.0"), ("Europe/London", "GMT0BST,M3.5.0/1,M10.5.0"),
    ("Europe/Madrid", central), ("Europe/Moscow", "MSK-3"), ("Europe/Oslo", central),
    ("Europe/Paris", central), ("Europe/Prague", central), ("Europe/Rome", central),
    ("Europe/Stockholm", central), ("Europe/Vienna", central), ("Europe/Warsaw", central),
    ("Europe/Zurich", central), ("Pacific/Auckland", "NZST-12NZDT,M9.5.0,M4.1.0/3"),
    ("Pacific/Honolulu", "HST10"), ("Pacific/Kiritimati", "<+14>-14"),
    ("US/Eastern", "EST5EDT,M3.2.0,M11.1.0"), ("US/Central", "CST6CDT,M3.2.0,M11.1.0"),
    ("US/Mountain", "MST7MDT,M3.2.0,M11.1.0"), ("US/Pacific", "PST8PDT,M3.2.0,M11.1.0"),
    ("CET", central), ("CST6CDT", "CST6CDT,M3.2.0,M11.1.0"), ("EET", eastern), ("EST", "EST5"),
    ("EST5EDT", "EST5EDT,M3.2.0,M11.1.0"), ("HST", "HST10"),
    ("MET", "MET-1MEST,M3.5.0,M10.5.0/3"), ("MST", "MST7"), ("MST7MDT", "MST7MDT,M3.2.0,M11.1.0"),
    ("PST8PDT", "PST8PDT,M3.2.0,M11.1.0"), ("WET", "WET0WEST,M3.5.0/1,M10.5.0")]

/-- The zone that a text means. -/
def ofText (s : String) : Zone :=
  let cs := s.toList
  let cs := if cs.head? = some ':' then cs.drop 1 else cs
  if cs = [] then utc
  else
    match places.lookup (String.ofList cs) with
    | some text => spelled text.toList
    | none =>
      let ahead := "Etc/GMT".toList
      if cs.take 7 = ahead then
        match takeClock (cs.drop 7) 14 with
        | some (west, []) =>
          let hours := west.natAbs / 3600
          let shown := (if west < 0 then "+" else "-") ++ (if hours < 10 then "0" else "") ++ toString hours
          if west = 0 then ⟨"GMT", 0, none⟩ else ⟨shown, -west, none⟩
        | _ => spelled cs
      else spelled cs

end Zone

end CrossBench
