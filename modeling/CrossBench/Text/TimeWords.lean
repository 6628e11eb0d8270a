import CrossBench.Text.Calendar

/-!
# Times in words

A time is told by dates, times of day, days of the week, zones, and spans by which it is earlier or
later. `instantOf?` reads them one after the other; each but the spans may be told once. What is not told
is taken from another instant.
-/

namespace CrossBench

namespace TimeWords

/-- What spans are measured in. -/
inductive TimeUnit where
  | year
  | month
  | day
  | hour
  | minute
  | second
  deriving DecidableEq

/-- A part of a text for a time. -/
inductive Token where
  /-- Digits, with how many there are. -/
  | number (n digits : Nat)
  /-- The same behind a sign. -/
  | signed (negative : Bool) (n digits : Nat)
  /-- Digits with more behind a point, which may stand behind a sign. -/
  | decimal (signed : Bool) (seconds : Int) (nanos : Nat)
  | half (afternoon : Bool)
  | month (n : Nat)
  | day (n : Nat)
  /-- A zone, with its seconds east of universal time. -/
  | zone (east : Int)
  /-- The other time of a zone. -/
  | summerZone (east : Int)
  /-- The zone that the clocks here are in. -/
  | localZone (other : Bool)
  | summer
  /-- A unit of time, taken so often. -/
  | unit (u : TimeUnit) (count : Nat)
  | shift (days : Int)
  | ordinal (n : Int)
  | ago (n : Int)
  /-- The letter between a date and a time of day. -/
  | between
  | sign (c : Char)

/-- The zones that have names, in minutes; those at the end are the other times of theirs. -/
def zones : List (String × Int) × List (String × Int) :=
  ([("WET", 0), ("ART", -180), ("BRT", -180), ("NST", -210), ("AST", -240), ("CLT", -240), ("EST", -300),
    ("CST", -360), ("MST", -420), ("PST", -480), ("AKST", -540), ("HST", -600), ("HAST", -600),
    ("SST", -720), ("WAT", 60), ("CET", 60), ("MET", 60), ("MEZ", 60), ("EET", 120), ("CAT", 120),
    ("SAST", 120), ("EAT", 180), ("MSK", 180), ("IST", 330), ("SGT", 480), ("KST", 540), ("JST", 540),
    ("GST", 600), ("NZST", 720)],
   [("WEST", 0), ("BST", 0), ("BRST", -180), ("NDT", -210), ("ADT", -240), ("CLST", -240), ("EDT", -300),
    ("CDT", -360), ("MDT", -420), ("PDT", -480), ("AKDT", -540), ("HADT", -600), ("CEST", 60),
    ("MEST", 60), ("MESZ", 60), ("EEST", 120), ("MSD", 180), ("NZDT", 720)])

/-- The zone of a name. -/
def zoneOf? (here : Zone) (w : String) : Option Token :=
  if w = "GMT" ∨ w = "UT" ∨ w = "UTC" then some (.zone 0)
  else if w = here.name.map Char.toUpper then some (.localZone false)
  else if here.summer.any fun s => w = s.1.map Char.toUpper then some (.localZone true)
  else
    match zones.1.lookup w, zones.2.lookup w with
    | some n, _ => some (.zone (n * 60))
    | none, some n => some (.summerZone (n * 60))
    | none, none => none

/-- The unit of a name. -/
def unitOf? (w : String) : Option Token :=
  match w with
  | "YEAR" => some (.unit .year 1)
  | "MONTH" => some (.unit .month 1)
  | "FORTNIGHT" => some (.unit .day 14)
  | "WEEK" => some (.unit .day 7)
  | "DAY" => some (.unit .day 1)
  | "HOUR" => some (.unit .hour 1)
  | "MINUTE" => some (.unit .minute 1)
  | "MIN" => some (.unit .minute 1)
  | "SECOND" => some (.unit .second 1)
  | "SEC" => some (.unit .second 1)
  | _ => none

/-- Words that say where on the way of time something is. -/
def relations : List (String × Token) :=
  [("TOMORROW", .shift 1), ("YESTERDAY", .shift (-1)), ("TODAY", .shift 0), ("NOW", .shift 0),
    ("LAST", .ordinal (-1)), ("THIS", .ordinal 0), ("NEXT", .ordinal 1), ("FIRST", .ordinal 1),
    ("THIRD", .ordinal 3), ("FOURTH", .ordinal 4), ("FIFTH", .ordinal 5), ("SIXTH", .ordinal 6),
    ("SEVENTH", .ordinal 7), ("EIGHTH", .ordinal 8), ("NINTH", .ordinal 9), ("TENTH", .ordinal 10),
    ("ELEVENTH", .ordinal 11), ("TWELFTH", .ordinal 12), ("AGO", .ago (-1)), ("HENCE", .ago 1)]

/-- The names of the months and of the days, with some that are shorter. -/
def monthsAndDays : List (String × Token) :=
  (Calendar.monthNames.zipIdx.map fun (n, i) => (n.map Char.toUpper, Token.month (i + 1)))
    ++ [("SEPT", .month 9)]
    ++ (Calendar.dayNames.zipIdx.map fun (n, i) => (n.map Char.toUpper, Token.day i))
    ++ [("TUES", .day 2), ("WEDNES", .day 3), ("THUR", .day 4), ("THURS", .day 4)]

/-- The zone of a single letter. -/
def letterZone? (c : Char) : Option Token :=
  let n : Int := c.toNat
  if c = 'T' then some .between
  else if c = 'Z' then some (.zone 0)
  else if 'A' ≤ c ∧ c ≤ 'I' then some (.zone ((n - 64) * 3600))
  else if 'K' ≤ c ∧ c ≤ 'M' then some (.zone ((n - 65) * 3600))
  else if 'N' ≤ c ∧ c ≤ 'Y' then some (.zone ((77 - n) * 3600))
  else none

/-- What a word means. -/
def wordOf? (here : Zone) (word : String) : Option Token :=
  let w := word.map Char.toUpper
  let abbreviated := w.length = 3 || (w.length = 4 && w.endsWith ".")
  let start (s : String) : String := String.ofList (s.toList.take 3)
  if w = "AM" ∨ w = "A.M." then some (.half false)
  else if w = "PM" ∨ w = "P.M." then some (.half true)
  else
    let named := monthsAndDays.find? fun e => if abbreviated then start e.1 = start w else e.1 = w
    let singular := if w.endsWith "S" then unitOf? (String.ofList w.toList.dropLast) else none
    let letter :=
      match w.toList with
      | [c] => letterZone? c
      | _ => none
    let bare := String.ofList (w.toList.filter (· != '.'))
    ((((((named.map (·.2)).or (zoneOf? here w)).or (if w = "DST" then some .summer else none)).or
      (unitOf? w)).or singular).or (relations.lookup w)).or
      (letter.or (if bare = w then none else zoneOf? here bare))

/-- Takes the digits behind a sign, or behind none. -/
def digitsToken (negative : Option Bool) (cs : List Char) : Token × List Char :=
  let ds := cs.takeWhile Char.isDigit
  let value (ds : List Char) : Nat := ds.foldl (fun n c => n * 10 + (c.toNat - 48)) 0
  let rest := cs.drop ds.length
  let plain : Token × List Char :=
    match negative with
    | none => (.number (value ds) ds.length, rest)
    | some s => (.signed s (value ds) ds.length, rest)
  match rest with
  | mark :: c :: more =>
    if (mark = '.' ∨ mark = ',') ∧ c.isDigit then
      let fs := (c :: more).takeWhile Char.isDigit
      let nine := value (fs.take 9) * Nat.pow 10 (9 - min 9 fs.length)
      let beyond := (fs.drop 9).any (· != '0')
      let after := (c :: more).drop fs.length
      if negative = some true then
        let nanos := nine + if beyond then 1 else 0
        if nanos = 0 then (.decimal true (-(value ds : Int)) 0, after)
        else (.decimal true (-(value ds : Int) - 1) (1000000000 - nanos), after)
      else (.decimal negative.isSome (value ds) nine, after)
    else plain
  | _ => plain

/-- What follows a text in parentheses, of which the first has not been taken. -/
def behindParentheses : Nat → Nat → List Char → Option (List Char)
  | 0, _, _ => none
  | _, _, [] => none
  | fuel + 1, depth, c :: rest =>
    if c = '(' then behindParentheses fuel (depth + 1) rest
    else if c = ')' then if depth ≤ 1 then some rest else behindParentheses fuel (depth - 1) rest
    else behindParentheses fuel depth rest

/-- White space. -/
def isSpace (c : Char) : Bool := c == ' ' || ('\t' ≤ c && c ≤ '\r')

/-- Takes a text apart. What stands in parentheses says nothing, and neither does a sign without
digits. -/
def tokens (here : Zone) : Nat → List Char → Option (List Token)
  | 0, _ => some []
  | _, [] => some []
  | fuel + 1, c :: rest =>
    let next (t : Token) (rest : List Char) : Option (List Token) := (tokens here fuel rest).map (t :: ·)
    if isSpace c then tokens here fuel rest
    else if c.isDigit then
      let (t, after) := digitsToken none (c :: rest)
      next t after
    else if c = '-' || c = '+' then
      let rest := rest.dropWhile isSpace
      match rest with
      | d :: _ =>
        if d.isDigit then
          let (t, after) := digitsToken (some (c = '-')) rest
          next t after
        else tokens here fuel rest
      | [] => some []
    else if c.isAlpha then
      let word := c :: rest.takeWhile fun c => c.isAlpha || c == '.'
      match wordOf? here (String.ofList (word.take 19)) with
      | some t => next t (rest.drop (word.length - 1))
      | none => none
    else if c = '(' then (behindParentheses (rest.length + 2) 0 (c :: rest)).bind (tokens here fuel)
    else next (.sign c) rest

/-- What has been told. -/
structure Told where
  year : Int
  /-- How many digits the year has been told by. -/
  yearDigits : Nat := 0
  month : Nat
  day : Nat
  hour : Nat
  minute : Nat
  second : Int
  nanos : Nat
  half : Option Bool := none
  years : Int := 0
  months : Int := 0
  days : Int := 0
  /-- A span in nanoseconds. -/
  span : Int := 0
  /-- Seconds since the epoch. -/
  instant : Option Instant := none
  weekday : Int × Nat := (0, 0)
  east : Int := 0
  other : Bool := false
  dates : Nat := 0
  times : Nat := 0
  weekdays : Nat := 0
  zones : Nat := 0
  localZones : Nat := 0
  summers : Nat := 0
  /-- Whether there has been a span. -/
  spans : Bool := false

namespace Told

/-- Adds a span: a number of units. -/
def add (p : Told) (u : TimeUnit) (n : Int) : Told :=
  let p := { p with spans := true }
  let second : Int := 1000000000
  match u with
  | .year => { p with years := p.years + n }
  | .month => { p with months := p.months + n }
  | .day => { p with days := p.days + n }
  | .hour => { p with span := p.span + n * 3600 * second }
  | .minute => { p with span := p.span + n * 60 * second }
  | .second => { p with span := p.span + n * second }

/-- A time of day. -/
def clock (p : Told) (hour minute : Nat) (second : Int) (nanos : Nat) (half : Option Bool) : Told :=
  { p with hour, minute, second, nanos, half, times := p.times + 1 }

/-- A date. -/
def date (p : Told) (month day : Nat) : Told := { p with month, day, dates := p.dates + 1 }

/-- A date with its year. -/
def fullDate (p : Told) (year : Int) (digits : Nat) (month day : Nat) : Told :=
  { p with year, yearDigits := digits, month, day, dates := p.dates + 1 }

/-- A number by itself: a year, a date or a time of day. -/
def number (p : Told) (n digits : Nat) : Told :=
  if 0 < p.dates && p.yearDigits = 0 && !p.spans && (0 < p.times || 2 < digits) then
    { p with year := n, yearDigits := digits }
  else if 4 < digits then p.fullDate (n / 10000 : Nat) (digits - 4) (n / 100 % 100) (n % 100)
  else if digits ≤ 2 then p.clock n 0 0 0 none
  else p.clock (n / 100) (n % 100) 0 0 none

/-- A zone by its difference in digits, of which minutes may stand behind a colon. -/
def difference? (negative : Bool) (n digits : Nat) (minutes : Option Nat) : Option Int :=
  let sign : Int := if negative then -1 else 1
  let all : Int :=
    match minutes with
    | some m => sign * (n * 60 + m : Nat)
    | none =>
      let n := if digits ≤ 2 then n * 100 else n
      sign * (n / 100 * 60 + n % 100 : Nat)
  if -1440 ≤ all ∧ all ≤ 1440 then some (all * 60) else none

end Told

/-- Takes a zone behind a time of day, if there is one. -/
def takeZone (p : Told) (ts : List Token) : Option (Told × List Token) :=
  match ts with
  | .signed negative n digits :: .sign ':' :: .number m _ :: rest =>
    (Told.difference? negative n digits (some m)).map fun east =>
      ({ p with east, zones := p.zones + 1 }, rest)
  | .signed negative n digits :: rest =>
    (Told.difference? negative n digits none).map fun east =>
      ({ p with east, zones := p.zones + 1 }, rest)
  | ts => some (p, ts)

/-- Takes the rest of a time of day, behind its hour. -/
def takeClock (p : Told) (hour : Nat) (ts : List Token) : Option (Told × List Token) :=
  let finish (minute : Nat) (second : Int) (nanos : Nat) (ts : List Token) : Option (Told × List Token) :=
    match ts with
    | .half h :: rest => some (p.clock hour minute second nanos (some h), rest)
    | ts => takeZone (p.clock hour minute second nanos none) ts
  match ts with
  | .half h :: rest => some (p.clock hour 0 0 0 (some h), rest)
  | .sign ':' :: .number m _ :: .sign ':' :: .number s _ :: rest => finish m s 0 rest
  | .sign ':' :: .number m _ :: .sign ':' :: .decimal false s nanos :: rest => finish m s nanos rest
  | .sign ':' :: .number _ _ :: .sign ':' :: _ => none
  | .sign ':' :: .number m _ :: rest => finish m 0 0 rest
  | .signed .. :: _ => takeZone (p.clock hour 0 0 0 none) ts
  | _ => none

/-- Takes a span of units behind their number. -/
def takeSpan (p : Told) (n : Int) (u : TimeUnit) (count : Nat) (rest : List Token) :
    Told × List Token :=
  match rest with
  | .ago sign :: rest => (p.add u (n * count * sign), rest)
  | rest => (p.add u (n * count), rest)

/-- Takes a span of seconds with a point. -/
def takeFraction (p : Told) (seconds : Int) (nanos : Nat) (rest : List Token) : Told × List Token :=
  let all := seconds * 1000000000 + nanos
  let (sign, rest) : Int × List Token :=
    match rest with
    | .ago sign :: rest => (sign, rest)
    | rest => (1, rest)
  ({ p with span := p.span + all * sign, spans := true }, rest)

/-- A number with its sign. -/
def signedValue (negative : Bool) (n : Nat) : Int := if negative then -(n : Int) else n

/-- Takes one thing that is told. -/
def item (p : Told) (ts : List Token) : Option (Told × List Token) :=
  let weekday (n : Int) (d : Nat) (rest : List Token) : Option (Told × List Token) :=
    some ({ p with weekday := (n, d), weekdays := p.weekdays + 1 }, rest)
  let zone (east : Int) (rest : List Token) : Option (Told × List Token) :=
    let p := { p with east, zones := p.zones + 1 }
    match rest with
    | .signed negative n _ :: .unit u count :: rest =>
      some (p.add u (signedValue negative n * count), rest)
    | .signed negative n digits :: .sign ':' :: .number m _ :: rest =>
      (Told.difference? negative n digits (some m)).map fun more => ({ p with east := east + more }, rest)
    | .signed negative n digits :: rest =>
      (Told.difference? negative n digits none).map fun more => ({ p with east := east + more }, rest)
    | .summer :: rest => some ({ p with east := east + 3600 }, rest)
    | rest => some (p, rest)
  match ts with
  | .number y digits :: .signed true m _ :: .signed true d _ :: rest
  | .number y digits :: .signed true m _ :: .signed false d _ :: rest
  | .number y digits :: .signed false m _ :: .signed true d _ :: rest
  | .number y digits :: .signed false m _ :: .signed false d _ :: rest =>
    let p := p.fullDate y digits m d
    match rest with
    | .between :: .number h _ :: rest => takeClock p h rest
    | rest => some (p, rest)
  | .number n digits :: .signed negative m _ :: .unit u count :: rest =>
    some (takeSpan (p.number n digits) (signedValue negative m) u count rest)
  | .number h _ :: .sign ':' :: rest => takeClock p h (.sign ':' :: rest)
  | .number h _ :: .half a :: rest => takeClock p h (.half a :: rest)
  | .number h _ :: .signed negative n digits :: rest => takeClock p h (.signed negative n digits :: rest)
  | .number a digits :: .sign '/' :: .number b _ :: .sign '/' :: .number c yearDigits :: rest =>
    if 4 ≤ digits then some (p.fullDate a digits b c, rest) else some (p.fullDate c yearDigits a b, rest)
  | .number m _ :: .sign '/' :: .number d _ :: rest => some (p.date m d, rest)
  | .number d _ :: .month m :: .signed _ y digits :: rest => some (p.fullDate y digits m d, rest)
  | .number d _ :: .month m :: .number y digits :: rest => some (p.fullDate y digits m d, rest)
  | .number d _ :: .month m :: rest => some (p.date m d, rest)
  | .number n _ :: .day d :: rest => weekday n d rest
  | .number n _ :: .unit u count :: rest => some (takeSpan p n u count rest)
  | .number n digits :: rest => some (p.number n digits, rest)
  | .signed negative n _ :: .unit u count :: rest => some (takeSpan p (signedValue negative n) u count rest)
  | .decimal _ s nanos :: .unit .second _ :: rest => some (takeFraction p s nanos rest)
  | .ordinal n :: .day d :: rest => weekday n d rest
  | .ordinal n :: .unit u count :: rest => some (takeSpan p n u count rest)
  | .month m :: .signed _ d _ :: .signed _ y digits :: rest => some (p.fullDate y digits m d, rest)
  | .month m :: .number d _ :: .sign ',' :: .number y digits :: rest => some (p.fullDate y digits m d, rest)
  | .month m :: .number d _ :: rest => some (p.date m d, rest)
  | .day d :: .sign ',' :: rest => weekday 0 d rest
  | .day d :: rest => weekday 0 d rest
  | .zone east :: rest => zone east rest
  | .between :: rest => zone (-25200) rest
  | .summerZone east :: rest => some ({ p with east := east + 3600, zones := p.zones + 1 }, rest)
  | .localZone _ :: .summer :: rest =>
    some ({ p with other := true, localZones := p.localZones + 1, summers := p.summers + 1 }, rest)
  | .localZone other :: rest => some ({ p with other, localZones := p.localZones + 1 }, rest)
  | .unit u count :: rest => some (takeSpan p 1 u count rest)
  | .shift days :: rest => some (p.add .day days, rest)
  | _ => none

/-- Takes all that is told. -/
def items : Nat → Told → List Token → Option Told
  | 0, _, _ => none
  | _, p, [] => some p
  | fuel + 1, p, ts => (item p ts).bind fun (p, rest) => items fuel p rest

/-- Seconds since the epoch, if nothing else is told. -/
def sinceEpoch? (ts : List Token) : Option Instant :=
  match ts with
  | [.number n _] => some ⟨n, 0⟩
  | [.signed negative n _] => some ⟨signedValue negative n, 0⟩
  | [.decimal _ s nanos] => some ⟨s, nanos⟩
  | _ => none

/-- The hour of a day that is told in halves. -/
def Told.hour? (p : Told) : Option Nat :=
  match p.half with
  | none => if p.hour < 24 then some p.hour else none
  | some afternoon =>
    if p.hour = 0 || 12 < p.hour then none
    else some (p.hour % 12 + if afternoon then 12 else 0)

/-- The year that is told, of which two digits are the last ones of a year that is near. -/
def Told.fullYear (p : Told) : Int :=
  if p.yearDigits = 2 && 0 ≤ p.year then if p.year < 69 then p.year + 2000 else p.year + 1900 else p.year

/-- The number of days in a month. -/
def monthLength (year : Int) (month : Nat) : Nat :=
  if month = 12 then 31 else daysBeforeMonth year (month + 1) - daysBeforeMonth year month

/-- The day of months that may lie outside of the year. -/
def dayAt (year : Int) (month : Int) (day : Int) : Int :=
  let all := year * 12 + month - 1
  dayNumber (all / 12) ((all % 12).toNat + 1) day

/-- The instant that has been told. -/
def Told.instant? (here : Zone) (p : Told) : Option Instant := do
  let once : Bool :=
    p.times ≤ 1 && p.dates ≤ 1 && p.weekdays ≤ 1 && p.summers ≤ 1 && p.localZones + p.zones ≤ 1
  if !once then none
  else
    let timed := 0 < p.times || (p.spans && p.dates = 0 && p.weekdays = 0)
    let hour ← if timed then p.hour? else some 0
    let minute := if timed then p.minute else 0
    let second := if timed then p.second else 0
    let nanos := if timed then p.nanos else 0
    let year := p.fullYear
    let fits : Bool :=
      1 ≤ p.month && p.month ≤ 12 && 1 ≤ p.day && p.day ≤ monthLength year p.month && minute < 60 && second < 60
    if !fits then none
    else
      let clock : Int := (hour * 3600 + minute * 60 : Nat) + second
      let other : Option Bool := if 0 < p.localZones then some p.other else none
      let start ← here.instantAt? (dayNumber year p.month p.day * 86400 + clock) other
      let shown := start + (here.clockAt start).2.1
      let today := shown / 86400
      let day : Int :=
        if 0 < p.weekdays && p.dates = 0 then
          let own : Int := (today + 4) % 7
          let wanted : Int := p.weekday.2
          let ahead : Int := if 0 < p.weekday.1 && own ≠ wanted then 1 else 0
          p.day + 7 * (p.weekday.1 - ahead) + (wanted - own + 7) % 7
        else p.day
      let moved : Bool := p.years ≠ 0 || p.months ≠ 0 || p.days ≠ 0 || day ≠ p.day
      let start :=
        if !moved then start
        else
          let number := dayAt (year + p.years) (p.month + p.months) (day + p.days)
          let shown := number * 86400 + clock
          ((here.instantAt? shown other).orElse fun _ => here.instantAt? shown none).getD (shown - here.east)
      let start := if 0 < p.zones then start + (here.clockAt start).2.1 - p.east else start
      let all := start * 1000000000 + nanos + p.span
      return ⟨all / 1000000000, (all % 1000000000).toNat⟩

/-- The zone that a text names in front of a time, and what follows. -/
def zoneInFront (here : Zone) (cs : List Char) : Zone × List Char :=
  let cs := cs.dropWhile isSpace
  let rec quoted : Nat → List Char → Option (List Char × List Char)
    | 0, _ => none
    | n + 1, '\\' :: c :: rest =>
      if c = '\\' ∨ c = '"' then (quoted n rest).map fun (t, after) => (c :: t, after) else none
    | _, '"' :: rest => some ([], rest)
    | n + 1, c :: rest => (quoted n rest).map fun (t, after) => (c :: t, after)
    | _, [] => none
  if cs.take 4 = ['T', 'Z', '=', '"'] then
    match quoted cs.length (cs.drop 4) with
    | some (name, rest) => (Zone.ofText (String.ofList name), rest.dropWhile isSpace)
    | none => (here, cs)
  else (here, cs)

/-- The instant that a text tells, seen from another one in a zone. -/
def instantOf? (here : Zone) (now : Instant) (text : String) : Option Instant := do
  let (here, cs) := zoneInFront here text.toList
  let cs := if cs = [] then ['0'] else cs
  let ts ← tokens here (cs.length + 1) cs
  match ts with
  | .sign '@' :: rest => sinceEpoch? rest
  | ts =>
    let c := Calendar.ofInstant here now
    let start : Told :=
      { year := c.year, month := c.month, day := c.day, hour := c.hour, minute := c.minute
        second := c.second, nanos := c.nanos }
    (items (ts.length + 1) start ts).bind (Told.instant? here)

/-- The instant that digits tell, two for each part and two or four for the year, or none. -/
def stampOf? (here : Zone) (now : Instant) (s : String) : Option Instant := do
  let (digits, seconds) ←
    match s.splitOn "." with
    | [d] => some (d, "00")
    | [d, s] => if s.length = 2 then some (d, s) else none
    | _ => none
  let all := (digits ++ seconds).toList
  if !all.all Char.isDigit then none
  let n (i k : Nat) : Nat := ((all.drop i).take k).foldl (fun n c => n * 10 + (c.toNat - 48)) 0
  let (year, start) ←
    match digits.length with
    | 8 => some ((Calendar.ofInstant here now).year, 0)
    | 10 => some ((if n 0 2 < 69 then 2000 + n 0 2 else 1900 + n 0 2 : Nat), 2)
    | 12 => some ((n 0 4 : Int), 4)
    | _ => none
  let month := n start 2
  let day := n (start + 2) 2
  let second := n (start + 8) 2
  if 1 ≤ month ∧ month ≤ 12 ∧ 1 ≤ day ∧ day ≤ monthLength year month ∧ n (start + 4) 2 < 24 ∧
      n (start + 6) 2 < 60 ∧ second < 61 then
    let clock : Int := (n (start + 4) 2 * 3600 + n (start + 6) 2 * 60 + min second 59 : Nat)
    let start ← here.instantAt? (dayNumber year month day * 86400 + clock) none
    return ⟨start + (if second = 60 then 1 else 0), 0⟩
  else none

end TimeWords

end CrossBench
