import CrossBench.Decimal.Notation
import CrossBench.Text.Layout
import CrossBench.Tool.Letters

/-!
# Numbers with units

`numfmt` reads numbers with a letter behind them that stands for a power of a thousand, and writes numbers
in that way. It works with sixty-four binary digits. What a number loses where it is cut takes it away from zero
unless the call says otherwise.
-/

namespace CrossBench.Tool

open Shell Shell.Act

/-- A number, as a sign and a quotient of sixty-four binary digits. -/
structure Quantity where
  negative : Bool
  num : Nat
  den : Nat

/-- Where a number between two whole numbers goes. -/
inductive Rounding where
  | up
  | down
  | fromZero
  | towardsZero
  | nearest
  deriving DecidableEq, Inhabited

namespace Quantity

/-- The quantity nearest to a quotient. -/
def ofQuotient (negative : Bool) (num den : Nat) : Quantity :=
  let (n, d) := Decimal.nearest 64 num den
  ⟨negative, n, d⟩

/-- A quantity so many times. -/
def times (q : Quantity) (k : Nat) : Quantity := ofQuotient q.negative (q.num * k) q.den

/-- One of so many parts of a quantity. -/
def part (q : Quantity) (k : Nat) : Quantity := ofQuotient q.negative q.num (q.den * k)

/-- A quantity that is further from zero, by another one's size. -/
def further (q r : Quantity) : Quantity :=
  ofQuotient q.negative (q.num * r.den + r.num * q.den) (q.den * r.den)

/-- Whether a quantity's size is at least a whole number. -/
def reaches (q : Quantity) (k : Nat) : Bool := k * q.den ≤ q.num

/-- The whole number that a quantity goes to. Zero has no sign. -/
def whole (q : Quantity) (r : Rounding) : Quantity :=
  let floor := q.num / q.den
  let ceiling := (q.num + q.den - 1) / q.den
  let n :=
    match r with
    | .up => if q.negative then floor else ceiling
    | .down => if q.negative then ceiling else floor
    | .fromZero => ceiling
    | .towardsZero => floor
    | .nearest =>
      let half := q.further ⟨false, 1, 2⟩
      half.num / half.den
  ofQuotient (q.negative && n != 0) n 1

/-- A quantity that is cut behind so many places. -/
def cut (q : Quantity) (r : Rounding) (places : Nat) : Quantity :=
  ((q.times (Nat.pow 10 places)).whole r).part (Nat.pow 10 places)

/-- A quantity divided by a base until it is below it, and how often that was. -/
def below (base : Nat) : Nat → Quantity → Nat → Quantity × Nat
  | 0, q, n => (q, n)
  | fuel + 1, q, n => if q.reaches base then below base fuel (q.part base) (n + 1) else (q, n)

/-- A sign in front of a text. -/
def signed (q : Quantity) (text : String) : String := (if q.negative then "-" else "") ++ text

/-- A quantity in six digits. -/
def short (q : Quantity) : String := q.signed (Decimal.generalText false 6 q.num q.den)

end Quantity

/-! ## Units -/

/-- What a letter behind a number means: nothing, a power of a thousand or of 1024, the latter perhaps with a
mark behind it, or whichever the mark shows. -/
inductive Scale where
  | none
  | auto
  | thousands
  | binary
  | marked
  deriving DecidableEq, Inhabited

namespace Scale

/-- The scale of a name. -/
def ofName : String → Scale
  | "auto" => .auto
  | "si" => .thousands
  | "iec" => .binary
  | "iec-i" => .marked
  | _ => .none

/-- The number whose powers the letters stand for. -/
def base : Scale → Nat
  | .binary | .marked => 1024
  | _ => 1000

end Scale

/-- The letters of the powers, from the first on. -/
def powerLetters : List Char := ['K', 'M', 'G', 'T', 'P', 'E', 'Z', 'Y']

/-! ## Reading -/

/-- Why a text is no quantity. -/
inductive QuantityFlaw where
  | notNumber
  | tooLarge
  | unknownUnit
  | refusedUnit
  | missingMark
  | more (rest : List Char)

/-- The words for a flaw in a text. -/
def QuantityFlaw.message (text : String) : QuantityFlaw → String
  | notNumber => "invalid number: " ++ cited text
  | tooLarge => "value too large to be converted: " ++ cited text
  | unknownUnit => "invalid suffix in input: " ++ cited text
  | refusedUnit => "rejecting suffix in input: " ++ cited text ++ " (consider using --from)"
  | missingMark => "missing 'i' suffix in input: " ++ cited text ++ " (e.g Ki/Mi/Gi)"
  | more rest => "invalid suffix in input " ++ cited text ++ ": " ++ cited (String.ofList rest)

/-- A quantity that has been read, with its places and whether it had too many digits to be exact. -/
structure QuantityRead where
  value : Quantity
  places : Nat
  blurred : Bool
  rest : List Char

/-- Reads a whole number, perhaps with a sign. There may be no digits if a point follows. -/
def readWhole (cs : List Char) : Except QuantityFlaw QuantityRead :=
  let (negative, cs) :=
    match cs with
    | '-' :: rest => (true, rest)
    | _ => (false, cs)
  let digits := cs.takeWhile Char.isDigit
  let rest := cs.drop digits.length
  let count := (digits.dropWhile (· == '0')).length
  if 27 < count then .error .tooLarge
  else if digits = [] ∧ rest.head? ≠ some '.' then .error .notNumber
  else
    let value := digits.foldl (fun (q : Quantity) c => (q.times 10).further ⟨false, c.toNat - 48, 1⟩) ⟨negative, 0, 1⟩
    .ok ⟨value, digits.length, 18 < count, rest⟩

/-- Reads a number with a point or without. -/
def readPointed (cs : List Char) : Except QuantityFlaw QuantityRead := do
  let q ← readWhole cs
  match q.rest with
  | '.' :: rest =>
    let f ← readWhole rest
    if f.value.negative then .error .notNumber
    else .ok ⟨q.value.further (f.value.part (Nat.pow 10 f.places)), f.places, q.blurred || f.blurred, f.rest⟩
  | _ => .ok { q with places := 0 }

/-- Reads a number with the letter of a power behind it or without. -/
def readQuantity (scale : Scale) (cs : List Char) : Except QuantityFlaw QuantityRead := do
  let q ← readPointed cs
  let scaled (power base : Nat) (rest : List Char) : QuantityRead :=
    ⟨q.value.times (Nat.pow base power), 0, q.blurred, rest⟩
  let r ←
    match q.rest, q.rest.dropWhile isBlank with
    | [], _ => pure q
    | _, [] => if scale = .none then .error .refusedUnit else pure { q with places := 0, rest := [] }
    | _, c :: rest =>
      match powerLetters.idxOf? c with
      | none => .error .unknownUnit
      | some i =>
        match scale, rest with
        | .none, _ => .error .refusedUnit
        | .auto, 'i' :: rest => pure (scaled (i + 1) 1024 rest)
        | _, _ => pure (scaled (i + 1) scale.base rest)
  let rest ←
    match scale, r.rest with
    | .marked, 'i' :: rest => pure rest
    | .marked, _ => .error .missingMark
    | _, rest => pure rest
  if rest = [] then .ok { r with rest } else .error (.more rest)
where
  isBlank (c : Char) : Bool := c == ' ' || c == '\t'

/-! ## Writing -/

/-- How a number is written: in what is in front of it and behind it, in so many places, and with zeros in
front up to a width. -/
structure NumberForm where
  front : String := ""
  behind : String := ""
  width : Option Int := none
  zeros : Nat := 0
  places : Option Nat := none
  grouped : Bool := false

namespace NumberForm

/-- What is in front of the directive in a format, with the text from it on. Two signs in front of it count
as one character. -/
def front? (text : List Char) : Nat → List Char → Option (List Char × List Char)
  | _, [] => none
  | n, '%' :: '%' :: rest => front? text (n + 1) rest
  | n, '%' :: rest => some (text.take n, rest)
  | n, _ :: rest => front? text (n + 1) rest

/-- The marks in front of a width: whether digits are grouped, whether zeros fill, and what is behind. -/
def marks : List Char → Bool → Bool → Bool × Bool × List Char
  | '\'' :: rest, _, zeros => marks rest true zeros
  | '0' :: rest, grouped, _ => marks rest grouped true
  | ' ' :: rest, grouped, zeros => marks rest grouped zeros
  | rest, grouped, zeros => (grouped, zeros, rest)

/-- A whole number at the beginning of a text, and what is behind it. Without digits there is none. -/
def integerAt (cs : List Char) : Option Int × List Char :=
  let behind := cs.dropWhile isSpace
  let (negative, behind) :=
    match behind with
    | '-' :: rest => (true, rest)
    | '+' :: rest => (false, rest)
    | rest => (false, rest)
  let digits := behind.takeWhile Char.isDigit
  if digits = [] then (none, cs)
  else
    let n : Nat := digits.foldl (fun n c => n * 10 + (c.toNat - 48)) 0
    (some (if negative then -(n : Int) else n), behind.drop digits.length)

/-- Whether a number takes more than sixty-four bits. -/
def isWide (n : Int) : Bool := n < -9223372036854775808 || 9223372036854775807 < n

/-- Whether there is a directive in a text. -/
def hasDirective : List Char → Bool
  | [] => false
  | '%' :: '%' :: rest => hasDirective rest
  | '%' :: _ => true
  | _ :: rest => hasDirective rest

/-- The form that a format describes. -/
def ofText (text : String) : Except String NumberForm := do
  let called := cited text
  let (front, rest) ←
    match front? text.toList 0 text.toList with
    | some r => pure r
    | none => .error ("format " ++ called ++ " has no % directive")
  let (grouped, zeros, rest) := marks rest false false
  let (pad, rest) := integerAt rest
  if pad.any isWide then .error ("invalid format " ++ called ++ " (width overflow)")
  let pad := pad.filter (· ≠ 0)
  let fills := zeros && pad.any (0 < ·)
  if rest = [] then .error ("format " ++ called ++ " ends in %")
  let (places, rest) ←
    match rest with
    | '.' :: rest =>
      let (n, behind) := integerAt rest
      let wrong := rest.head?.any (fun c => c == ' ' || c == '\t' || c == '+') || n.any fun n => n < 0 || isWide n
      if wrong then .error ("invalid precision in format " ++ called)
      else pure (some ((n.getD 0).toNat), behind)
    | rest => pure (none, rest)
  match rest with
  | 'f' :: rest =>
    if hasDirective rest then .error ("format " ++ called ++ " has too many % directives")
    else
      .ok
        { front := String.ofList front, behind := String.ofList rest, places, grouped
          width := if fills then none else pad
          zeros := if fills then (pad.getD 0).toNat else 0 }
  | _ => .error ("invalid format " ++ called ++ ", directive must be %[0]['][-][N][.][N]f")

end NumberForm

/-- A quantity with so many places, with zeros between the sign and the digits up to a width. -/
def Quantity.text (q : Quantity) (zeros places : Nat) : String :=
  let digits := Decimal.fixedText places q.num q.den
  let room := zeros - (if q.negative then 1 else 0)
  q.signed (String.ofList (List.replicate (room - digits.length) '0') ++ digits)

/-- A quantity as it is written: on a scale, with places of its own unless the form has them. -/
def NumberForm.text (form : NumberForm) (scale : Scale) (rounding : Rounding) (places : Nat) (q : Quantity) : String :=
  match scale with
  | .none => (q.cut rounding places).text form.zeros places
  | _ =>
    let base := scale.base
    let (q, power) := q.below base 100 0
    let kept :=
      match form.places with
      | some n => min (power * 3) n
      | none => if q.reaches 10 then 0 else 1
    let q := q.cut rounding kept
    let (q, power) := if q.reaches base then (q.part base, power + 1) else (q, power)
    let shown := form.places.getD (if q.num ≠ 0 ∧ !q.reaches 10 ∧ power ≠ 0 then 1 else 0)
    let letter := if power = 0 then "" else ((powerLetters[power - 1]?).map String.singleton).getD "(error)"
    q.text form.zeros shown ++ letter ++ (if scale = .marked ∧ power ≠ 0 then "i" else "")

/-! ## The program -/

/-- What happens to a text that is no number. -/
inductive OnFlaw where
  | abort
  | fail
  | warn
  | ignore
  deriving DecidableEq, Inhabited

/-- A call of `numfmt`. -/
structure Conversion where
  source : Scale := .none
  target : Scale := .none
  sourceUnit : Nat := 1
  targetUnit : Nat := 1
  rounding : Rounding := .fromZero
  suffix : Option String := none
  /-- The width, on the left side if it is below zero. -/
  padding : Option Int := none
  fields : Option (List (Nat × Option Nat)) := none
  divider : Option Char := none
  header : Nat := 0
  form : NumberForm := {}
  onFlaw : OnFlaw := .abort
  tells : Bool := false

namespace Conversion

/-- Says what is wrong with a text, and ends the program if it is to end. -/
def object (c : Conversion) (why : String) : Act Unit :=
  match c.onFlaw with
  | .abort => stop 2 why
  | .ignore => return ()
  | _ => say why

/-- The text for a quantity that has been read with some places. There may be none for one that is too large. -/
def written (c : Conversion) (q : Quantity) (places : Nat) : Except String String :=
  let places := c.form.places.getD places
  let size := (q.below 10 100 0).2
  if c.target = .none ∧ 18 < size + places then
    .error (
      if places = 0 then "value too large to be printed: '" ++ q.short ++ "' (consider using --to)"
      else "value/precision too large to be printed: '" ++ q.short ++ "/" ++ toString places
        ++ "' (consider using --to)")
  else if 26 < size then
    .error ("value too large to be printed: '" ++ q.short ++ "' (cannot handle values > 999Y)")
  else .ok (c.form.text c.target c.rounding places q ++ c.suffix.getD "")

/-- What is printed for a field, and whether it was a number. -/
def field (c : Conversion) (number : Nat) (text : List Char) : Act (String × Bool) := do
  let isChosen :=
    match c.fields with
    | none => number = 1
    | some ranges => ranges.any fun r => decide (r.1 ≤ number) && r.2.all (number ≤ ·)
  if !isChosen then return (String.ofList text, true)
  else
    let suffix := (c.suffix.getD "").toList
    let text := if suffix.length < text.length ∧ suffix.isSuffixOf text then text.take (text.length - suffix.length) else text
    let plain := text.dropWhile readQuantity.isBlank
    let padding :=
      match c.padding, c.divider with
      | some n, _ => n
      | none, some _ => 0
      | none, none => if plain.length < text.length || 1 < number then (text.length : Int) else 0
    match readQuantity c.source plain with
    | .error flaw =>
      c.object (flaw.message (String.ofList plain))
      return (String.ofList text, false)
    | .ok r =>
      if r.blurred && c.tells then
        say ("large input value " ++ cited (String.ofList plain) ++ ": possible precision loss")
      let value :=
        if c.sourceUnit = 1 ∧ c.targetUnit = 1 then r.value else (r.value.times c.sourceUnit).part c.targetUnit
      match c.written value r.places with
      | .error why =>
        c.object why
        return (String.ofList text, false)
      | .ok shown =>
        let cell : Cell := ⟨shown, padding.natAbs, none⟩
        let shown := if padding < 0 then cell.left ' ' else cell.right ' '
        return (c.form.front ++ shown ++ c.form.behind, true)

/-- The fields of a line. Without a divider, the white space in front of a field belongs to it. -/
def fieldsOf (divider : Option Char) (line : List Char) : List (List Char) :=
  match divider with
  | some d => line.splitOn d
  | none =>
    let parts := line.splitBy fun a b => !(isGap b && !isGap a)
    -- One gap character between two fields stands for the divider.
    match parts with
    | [] => [[]]
    | first :: others => first :: others.map (·.drop 1)
where
  isGap (c : Char) : Bool := c == ' ' || c == '\t' || c == '\n'

/-- Prints a line with its numbers converted; whether all of them were numbers. -/
def line (c : Conversion) (text : List Char) : Act Bool := do
  let gap := String.singleton (c.divider.getD ' ')
  let parts := (fieldsOf c.divider text).zipIdx 1
  parts.foldlM (fun good (part, number) => do
    if 1 < number then out gap
    let (shown, fine) ← c.field number part
    out shown
    return good && fine) true

/-- A number between two bounds, perhaps with a sign and blanks in front. -/
def bounded? (low high : Int) (text : String) : Option Int :=
  match NumberForm.integerAt text.toList with
  | (some n, []) => if low ≤ n ∧ n ≤ high then some n else none
  | _ => none

/-- The size of a unit: a number, a letter for a power of a thousand, or one with a mark for a power
of 1024. -/
def unit? (text : String) : Option Nat :=
  let cs := text.toList
  let letters := "KMGTPEZY"
  let n :=
    match cs.reverse with
    | 'i' :: c :: _ => if c.isDigit then none else scaled? letters (String.ofList cs.dropLast)
    | c :: _ => if c.isDigit then decimal? text else scaled? letters (text ++ "B")
    | [] => none
  n.filter fun n => 0 < n ∧ n < 18446744073709551616

/-- What one option does to a conversion. -/
def take (c : Conversion) (name value : String) : Act Conversion := do
  match name with
  | "from" =>
    return { c with source := Scale.ofName (← wordGiven "--from" value ["none", "auto", "si", "iec", "iec-i"]) }
  | "to" => return { c with target := Scale.ofName (← wordGiven "--to" value ["none", "si", "iec", "iec-i"]) }
  | "from-unit" | "to-unit" =>
    match unit? value with
    | some n => return if name = "to-unit" then { c with targetUnit := n } else { c with sourceUnit := n }
    | none => stop 1 ("invalid unit size: " ++ cited value)
  | "round" =>
    let rounding : Rounding ←
      match ← wordGiven "--round" value ["up", "down", "from-zero", "towards-zero", "nearest"] with
      | "up" => pure .up
      | "down" => pure .down
      | "towards-zero" => pure .towardsZero
      | "nearest" => pure .nearest
      | _ => pure .fromZero
    return { c with rounding }
  | "padding" =>
    match bounded? (-9223372036854775807) 9223372036854775807 value with
    | some n =>
      if n ≠ 0 then return { c with padding := some n } else stop 1 ("invalid padding value " ++ cited value)
    | none => stop 1 ("invalid padding value " ++ cited value)
  | "field" =>
    if c.fields.isSome then stop 1 "multiple field specifications"
    else if value = "-" then return { c with fields := some [(1, none)] }
    else
      match rangesOf true value with
      | .ok ranges => return { c with fields := some ranges }
      | .error why => misuse 1 why
  | "d" =>
    if 1 < value.length then stop 1 "the delimiter must be a single character"
    else return { c with divider := some (value.toList.headD (Char.ofNat 0)) }
  | "suffix" => return { c with suffix := some value }
  | "debug" => return { c with tells := true }
  | "header" =>
    if value = "" then return { c with header := 1 }
    else
      match bounded? 1 18446744073709551615 value with
      | some n => return { c with header := n.toNat }
      | none => stop 1 ("invalid header value " ++ cited value)
  | "invalid" =>
    let onFlaw : OnFlaw ←
      match ← wordGiven "--invalid" value ["abort", "fail", "warn", "ignore"] with
      | "fail" => pure .fail
      | "warn" => pure .warn
      | "ignore" => pure .ignore
      | _ => pure .abort
    return { c with onFlaw }
  | _ => return c

end Conversion

/-- Converts numbers between notations with units and without. -/
def numfmt : Act Nat := do
  let g ← given
    { letters := "z", valued := "d"
      words := [("grouping", "grouping"), ("debug", "debug"), ("zero-terminated", "z")]
      valuedWords := [("from", "from"), ("from-unit", "from-unit"), ("to", "to"), ("to-unit", "to-unit"),
        ("round", "round"), ("padding", "padding"), ("suffix", "suffix"), ("delimiter", "d"), ("field", "field"),
        ("format", "format"), ("invalid", "invalid")]
      freeWords := [("header", "header")] }
  let c ← g.options.foldlM (fun (c : Conversion) o => c.take o.1 o.2) {}
  let grouping := g.has "grouping"
  let format := g.value? "format"
  if format.isSome && grouping then stop 1 "--grouping cannot be combined with --format"
  if c.tells && c.source = .none && c.target = .none && !grouping && c.padding.isNone && format.isNone then
    say "no conversion option specified"
  let form : NumberForm ←
    match format.map NumberForm.ofText with
    | none => pure { grouped := grouping }
    | some (.ok form) => pure form
    | some (.error why) => stop 1 why
  if c.tells && form.width.isSome && c.padding.isSome then say "--format padding overriding --padding"
  if form.grouped then
    if c.target ≠ .none then stop 1 "grouping cannot be combined with --to"
    if c.tells then say "grouping has no effect in this locale"
  let c := { c with form, padding := form.width.orElse fun _ => c.padding }
  let mark := lineMark (g.has "z")
  let good ←
    if g.operands ≠ [] then
      if c.tells && c.header ≠ 0 then say "--header ignored with command-line input"
      g.operands.foldlM (fun good text => do
        let fine ← c.line text.toList
        out (String.singleton mark)
        return good && fine) true
    else
      let result : Except IoError Bool ← repeating (c.header, true) fun (header, good) => do
        match ← readTo 0 (lineEnd (g.has "z")) with
        | .error e => return .inr (.error e)
        | .ok bytes =>
          if bytes.isEmpty then return .inr (.ok good)
          else if 0 < header then
            outBytes bytes
            return .inl (header - 1, good)
          else
            let cs := charsOf bytes
            let whole := cs.getLast? = some mark
            let text := if whole then cs.dropLast else cs
            let fine ← c.line (text.takeWhile (· ≠ Char.ofNat 0))
            if whole then out (String.singleton mark)
            return .inl (header, good && fine)
      match result with
      | .ok good => pure good
      | .error e => stop 1 ("error reading input: " ++ e.plainMessage)
  if c.tells && !good then say "failed to convert some of the input numbers"
  return if !good && c.onFlaw ≠ .warn && c.onFlaw ≠ .ignore then 2 else 0

end CrossBench.Tool
