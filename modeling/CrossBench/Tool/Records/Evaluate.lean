import CrossBench.Text.TimeWords
import CrossBench.Tool.Records.Machine
import CrossBench.Tool.Records.Stream

/-!
# Running programs for records

Expressions have values and effects, and statements only effects. A statement that is left throws the
reason, which the loop, the function or the program around it catches. Both are followed to a depth that
no program reaches.

The arguments of a format are values, and there must be one for each conversion. In a text that is put
in place of a match an ampersand stands for the match, unless it has a backslash in front.
-/

namespace CrossBench.Tool.Records

open Shell

/-! ## Formats and replacements -/

/-- What printing by a format has come to: the text, the last character first, and the arguments that are
left. -/
structure Forming where
  taken : List Char
  values : List Value
  conversions : Nat

/-- Why a format cannot be followed. -/
inductive FormFault where
  | missing
  | improper (conversion : Nat)

/-- A count in a conversion: digits, or an argument. -/
def countOf (cs : List Char) (values : List Value) :
    Except FormFault (Option Int × List Char × List Value) :=
  match cs with
  | '*' :: rest =>
    match values with
    | [] => .error .missing
    | v :: values => .ok (some (clamped (-2147483648) 2147483647 v.toFloat), rest, values)
  | cs =>
    let ds := cs.takeWhile Char.isDigit
    .ok (if ds = [] then none else some (Arithmetic.ofDigits 10 ds : Nat), cs.drop ds.length, values)

/-- The character that a value is: that of its number, or the first of its text. -/
def characterOf (v : Value) : List Char :=
  let first (s : String) : List Char := [s.toList.head?.getD (Char.ofNat 0)]
  let coded (x : Float) : List Char := [Char.ofNat (clamped 0 (Nat.pow 2 31) x % 256).toNat]
  match v.plain with
  | .unset => []
  | .number x => coded x
  | .text s => first s
  | .input s => coded (numberIn s)

/-- A value as a conversion has it, if there is such a conversion. -/
def convertedValue? (conversion : String) (c : Shell.Conversion) (v : Value) : Option (List Char) :=
  let left := c.flags.contains '-'
  match c.letter with
  | 's' =>
    let cs := (v.toText conversion).toList
    let cs := match c.precision with
      | some n => if n < 0 then cs else cs.take n.toNat
      | none => cs
    some (Printing.inField c.width left ' ' cs)
  | 'c' => some (Printing.inField c.width left ' ' (characterOf v))
  | letter =>
    if letter = 'd' ∨ letter = 'i' then
      some (Printing.integerText c (clamped (-(Nat.pow 2 63 : Nat)) (Nat.pow 2 64 - 1) v.toFloat))
    else if "ouxX".toList.contains letter then
      some (Printing.integerText c (clamped (-(Nat.pow 2 63 : Nat)) (Nat.pow 2 64 - 1) v.toFloat))
    else if "eEfFgG".toList.contains letter then
      let (negative, m) := magnitudeOf v.toFloat
      some (Printing.fractionText c negative m)
    else none

/-- Follows a format. -/
def follow (conversion : String) : Nat → List Char → Forming → Except FormFault (List Char)
  | 0, _, f => .ok f.taken.reverse
  | _, [], f => .ok f.taken.reverse
  | n + 1, '%' :: '%' :: rest, f => follow conversion n rest { f with taken := '%' :: f.taken }
  | n + 1, '%' :: rest, f => do
    let flags := rest.takeWhile fun c => "-+ #0".toList.contains c
    let (width, rest, values) ← countOf (rest.drop flags.length) f.values
    let (precision, rest, values) ←
      match rest with
      | '.' :: rest => do
        let (p, rest, values) ← countOf rest values
        pure (some (p.getD 0), rest, values)
      | rest => pure (none, rest, values)
    let rest := rest.dropWhile fun c => c == 'l' || c == 'h'
    let flags := if width.any (· < 0) then '-' :: flags else flags
    let width := width.map fun (w : Int) => (w.natAbs : Int)
    match values with
    | [] => throw .missing
    | v :: values =>
      match rest with
      | [] => throw (.improper (f.conversions + 1))
      | letter :: rest =>
        match convertedValue? conversion ⟨flags, width, precision, letter, [], []⟩ v with
        | none => throw (.improper (f.conversions + 1))
        | some cs => follow conversion n rest ⟨cs.reverse ++ f.taken, values, f.conversions + 1⟩
  | n + 1, c :: rest, f => follow conversion n rest { f with taken := c :: f.taken }

/-- What values come to by a format, for one who uses it. -/
def byForm (who : String) (form : Value) (values : List Value) : Run String := do
  let conversion ← conversion
  let form := form.toText conversion
  match follow conversion (form.length + 1) form.toList ⟨[], values, 0⟩ with
  | .ok cs => return String.ofList cs
  | .error .missing => crash ("not enough arguments passed to " ++ who ++ "(\"" ++ form ++ "\")")
  | .error (.improper n) =>
    crash ("improper conversion(number " ++ toString n ++ ") in " ++ who ++ "(\"" ++ form ++ "\")")

/-! ## Putting texts in place of others -/

/-- A piece of a text that is put in place of a match. -/
inductive Filling where
  | char (c : Char)
  /-- The match. -/
  | found
  deriving DecidableEq

/-- The pieces of a text that is put in place of a match. In front of an ampersand each pair of
backslashes is one, and one more takes away what it means. -/
def fillings : Nat → List Char → List Filling
  | 0, _ => []
  | _, [] => []
  | n + 1, '&' :: rest => .found :: fillings n rest
  | n + 1, '\\' :: rest =>
    let more := rest.takeWhile (· == '\\')
    let count := more.length + 1
    match rest.drop more.length with
    | '&' :: after =>
      List.replicate (count / 2) (.char '\\') ++
        (if count % 2 = 1 then .char '&' else .found) :: fillings n after
    | after => List.replicate count (.char '\\') ++ fillings n after
  | n + 1, c :: rest => .char c :: fillings n rest

/-- What is put in place of a match. -/
def filled (pieces : List Filling) (found : List Char) : List Char :=
  pieces.flatMap fun p =>
    match p with
    | .char c => [c]
    | .found => found

/-- The text, the last character first, with something in place of its matches from a place on, and how
many there were. A match that is empty does not stand directly behind another one, where `after` is. -/
def replaceFrom (s : Regex.Subject) (r : Regex) (pieces : List Filling) (all : Bool) :
    Nat → Nat → Option Nat → List Char → Nat → List Char × Nat
  | 0, _, _, taken, count => (taken, count)
  | n + 1, place, after, taken, count =>
    let rest : Unit → List Char := fun _ =>
      (s.text.extract place s.text.size).toList.reverse ++ taken
    match r.find? s place with
    | none => (rest (), count)
    | some m =>
      let before := (s.text.extract place m.start).toList.reverse ++ taken
      let one : Option Char := s.text[m.start]?
      if m.start = m.stop && after = some m.start then
        match one with
        | some c => replaceFrom s r pieces all n (m.start + 1) none (c :: before) count
        | none => (before, count)
      else
        let found := (s.text.extract m.start m.stop).toList
        let taken := (filled pieces found).reverse ++ before
        if !all then ((s.text.extract m.stop s.text.size).toList.reverse ++ taken, count + 1)
        else if m.start = m.stop then
          match one with
          | some c => replaceFrom s r pieces all n (m.start + 1) none (c :: taken) (count + 1)
          | none => (taken, count + 1)
        else replaceFrom s r pieces all n m.stop (some m.stop) taken (count + 1)

/-- A text with something in place of its first match or of all of them, and how many there were. -/
def replaced (all : Bool) (r : Regex) (by_ text : String) : String × Nat :=
  let s := subjectOf text.toList
  let pieces := fillings (by_.length + 1) by_.toList
  let (taken, count) := replaceFrom s r pieces all (s.text.size + 2) 0 none [] 0
  if count = 0 then (text, 0) else (String.ofList taken.reverse, count)

/-! ## Random numbers -/

/-- The numbers from which random numbers are made that go with a seed. -/
def firstNumbers (seed : UInt32) : Array UInt32 :=
  let step (x : Int) : Int :=
    let y := (16807 * (x % 127773)) - 2836 * (x / 127773)
    if y < 0 then y + 2147483647 else y
  let first : Int := if seed = 0 then 1 else (seed.toNat : Int)
  let first := if (2147483648 : Int) ≤ first then first - 4294967296 else first
  let numbers := ((List.range 30).foldl (fun ((a, x) : Array UInt32 × Int) _ =>
    let y := step x
    (a.push (UInt32.ofNat (y % 4294967296).toNat), y)) (#[UInt32.ofNat (first % 4294967296).toNat], first)).1
  numbers.extract 3 numbers.size ++ numbers.extract 0 3

/-- The next random number, of 31 bits, and the numbers behind it. -/
def nextNumber (a : Array UInt32) : UInt32 × Array UInt32 :=
  let x := a.getD 0 0 + a.getD 28 0
  (x >>> 1, (a.extract 1 a.size).push x)

/-- The numbers that random numbers are made from for a seed. -/
def seeded (seed : UInt32) : Array UInt32 :=
  (List.range 310).foldl (fun a _ => (nextNumber a).2) (firstNumbers seed)

/-! ## Expressions and statements -/

/-- A place whose keys or number are known. -/
inductive Spot where
  | variable (v : Variable)
  | element (table : Nat) (k : Key)
  | field (n : Nat)

/-- The value at a spot. -/
def Spot.value : Spot → Run Value
  | .variable v => valueOf v
  | .element table k => do return (← inTable table fun t => t.get? k).getD .unset
  | .field n => fieldValue n

/-- Sets the value at a spot. -/
def Spot.set (a : Value) : Spot → Run Unit
  | .variable v => assign v a
  | .element table k => inTable table fun t => ((), t.insert k a)
  | .field n => setField n a

/-- The number of a field. -/
def fieldNumber (v : Value) : Run Nat := do
  let n := clamped (-2147483648) 2147483647 v.toFloat
  if n < 0 then crash ("negative field index $" ++ toString n)
  else return n.toNat

/-- Lets others take their turn. -/
def breathe : Run Unit := act (Act.step fun _ k => some ((), k))

/-- What the evaluation has been nested too deep for. -/
def tooDeep {α : Type} : Run α := act (throw (.gone (.signal 11)))

/-- A value as it is printed. -/
def printedText (v : Value) : Run String := do
  match v with
  | .number x =>
    match whole? x with
    | some _ => return numberText (← sharedText "OFMT") x
    | none => return numberText (← sharedText "OFMT") x
  | v => textOf v

/-- Puts a record where it is wanted. -/
def deliver (text : String) : Option Spot → Run Unit
  | none => setRecord text
  | some s => s.set (.input text)

/-- The seconds since the epoch that numbers for year, month, day, hour, minute and second tell. -/
def secondsOf (zone : Zone) (text : String) : Float :=
  let words := wordsOf text.toList
  let numbers := words.filterMap fun w => truncated? (numberIn w)
  match numbers with
  | year :: month :: day :: hour :: minute :: second :: _ =>
    let shown := TimeWords.dayAt year month day * 86400 + hour * 3600 + minute * 60 + second
    .ofInt ((zone.instantAt? shown none).getD (shown - zone.east))
  | _ => -1.0

/-- The part of a text of so many characters from a place on, where the first place is 1. -/
def partOf (s : String) (start length : Int) : String :=
  let start := start - 1
  let length := if start < 0 then length + start else length
  let start := max start 0
  String.ofList ((s.toList.drop start.toNat).take length.toNat)

/-- Where a text stands in another one, counted from 1; 0 if it does not. -/
def placeIn (part : List Char) : Nat → List Char → Nat
  | n, cs =>
    if part.isPrefixOf cs then n
    else
      match cs with
      | [] => 0
      | _ :: rest => placeIn part (n + 1) rest

/-- The greatest number of characters that is asked for. -/
def manyCharacters : Int := 2147483647

/-- A call of a function that every program has, with the values of its arguments. -/
def builtinValue (name : String) (vs : List Value) : Run Value := do
  let first := vs.headD .unset
  let calculated (f : Float → Float) : Run Value := return .number (f first.toFloat)
  match name, vs with
  | "length", [] => return .ofNat (← textOf (← recordValue)).length
  | "length", v :: _ => return .ofNat (← textOf v).length
  | "index", s :: t :: _ => return .ofNat (placeIn (← textOf t).toList 1 (← textOf s).toList)
  | "substr", s :: rest =>
    let text ← textOf s
    let start := clamped (-manyCharacters) manyCharacters ((rest.headD .unset).toFloat)
    let length :=
      match rest with
      | _ :: n :: _ => clamped (-manyCharacters) manyCharacters n.toFloat
      | _ => 2 * manyCharacters + 2
    return .text (partOf text start length)
  | "sprintf", form :: rest => return .text (← byForm "sprintf" form rest)
  | "sin", _ => calculated Float.sin
  | "cos", _ => calculated Float.cos
  | "atan2", y :: x :: _ => return .number (Float.atan2 y.toFloat x.toFloat)
  | "exp", _ => calculated Float.exp
  | "log", _ => calculated Float.log
  | "sqrt", _ => calculated Float.sqrt
  | "int", _ =>
    let x := first.toFloat
    return .number (if x < 0.0 then x.ceil else x.floor)
  | "rand", _ =>
    let m ← get
    let (n, random) := nextNumber m.random
    modify fun m => { m with random }
    return .number (n.toNat.toFloat / 2147483647.0)
  | "srand", vs =>
    let before := (← get).seed
    let seed : Value ←
      match vs with
      | v :: _ => pure v
      | [] => do
        let t ← act Act.now
        pure (.number (.ofInt t.seconds))
    let n := clamped (-2147483648) 4294967295 seed.toFloat
    modify fun m => { m with seed, random := seeded (.ofNat (n % 4294967296).toNat) }
    return before
  | "close", _ => return .number (← closeNamed (← textOf first))
  | "system", _ => return .number (← runCommand (← textOf first))
  | "toupper", _ => return .text ((← textOf first).map Char.toUpper)
  | "tolower", _ => return .text ((← textOf first).map Char.toLower)
  | "fflush", [] =>
    flushAll
    return .number 0.0
  | "fflush", _ => return .number (← flushNamed (← textOf first))
  | "systime", _ => return .number (.ofInt (← act Act.now).seconds)
  | "mktime", _ =>
    let zone := (← act get).zone
    return .number (secondsOf zone (← textOf first))
  | "strftime", vs =>
    let zone := (← act get).zone
    let now ← act Act.now
    let form ←
      match vs with
      | f :: _ => textOf f
      | [] => pure "%c"
    let t : Instant :=
      match vs with
      | _ :: t :: _ => ⟨clamped (-Nat.pow 2 60) (Nat.pow 2 60) t.toFloat, 0⟩
      | _ => now
    let zone :=
      match vs with
      | [_, _, u] => if u.holds then Zone.utc else zone
      | _ => zone
    return .text (Calendar.text zone t form)
  | _, _ => return .unset

mutual

/-- The value of an expression. -/
def evaluate : Nat → Expr → Run Value
  | 0, _ => tooDeep
  | n + 1, e => do
    match e with
    | .number x => return .number x
    | .text s => return .text s
    | .regex _ r =>
      let text ← textOf (← recordValue)
      return .ofBool (r.find? (subjectOf text.toList) 0).isSome
    | .value p => (← locate n p).value
    | .assign p e =>
      let spot ← locate n p
      let v ← evaluate n e
      spot.set v
      return v
    | .update op p e =>
      let spot ← locate n p
      let y ← evaluate n e
      let x ← spot.value
      let v := Value.number (op.apply x.toFloat y.toFloat)
      spot.set v
      return v
    | .step up before p =>
      let spot ← locate n p
      let x := (← spot.value).toFloat
      let y := if up then x + 1.0 else x - 1.0
      spot.set (.number y)
      return .number (if before then y else x)
    | .number_ e => return .number (← evaluate n e).toFloat
    | .opposite e => return .number (-(← evaluate n e).toFloat)
    | .not e => return .ofBool !(← evaluate n e).holds
    | .compute op a b =>
      let x ← evaluate n a
      let y ← evaluate n b
      return .number (op.apply x.toFloat y.toFloat)
    | .compare how a b =>
      let x ← evaluate n a
      let y ← evaluate n b
      return .ofBool (how.holds (x.order (← conversion) y))
    | .joined a b =>
      let x ← evaluate n a
      let y ← evaluate n b
      return .text ((← textOf x) ++ (← textOf y))
    | .matching negated a r =>
      let x ← textOf (← evaluate n a)
      let r ← regexFor n r
      return .ofBool ((r.find? (subjectOf x.toList) 0).isSome != negated)
    | .both a b =>
      if (← evaluate n a).holds then return .ofBool (← evaluate n b).holds else return .ofBool false
    | .either a b =>
      if (← evaluate n a).holds then return .ofBool true else return .ofBool (← evaluate n b).holds
    | .choose c a b => if (← evaluate n c).holds then evaluate n a else evaluate n b
    | .within keys v =>
      let vs ← evaluateAll n keys
      let k ← keyOfAll vs
      let number ← tableOf v
      return .ofBool (← inTable number fun t => t.get? k).isSome
    | .call name es => call n name es
    | .builtin name es => builtinValue name (← evaluateAll n es)
    | .size v =>
      match ← slotOf v with
      | .table number => return .ofNat ((← get).tables.getD number .empty).size
      | .scalar a => return .ofNat (← textOf a).length
    | .split e v by_ =>
      let text ← textOf (← evaluate n e)
      let separator ←
        match by_ with
        | none => pure (← get).separator
        | some (.regex _ r) => pure (.pattern r)
        | some e => do separatorOf (← textOf (← evaluate n e))
      let parts := divide separator text
      let number ← tableOf v
      inTable number fun _ => ((), Table.ofList (parts.map Value.input))
      return .ofNat parts.length
    | .find e r =>
      let text ← textOf (← evaluate n e)
      let r ← regexFor n r
      let (start, length) : Float × Float :=
        match r.find? (subjectOf text.toList) 0 with
        | some m => (.ofNat (m.start + 1), .ofNat (m.stop - m.start))
        | none => (0.0, -1.0)
      setShared "RSTART" (.number start)
      setShared "RLENGTH" (.number length)
      return .number start
    | .substitute all r e p =>
      let r ← regexFor n r
      let by_ ← textOf (← evaluate n e)
      let spot ← locate n p
      let text ← textOf (← spot.value)
      let (result, count) := replaced all r by_ text
      if 0 < count then spot.set (.text result)
      return .ofNat count
    | .getline origin source p => getline n origin source p

/-- The values of expressions. -/
def evaluateAll : Nat → List Expr → Run (List Value)
  | _, [] => return []
  | 0, _ => tooDeep
  | n + 1, e :: es => do
    let v ← evaluate n e
    return v :: (← evaluateAll n es)

/-- The regular expression that an expression stands for. -/
def regexFor : Nat → Expr → Run Regex
  | 0, _ => tooDeep
  | n + 1, e => do
    match e with
    | .regex _ r => return r
    | e => regexOfText (← textOf (← evaluate n e))

/-- The spot of a place; an element that is not there is made. -/
def locate : Nat → Place → Run Spot
  | 0, _ => tooDeep
  | n + 1, p => do
    match p with
    | .variable v => return .variable v
    | .element v keys =>
      let vs ← evaluateAll n keys
      let k ← keyOfAll vs
      let number ← tableOf v
      let there ← inTable number fun t => t.get? k
      if there.isNone then inTable number fun t => ((), t.insert k .unset)
      return .element number k
    | .field e =>
      let v ← evaluate n e
      return .field (← fieldNumber v)

/-- The value of a call of a function of the program. -/
def call : Nat → String → List Expr → Run Value
  | 0, _, _ => tooDeep
  | n + 1, name, es => do
    let m ← get
    match m.script.routines.lookup name with
    | none => return .unset
    | some r =>
      let slots ← slotsOf n es
      let own := slots.toArray ++ Array.replicate (r.parameters - slots.length) (Slot.scalar .unset)
      let before := (← get).own
      modify fun m => { m with own }
      let result ← tryCatch (do
        execute n r.body
        return Value.unset) fun
        | .answer v => return v
        | e => throw e
      modify fun m => { m with own := before }
      return result

/-- What is passed to a function. -/
def slotsOf : Nat → List Expr → Run (List Slot)
  | _, [] => return []
  | 0, _ => tooDeep
  | n + 1, e :: es => do
    let slot ←
      match e with
      | .value (.variable v) =>
        match ← slotOf v with
        | .table number => pure (Slot.table number)
        | .scalar .unset =>
          if v = .shared "NF" then pure (Slot.scalar (← valueOf v)) else pure (Slot.table (← tableOf v))
        | slot => pure slot
      | e => pure (Slot.scalar (← evaluate n e))
    return slot :: (← slotsOf n es)

/-- Reads a record on demand; what comes of it. -/
def getline : Nat → Origin → Option Expr → Option Place → Run Value
  | 0, _, _, _ => tooDeep
  | n + 1, origin, source, p => do
    let spot ←
      match p with
      | none => pure none
      | some p => some <$> locate n p
    match source with
    | none =>
      match ← nextInput with
      | none => return .number 0.0
      | some text =>
        deliver text spot
        return .number 1.0
    | some e =>
      let name ← textOf (← evaluate n e)
      let (result, told) ← nextFrom origin name
      match result with
      | none => return .number told
      | some text =>
        deliver text spot
        return .number told

/-- Does what a statement says. -/
def execute : Nat → Statement → Run Unit
  | 0, _ => tooDeep
  | n + 1, s => do
    match s with
    | .nothing => return ()
    | .expr e =>
      let _ ← evaluate n e
    | .print formed es sink =>
      let text ← printedAll n formed es
      match sink with
      | none => putPlainly text
      | some (kind, e) => put kind (← textOf (← evaluate n e)) text
    | .block l => executeAll n l
    | .cond c yes no => if (← evaluate n c).holds then execute n yes else execute n no
    | .loop c body =>
      breathe
      if (← evaluate n c).holds then
        if ← turn n body then execute n (.loop c body)
    | .onceAndLoop body c =>
      breathe
      if ← turn n body then
        if (← evaluate n c).holds then execute n (.onceAndLoop body c)
    | .counted first c next body =>
      match first with
      | some e =>
        let _ ← evaluate n e
      | none => pure ()
      count n c next body
    | .each k v body =>
      let number ← tableOf v
      let keys ← inTable number fun t => t.keys
      each n k body keys
    | .leaveLoop => throw .leaveLoop
    | .nextTurn => throw .nextTurn
    | .nextRecord => throw .nextRecord
    | .nextFile => throw .nextFile
    | .exit e =>
      match e with
      | some e =>
        let v ← evaluate n e
        modify fun m => { m with status := (clamped (-2147483648) 2147483647 v.toFloat % 256).toNat }
      | none => pure ()
      throw .exit
    | .answer e =>
      match e with
      | some e => throw (.answer (← evaluate n e))
      | none => throw (.answer .unset)
    | .delete v keys =>
      let vs ← evaluateAll n keys
      let k ← keyOfAll vs
      let number ← tableOf v
      inTable number fun t => ((), t.erase k)
    | .clear v =>
      let number ← tableOf v
      inTable number fun _ => ((), .empty)

/-- Does what statements say. -/
def executeAll : Nat → List Statement → Run Unit
  | _, [] => return ()
  | 0, _ => tooDeep
  | n + 1, s :: l => do
    execute n s
    executeAll n l

/-- Goes through the body of a loop; whether the loop goes on. -/
def turn : Nat → Statement → Run Bool
  | 0, _ => tooDeep
  | n + 1, body => tryCatch (do
      execute n body
      return true) fun
    | .leaveLoop => return false
    | .nextTurn => return true
    | e => throw e

/-- Goes through a loop that counts. -/
def count : Nat → Option Expr → Option Expr → Statement → Run Unit
  | 0, _, _, _ => tooDeep
  | n + 1, c, next, body => do
    breathe
    let goes ←
      match c with
      | some c => pure (← evaluate n c).holds
      | none => pure true
    if goes then
      if ← turn n body then
        match next with
        | some e =>
          let _ ← evaluate n e
        | none => pure ()
        count n c next body

/-- Goes through a loop for keys. -/
def each : Nat → Variable → Statement → List String → Run Unit
  | _, _, _, [] => return ()
  | 0, _, _, _ => tooDeep
  | n + 1, k, body, key :: keys => do
    assign k (.text key)
    if ← turn n body then each n k body keys

/-- What a statement prints. -/
def printedAll : Nat → Bool → List Expr → Run String
  | 0, _, _ => tooDeep
  | n + 1, formed, es => do
    if formed then
      let vs ← evaluateAll n es
      byForm "printf" (vs.headD .unset) (vs.drop 1)
    else
      let ending ← sharedText "ORS"
      if es.isEmpty then return (← textOf (← recordValue)) ++ ending
      else
        let vs ← evaluateAll n es
        let between ← sharedText "OFS"
        return between.intercalate (← vs.mapM printedText) ++ (← sharedText "ORS")

end

end CrossBench.Tool.Records
