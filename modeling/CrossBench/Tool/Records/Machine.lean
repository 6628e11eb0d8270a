import CrossBench.Tool.Input
import CrossBench.Tool.Records.Number
import CrossBench.Tool.Records.Pattern
import CrossBench.Tool.Records.Syntax
import CrossBench.Tool.Records.Table

/-!
# What a program for records works with

The values of names, the record with its fields, and the files and commands that are open. A record is
divided into fields when they are needed, and put together again when one of them has been set. A text
that comes from the input counts as a number where it has the form of one.
-/

namespace CrossBench.Tool.Records

open Shell

/-- A value. -/
inductive Value where
  /-- What has not been set. -/
  | unset
  | number (x : Float)
  | text (s : String)
  /-- A text of the input. -/
  | input (s : String)
  deriving Inhabited

/-- What belongs to a name: a value, or a table by its number. A name that has not been used yet has the
number of a table as soon as it is passed on. -/
inductive Slot where
  | scalar (v : Value)
  | table (number : Nat)
  deriving Inhabited

/-- Where fields end. -/
inductive Separator where
  /-- At white space, which does not count in front and behind. -/
  | blanks
  /-- Behind each character. -/
  | characters
  | pattern (r : Regex)
  deriving Inhabited

/-- Where records end. -/
inductive Ending where
  | byte (c : UInt8)
  /-- At empty lines, which do not count in front. -/
  | paragraphs
  | pattern (r : Regex)
  deriving Inhabited

/-- What records are read from. -/
structure Source where
  fd : Nat
  /-- The command that writes them. -/
  pid : Option Pid
  /-- What has been read of it, from `place` on. -/
  buffer : ByteArray
  place : Nat
  ended : Bool
  deriving Inhabited

/-- Where something is printed. -/
structure Outlet where
  fd : Nat
  /-- The command that reads it. -/
  pid : Option Pid
  buffer : ByteArray
  deriving Inhabited

/-- The record and its fields. -/
structure Line where
  text : Value
  fields : Array Value
  /-- Whether the fields are those of the text. -/
  divided : Bool
  /-- Whether the text is that of the fields. -/
  whole : Bool
  /-- Where the fields end. -/
  separator : Separator
  deriving Inhabited

/-- What a program works with. -/
structure Machine where
  script : Script
  shared : Std.HashMap String Slot
  tables : Array (Table Value)
  /-- The parameters of the function that is under way. -/
  own : Array Slot
  line : Line
  separator : Separator
  ending : Ending
  /-- The input, once it has been opened. -/
  main : Option Source
  /-- The number of the next operand. -/
  operand : Nat
  /-- Whether an operand has been a file. -/
  opened : Bool
  sources : List (String × Source)
  outlets : List (String × Outlet)
  patterns : Std.HashMap String Regex
  /-- The ranges in which the program is. -/
  ranges : List Nat
  /-- The last random numbers, from which the next ones are made. -/
  random : Array UInt32
  seed : Value
  status : Nat

/-- Why a statement is left. -/
inductive Escape where
  | leaveLoop
  | nextTurn
  | nextRecord
  | nextFile
  | exit
  | answer (v : Value)

/-- What a program for records does. -/
abbrev Run := ExceptT Escape (StateT Machine Act)

/-- What a running program does. -/
def act {α : Type} (a : Act α) : Run α := ExceptT.lift (StateT.lift a)

/-! ## Values -/

namespace Value

/-- The number that a value stands for. -/
def toFloat : Value → Float
  | unset => 0.0
  | number x => x
  | text s => numberIn s
  | input s => numberIn s

/-- A value as a text; numbers with fractions are as a format says. -/
def toText (form : String) : Value → String
  | unset => ""
  | number x => numberText form x
  | text s => s
  | input s => s

/-- A value as it is compared: a text of the input is a number or not. -/
def plain : Value → Value
  | input s => if (inputNumber? s).isSome then .input s else .text s
  | v => v

/-- Whether a value holds. -/
def holds : Value → Bool
  | unset => false
  | number x => x != 0.0
  | text s => s != ""
  | input s =>
    match inputNumber? s with
    | some x => x != 0.0
    | none => s != ""

/-- The value of a condition. -/
def ofBool (b : Bool) : Value := .number (if b then 1.0 else 0.0)

/-- The value of a count. -/
def ofNat (n : Nat) : Value := .number (.ofNat n)

/-- How two values compare; what is no number is equal to every number. -/
def order (form : String) (a b : Value) : Ordering :=
  let byNumber (x y : Float) : Ordering := if y < x then .gt else if x < y then .lt else .eq
  let byText : Ordering :=
    let s := (a.toText form).toList
    let t := (b.toText form).toList
    if s < t then .lt else if t < s then .gt else .eq
  match a.plain, b.plain with
  | unset, unset => .eq
  | text _, _ => byText
  | _, text _ => byText
  | x, y => byNumber x.toFloat y.toFloat

end Value

/-- Whether a comparison holds for an order. -/
def Comparison.holds (c : Comparison) (o : Ordering) : Bool :=
  match c with
  | .less => o == .lt
  | .atMost => o != .gt
  | .equal => o == .eq
  | .unequal => o != .eq
  | .atLeast => o != .lt
  | .greater => o == .gt

/-- The value of an operation. -/
def Operation.apply (op : Operation) (x y : Float) : Float :=
  match op with
  | .add => x + y
  | .subtract => x - y
  | .multiply => x * y
  | .divide => x / y
  | .remainder => Records.remainder x y
  | .power => x.pow y

/-! ## Dividing texts -/

/-- The words between white space. -/
def wordsOf (cs : List Char) : List String :=
  ((cs.splitBy fun a b => isBlank a == isBlank b).filter fun part => part.head?.any fun c => !isBlank c).map
    String.ofList

/-- A text as something in which matches are looked for. -/
def subjectOf (cs : List Char) : Regex.Subject := ⟨cs.toArray, false, false, true⟩

/-- The parts of a text between matches that are not empty; a part begins at `start`, and a match is
looked for from `place` on. -/
def partsFrom (s : Regex.Subject) (r : Regex) : Nat → Nat → Nat → List String
  | 0, start, _ => [String.ofList (s.text.extract start s.text.size).toList]
  | n + 1, start, place =>
    match r.find? s place with
    | none => [String.ofList (s.text.extract start s.text.size).toList]
    | some m =>
      if m.stop = m.start then
        if m.start < s.text.size then partsFrom s r n start (m.start + 1)
        else [String.ofList (s.text.extract start s.text.size).toList]
      else String.ofList (s.text.extract start m.start).toList :: partsFrom s r n m.stop m.stop

/-- The fields of a text. -/
def divide (by_ : Separator) (text : String) : List String :=
  if text = "" then []
  else
    match by_ with
    | .blanks => wordsOf text.toList
    | .characters => text.toList.map String.singleton
    | .pattern (.char c) => (text.splitOn (String.singleton c))
    | .pattern r =>
      let s := subjectOf text.toList
      partsFrom s r (s.text.size + 1) 0 0

/-! ## Names -/

/-- The value of a name of the whole program. -/
def shared (name : String) : Run Value := do
  let m ← get
  match m.shared[name]? with
  | some (.scalar v) => return v
  | _ => return .unset

/-- The value of a name of the whole program as a text that is always there. -/
def sharedText (name : String) : Run String := do
  return (← shared name).toText "%.6g"

/-- The format for numbers that become texts. -/
def conversion : Run String := sharedText "CONVFMT"

/-- A value as a text. -/
def textOf (v : Value) : Run String := do
  match v with
  | .unset => return ""
  | .text s => return s
  | .input s => return s
  | v => return v.toText (← conversion)

/-- Sets a name of the whole program, without any of what follows from it. -/
def setShared (name : String) (v : Value) : Run Unit :=
  modify fun m => { m with shared := m.shared.insert name (.scalar v) }

/-- Writes what has been printed, first of all to commands, whose ends are waited for; what is wrong with
that, if anything is. -/
def settle (outlets : List (String × Outlet)) : Act (Option String) := do
  let (commands, files) := outlets.partition fun o => o.2.pid.isSome
  commands.forM fun (_, o) => do
    let _ ← Act.write o.fd o.buffer
    Act.close o.fd
    match o.pid with
    | some child =>
      let _ ← Act.waitFor child
    | none => pure ()
  files.foldlM (fun wrong (name, o) => do
    if o.buffer.isEmpty then return wrong
    else
      match ← Act.write o.fd o.buffer with
      | .ok () => return wrong
      | .error e =>
        return some ("close failed on file \"" ++ name ++ "\" (" ++ e.plainMessage ++ ")")) none

/-- Stops the program, after what it has printed. -/
def stopRun {α : Type} (why : String) : Run α := do
  let m ← get
  act do
    say why
    let _ ← settle m.outlets
    Act.gone 2

/-- Stops the program because of an error in what it does. -/
def crash {α : Type} (why : String) : Run α := do
  let file ← sharedText "FILENAME"
  let fnr ← sharedText "FNR"
  let nr ← sharedText "NR"
  stopRun ("run time error: " ++ why ++ "\n\tFILENAME=\"" ++ file ++ "\" FNR=" ++ fnr ++ " NR=" ++ nr)

/-- The regular expression that a text spells. -/
def regexOfText (s : String) : Run Regex := do
  let m ← get
  match m.patterns[s]? with
  | some r => return r
  | none =>
    match Pattern.parse s with
    | .ok r =>
      modify fun m => { m with patterns := m.patterns.insert s r }
      return r
    | .error why => crash ("regular expression compile failed (" ++ why ++ ")\n" ++ s)

/-- Where the fields end that a text divides. -/
def separatorOf (s : String) : Run Separator := do
  match s.toList with
  | [] => return .characters
  | [' '] => return .blanks
  | [c] => return .pattern (.char c)
  | _ => return .pattern (← regexOfText s)

/-- Where the records end that a text divides. -/
def endingOf (s : String) : Run Ending := do
  match s.toList with
  | [] => return .paragraphs
  | [c] => return .byte (.ofNat c.toNat)
  | _ => return .pattern (← regexOfText s)

/-! ## The record -/

/-- Sets the record. -/
def setRecord (s : String) : Run Unit := modify fun m =>
  { m with line := ⟨.input s, #[], false, true, m.separator⟩ }

/-- The record divided into its fields. -/
def divided : Run Line := do
  let m ← get
  if m.line.divided then return m.line
  else
    let text ← textOf m.line.text
    let fields := ((divide m.line.separator text).map Value.input).toArray
    let line := { m.line with fields, divided := true }
    modify fun m => { m with line }
    return line

/-- The text of the record. -/
def recordValue : Run Value := do
  let m ← get
  if m.line.whole then return m.line.text
  else
    let between ← sharedText "OFS"
    let texts ← m.line.fields.toList.mapM textOf
    let text := Value.input (between.intercalate texts)
    modify fun m => { m with line := { m.line with text, whole := true } }
    return text

/-- The value of a field. -/
def fieldValue (n : Nat) : Run Value := do
  if n = 0 then recordValue
  else return ((← divided).fields[n - 1]?).getD (.text "")

/-- Sets the number of fields. -/
def setFieldCount (n : Nat) : Run Unit := do
  let line ← divided
  let fields :=
    if n ≤ line.fields.size then line.fields.extract 0 n
    else line.fields ++ Array.replicate (n - line.fields.size) (Value.text "")
  modify fun m => { m with line := { line with fields, whole := false } }

/-- Sets a field. -/
def setField (n : Nat) (v : Value) : Run Unit := do
  if n = 0 then
    setRecord (← textOf v)
  else
    let line ← divided
    let fields :=
      if n ≤ line.fields.size then line.fields
      else line.fields ++ Array.replicate (n - line.fields.size) (Value.text "")
    modify fun m => { m with line := { line with fields := fields.set! (n - 1) v, whole := false } }

/-! ## Setting names -/

/-- Sets a name of the whole program. -/
def assignShared (name : String) (v : Value) : Run Unit := do
  match name with
  | "NF" =>
    let n := clamped (-1) 32767 v.toFloat
    if n < 0 then crash "negative value assigned to NF"
    setFieldCount n.toNat
  | "FS" =>
    setShared name v
    let by_ ← separatorOf (← textOf v)
    modify fun m => { m with separator := by_ }
  | "RS" =>
    setShared name v
    let ending ← endingOf (← textOf v)
    modify fun m => { m with ending }
  | name => setShared name v

/-- What belongs to a name. -/
def slotOf (v : Variable) : Run Slot := do
  let m ← get
  match v with
  | .own n => return m.own.getD n (.scalar .unset)
  | .shared name => return m.shared.getD name (.scalar .unset)

/-- Sets what belongs to a name. -/
def setSlot (v : Variable) (slot : Slot) : Run Unit :=
  match v with
  | .own n => modify fun m => { m with own := m.own.set! n slot }
  | .shared name => modify fun m => { m with shared := m.shared.insert name slot }

/-- The number of the table that belongs to a name. -/
def tableOf (v : Variable) : Run Nat := do
  match ← slotOf v with
  | .table n => return n
  | .scalar _ =>
    let n := (← get).tables.size
    modify fun m => { m with tables := m.tables.push .empty }
    setSlot v (.table n)
    return n

/-- The value of a name. -/
def valueOf (v : Variable) : Run Value := do
  match v with
  | .shared "NF" => return .ofNat (← divided).fields.size
  | v =>
    match ← slotOf v with
    | .scalar a => return a
    | .table _ => return .unset

/-- Sets the value of a name. -/
def assign (v : Variable) (a : Value) : Run Unit :=
  match v with
  | .shared name => assignShared name a
  | v => setSlot v (.scalar a)

/-- Looks at a table, and changes it. The table is taken out of the others for the while, so that it need
not be copied. -/
def inTable {α : Type} (number : Nat) (f : Table Value → α × Table Value) : Run α :=
  modifyGet fun m =>
    let tables := m.tables
    let m := { m with tables := #[] }
    let (t, tables) := tables.swapAt! number .empty
    let (a, t) := f t
    (a, { m with tables := tables.set! number t })

/-- The key that a value is. -/
def keyOf (v : Value) : Run Key := do
  match v with
  | .number x =>
    match whole? x with
    | some n => if n.natAbs ≤ Nat.pow 2 63 then return .number n else return .text (← textOf v)
    | none => return .text (← textOf v)
  | v => return .text (← textOf v)

/-- The key that several values are. -/
def keyOfAll (vs : List Value) : Run Key := do
  match vs with
  | [v] => keyOf v
  | vs =>
    let between ← sharedText "SUBSEP"
    return .text (between.intercalate (← vs.mapM textOf))

end CrossBench.Tool.Records
