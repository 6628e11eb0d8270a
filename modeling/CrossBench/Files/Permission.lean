/-!
# Permission bits in words

Programs are told permission bits by octal digits or by clauses: whose bits, a sign, and which bits.
A clause that does not say whose bits it means leaves out those that the program's mask keeps back.
-/

namespace CrossBench.Permission

/-- Which bits a clause is about: those that its letters name, those that a class of users has, or the bit
to run what is run by somebody, or is a directory, with others. -/
inductive Source where
  | named
  | copied
  | searchable
  deriving DecidableEq

/-- A change of permission bits: bits are added (`'+'`), removed (`'-'`) or set (`'='`). -/
structure Change where
  sign : Char
  /-- The bits of the users that are named; none stands for all of them but for what the program's mask
  keeps back. -/
  users : Nat
  bits : Nat
  /-- The bits that have been named so that they change for directories too. -/
  mentioned : Nat
  source : Source := .named

/-- All twelve bits. -/
def allBits : Nat := 0o7777

/-- The bits of a class of users, with the special one. -/
def usersMask : Char → Option Nat
  | 'u' => some 0o4700
  | 'g' => some 0o2070
  | 'o' => some 0o1007
  | 'a' => some allBits
  | _ => none

/-- The bits of a letter for all users. -/
def bitsOf : Char → Option Nat
  | 'r' => some 0o444
  | 'w' => some 0o222
  | 'x' => some 0o111
  | 's' => some 0o6000
  | 't' => some 0o1000
  | 'X' => some 0
  | _ => none

/-- Whether a character is an octal digit. -/
def isOctal (c : Char) : Bool := '0' ≤ c && c ≤ '7'

/-- The number that octal digits spell. -/
def octal? (cs : List Char) : Option Nat :=
  if cs ≠ [] && cs.all isOctal then some (cs.foldl (fun n c => n * 8 + (c.toNat - 48)) 0) else none

/-- Whether a letter is a sign of a clause. -/
def isSign (c : Char) : Bool := c == '+' || c == '-' || c == '='

/-- The change that letters or digits behind a sign mean. -/
def change? (users : Nat) (sign : Char) (cs : List Char) : Option Change :=
  let mentioned (bits : Nat) : Nat := if users = 0 then bits else users &&& bits
  match cs with
  | ['u'] => some ⟨sign, users, 0o700, mentioned 0o700, .copied⟩
  | ['g'] => some ⟨sign, users, 0o070, mentioned 0o070, .copied⟩
  | ['o'] => some ⟨sign, users, 0o007, mentioned 0o007, .copied⟩
  | cs =>
    match octal? cs with
    | some n => if users = 0 && n ≤ allBits then some ⟨sign, allBits, n, allBits, .named⟩ else none
    | none =>
      if cs.all fun c => (bitsOf c).isSome then
        let bits := cs.foldl (fun n c => n ||| (bitsOf c).getD 0) 0
        some ⟨sign, users, bits, mentioned bits, if cs.contains 'X' then .searchable else .named⟩
      else none

/-- The changes behind the users of a clause. Digits end it. -/
def actions? (users : Nat) : Nat → List Char → Option (List Change)
  | 0, _ => none
  | _, [] => some []
  | fuel + 1, sign :: rest =>
    if !isSign sign then none
    else
      let letters := rest.takeWhile fun c => !isSign c
      let more := rest.drop letters.length
      if letters.any isOctal && more ≠ [] then none
      else (change? users sign letters).bind fun change => (actions? users fuel more).map (change :: ·)

/-- The changes of a clause. -/
def clause? (cs : List Char) : Option (List Change) :=
  let who := cs.takeWhile fun c => (usersMask c).isSome
  let rest := cs.drop who.length
  if rest = [] then none
  else actions? (who.foldl (fun n c => n ||| (usersMask c).getD 0) 0) (rest.length + 1) rest

/-- The changes that a text asks for. Up to four digits leave alone what a directory hands on to the files
in it, unless they name it. -/
def parse? (s : String) : Option (List Change) :=
  match octal? s.toList with
  | some n =>
    let mentioned := if s.length < 5 then (n &&& 0o7000) ||| 0o777 else allBits
    if n ≤ allBits then some [⟨'=', allBits, n, mentioned, .named⟩] else none
  | none => ((s.splitOn ",").mapM fun c => clause? c.toList).map List.flatten

/-- The change to given bits. -/
def settingTo (mode : Nat) : Change := ⟨'=', allBits, mode, allBits, .named⟩

/-- Permission bits after a change. -/
def Change.result (mask : Nat) (isDirectory : Bool) (mode : Nat) (c : Change) : Nat :=
  let repeated (part : Nat) : Nat := (part / 0o100 ||| part / 0o10 ||| part) % 8 * 0o111
  let bits :=
    match c.source with
    | .named => c.bits
    | .copied => repeated (c.bits &&& mode)
    | .searchable => if isDirectory || mode &&& 0o111 ≠ 0 then c.bits ||| 0o111 else c.bits
  let without (n part : Nat) : Nat := n - (n &&& part)
  let left := if isDirectory then without 0o6000 c.mentioned else 0
  let affected := if c.users = 0 then without allBits mask else c.users
  let chosen := without (bits &&& affected) left
  if c.sign == '+' then mode ||| chosen
  else if c.sign == '-' then without mode chosen
  else
    let kept := (if c.users = 0 then 0 else without allBits c.users) ||| left
    (mode &&& kept) ||| chosen

/-- Permission bits after changes, one after the other. -/
def applyAll (changes : List Change) (mask : Nat) (isDirectory : Bool) (mode : Nat) : Nat :=
  changes.foldl (fun mode c => c.result mask isDirectory mode) mode

/-- The three letters of a class of users. -/
def letters (bits : Nat) (special : Bool) (letter : Char) : String :=
  String.ofList
    [if bits / 4 % 2 = 1 then 'r' else '-', if bits / 2 % 2 = 1 then 'w' else '-',
      match decide (bits % 2 = 1), special with
      | true, true => letter
      | true, false => 'x'
      | false, true => letter.toUpper
      | false, false => '-']

/-- Permission bits as nine letters. -/
def text (mode : Nat) : String :=
  letters (mode / 0o100 % 8) (mode / 0o4000 % 2 = 1) 's'
    ++ letters (mode / 0o10 % 8) (mode / 0o2000 % 2 = 1) 's'
    ++ letters (mode % 8) (mode / 0o1000 % 2 = 1) 't'

/-- The octal digits of permission bits, at least `width` of them. -/
def digits (width mode : Nat) : String :=
  let ds := Nat.toDigits 8 mode
  String.ofList (List.replicate (width - ds.length) '0' ++ ds)

end CrossBench.Permission
