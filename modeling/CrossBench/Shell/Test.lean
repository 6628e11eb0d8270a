import CrossBench.Shell.Expand
import CrossBench.Text.Regex.Read

/-!
# Conditions

`test` decides a condition on files, texts and numbers. In the plain dialect a condition is read from
left to right, one token ahead; in the extended dialect the number of its words says what it is as
long as there are no more than four. Conditions in double brackets have been read with their script.
-/

namespace CrossBench.Shell

namespace Act

/-- What a program finds at a path: a path for a descriptor leads to what is open there. -/
def stat (path : String) (follow : Bool) : Act (Except IoError Node) := look fun pid k =>
  let t := k.tree pid
  match t.find (pathOf path) follow with
  | .error e => .error e
  | .ok (.device (.descriptor n) time) =>
    if !follow then .ok (.link (pathOf ("/proc/self/fd/" ++ toString n)) time)
    else
      match k.opened? pid n with
      | none => .error .notFound
      | some (_, f) =>
        match f.channel with
        | .file number => .ok (.file number)
        | .device d => .ok (.device d time)
        | .directory location => .ok ((t.at? location).getD default)
        | .pipe number => .ok (.fifo number 0o600 time)
  | .ok node => .ok node

/-- Whether two paths lead to one object. -/
def sameObject (a b : String) : Act Bool := do
  let t ← tree
  match t.locate (pathOf a) true, t.locate (pathOf b) true with
  | .ok x, .ok y =>
    return x = y ||
      match t.at? x, t.at? y with
      | some n, some m => Tree.sameFile n m
      | _, _ => false
  | _, _ => return false

/-- Whether one file is newer than another. If `missing` is allowed, a file that is not there is older
than any. -/
def isNewer (missing : Bool) (a b : String) : Act Bool := do
  let t ← tree
  match t.modified? (pathOf a), t.modified? (pathOf b) with
  | some x, some y => return x.later y
  | some _, none => return missing
  | none, _ => return false

/-- A condition on a file. -/
def fileTest (operator : Char) (path : String) : Act Bool := do
  let linked := operator = 'h' || operator = 'L'
  match ← stat path !linked with
  | .error _ => return false
  | .ok node =>
    let t ← tree
    let mode := t.disk.mode node
    match operator with
    | 'a' => return true
    | 'e' => return true
    | 'f' => return node.isFile
    | 'd' => return node.isDirectory
    | 'h' => return node.isLink
    | 'L' => return node.isLink
    | 'r' => return t.allows node 4
    | 'w' => return t.allows node 2
    | 'x' => return t.allows node 1
    | 'O' => return true
    | 'G' => return true
    | 'N' => return false
    | 's' =>
      return match node with
        | .file number => 0 < (t.disk.record number).data.size
        | .directory .. => true
        | _ => false
    | 'p' =>
      return match node with
        | .fifo .. => true
        | _ => false
    | 'c' =>
      return match node with
        | .device .. => true
        | _ => false
    | 'u' => return mode / 0o4000 % 2 = 1
    | 'g' => return mode / 0o2000 % 2 = 1
    | 'k' => return mode / 0o1000 % 2 = 1
    | _ => return false

end Act

/-- What decides a condition, or says why it cannot be decided. -/
abbrev Deciding := ExceptT String Act

/-- The operators that compare integers. -/
def comparison? : String → Option (Int → Int → Bool)
  | "-eq" => some fun a b => a == b
  | "-ne" => some fun a b => a != b
  | "-lt" => some fun a b => a < b
  | "-le" => some fun a b => a ≤ b
  | "-gt" => some fun a b => b < a
  | "-ge" => some fun a b => b ≤ a
  | _ => none

/-- The order of texts by their bytes. -/
def textBefore (a b : String) : Bool := a.toList < b.toList

/-- A condition on two texts or files, if an operator is for those. -/
def textTest? (missing : Bool) (a operator b : String) : Act (Option Bool) := do
  match operator with
  | "=" => return some (a = b)
  | "!=" => return some (a ≠ b)
  | "<" => return some (textBefore a b)
  | ">" => return some (textBefore b a)
  | "-nt" => return some (← Act.isNewer missing a b)
  | "-ot" => return some (← Act.isNewer missing b a)
  | "-ef" => return some (← Act.sameObject a b)
  | _ => return none

/-! ## The plain dialect -/

namespace PlainTest

/-- The operators in front of an operand. -/
def unary : List String :=
  ["-r", "-w", "-x", "-e", "-f", "-d", "-c", "-b", "-p", "-u", "-g", "-k", "-s", "-t", "-z", "-n",
    "-h", "-O", "-G", "-L", "-S"]

/-- The operators between operands. -/
def binary : List String :=
  ["=", "!=", "<", ">", "-eq", "-ne", "-ge", "-gt", "-le", "-lt", "-nt", "-ot", "-ef"]

/-- A token of a condition. -/
inductive Token where
  | ending
  | operand
  | sign (s : String)
  | unary (s : String)
  | binary (s : String)
  deriving DecidableEq

/-- Whether an operator in front of an operand is itself an operand, for want of words behind it. -/
def standsAlone (words : Array String) (i : Nat) : Bool :=
  match words[i + 1]?, words[i + 2]? with
  | none, _ => true
  | some _, none => false
  | some next, some _ => binary.contains next

/-- The token of a number. -/
def token (words : Array String) (i : Nat) : Token :=
  match words[i]? with
  | none => .ending
  | some s =>
    if unary.contains s then if standsAlone words i then .operand else .unary s
    else if binary.contains s then .binary s
    else if s = "!" ∨ s = "-a" ∨ s = "-o" ∨ s = ")" then .sign s
    else if s = "(" then if i + 1 < words.size then .sign s else .operand
    else .operand

/-- The integer that a word is. -/
def integer (s : String) : Deciding Int :=
  match Arithmetic.integer? (some 10) s with
  | some n => return n
  | none => throw ("Illegal number: " ++ s)

/-- A condition on one operand. -/
def unaryTest (operator operand : String) : Deciding Bool := do
  match operator.toList with
  | [_, 'n'] => return operand ≠ ""
  | [_, 'z'] => return operand = ""
  | [_, 't'] =>
    let _ ← integer operand
    return false
  | [_, c] => ExceptT.lift (Act.fileTest c operand)
  | _ => return false

/-- A condition on two operands, of which the first has a number. -/
def binaryTest (words : Array String) (i : Nat) : Deciding Bool := do
  let operator := words.getD (i + 1) ""
  let a := words.getD i ""
  match words[i + 2]? with
  | none => throw (operator ++ ": argument expected")
  | some b =>
    match comparison? operator with
    | some compare => return compare (← integer a) (← integer b)
    | none => return (← ExceptT.lift (textTest? false a operator b)).getD false

mutual

/-- Conditions joined by `-o`, from a word on: the answer, and the last word of them. -/
def disjunction (words : Array String) (fuel : Nat) (t : Token) (i : Nat) :
    Deciding (Bool × Nat) :=
  match fuel with
  | 0 => return (false, i)
  | fuel + 1 => do
    let (a, i) ← conjunction words fuel t i
    if token words (i + 1) = .sign "-o" then
      let (b, i) ← disjunction words fuel (token words (i + 2)) (i + 2)
      return (a || b, i)
    else return (a, i)
termination_by structural fuel

/-- Conditions joined by `-a`. -/
def conjunction (words : Array String) (fuel : Nat) (t : Token) (i : Nat) :
    Deciding (Bool × Nat) :=
  match fuel with
  | 0 => return (false, i)
  | fuel + 1 => do
    let (a, i) ← negation words fuel t i
    if token words (i + 1) = .sign "-a" then
      let (b, i) ← conjunction words fuel (token words (i + 2)) (i + 2)
      return (a && b, i)
    else return (a, i)
termination_by structural fuel

/-- A condition, perhaps negated. -/
def negation (words : Array String) (fuel : Nat) (t : Token) (i : Nat) : Deciding (Bool × Nat) :=
  match fuel with
  | 0 => return (false, i)
  | fuel + 1 => do
    if t = .sign "!" then
      let next := token words (i + 1)
      let (a, i) ← negation words fuel next (if next = .ending then i else i + 1)
      return (!a, i)
    else primary words fuel t i
termination_by structural fuel

/-- A condition without others in it, unless they are in parentheses. -/
def primary (words : Array String) (fuel : Nat) (t : Token) (i : Nat) : Deciding (Bool × Nat) :=
  match fuel with
  | 0 => return (false, i)
  | fuel + 1 => do
    match t with
    | .ending => return (false, i)
    | .sign "(" =>
      let next := token words (i + 1)
      if next = .sign ")" then return (false, i + 1)
      else
        let (a, i) ← disjunction words fuel next (i + 1)
        if token words (i + 1) ≠ .sign ")" then throw "closing paren expected"
        return (a, i + 1)
    | .unary s =>
      match words[i + 1]? with
      | none => throw (s ++ ": argument expected")
      | some operand => return (← unaryTest s operand, i + 1)
    | _ =>
      match token words (i + 1) with
      | .binary _ => return (← binaryTest words i, i + 2)
      | _ => return (words.getD i "" ≠ "", i)
termination_by structural fuel

end

/-- Decides the condition that some words are, or its opposite. -/
def decide : Nat → Bool → List String → Deciding Bool
  | 0, _, _ => return false
  | fuel + 1, positive, words => do
    let whole (words : List String) (t : Token) : Deciding Bool := do
      let ws := words.toArray
      let (a, i) ← disjunction ws (8 * words.length + 8) t 0
      if i + 1 < ws.size then throw (ws.getD i "" ++ ": unexpected operator")
      return a == positive
    let lexed (words : List String) : Deciding Bool := whole words (token words.toArray 0)
    match words with
    | [] => return !positive
    | [a, o, b] =>
      if binary.contains o then whole words .operand
      else if a = "(" ∧ b = ")" then lexed [o]
      else if a = "!" then decide fuel (!positive) [o, b]
      else lexed words
    | [a, b, c, d] =>
      if a = "(" ∧ d = ")" then lexed [b, c]
      else if a = "!" then decide fuel (!positive) [b, c, d]
      else lexed words
    | words => lexed words

end PlainTest

/-! ## The extended dialect -/

namespace ExtendedTest

/-- Whether a word is an operator in front of an operand. -/
def isUnary (s : String) : Bool :=
  match s.toList with
  | ['-', c] => "abcdefghknoprstuvwxzGLNORS".toList.contains c
  | _ => false

/-- Whether a word is an operator between operands. -/
def isBinary (s : String) : Bool :=
  ["=", "==", "!=", "<", ">", "-eq", "-ne", "-lt", "-le", "-gt", "-ge", "-nt", "-ot", "-ef"].contains s

/-- The integer that a word is. -/
def integer (s : String) : Deciding Int :=
  match Arithmetic.integer? (some 10) s with
  | some n => return n
  | none => throw (s ++ ": integer expression expected")

/-- Whether a parameter, or an element of one, is set. -/
def isSetName (name : String) : Act Bool := do
  match Act.targetOf name with
  | some (n, subscript) => return (← Act.found n subscript).isSet
  | none => return false

/-- A condition on one operand. -/
def unaryTest (operator operand : String) : Act Bool := do
  match operator.toList with
  | [_, 'n'] => return operand ≠ ""
  | [_, 'z'] => return operand = ""
  | [_, 't'] => return false
  | [_, 'v'] => isSetName operand
  | [_, 'R'] => return ((← get).find? operand).any (·.reference)
  | [_, 'o'] => Act.isOn operand
  | [_, c] => Act.fileTest c operand
  | _ => return false

/-- A condition on two operands. -/
def binaryTest (a operator b : String) : Deciding Bool := do
  match comparison? operator with
  | some compare => return compare (← integer a) (← integer b)
  | none =>
    return (← ExceptT.lift (textTest? true a (if operator = "==" then "=" else operator) b)).getD false

/-- Decides a condition of two words. -/
def two (a b : String) : Deciding Bool := do
  if a = "!" then return b = ""
  else if isUnary a then ExceptT.lift (unaryTest a b)
  else throw (a ++ ": unary operator expected")

/-- Decides a condition of three words. -/
def three (a o b : String) : Deciding Bool := do
  if isBinary o then binaryTest a o b
  else if o = "-a" then return a ≠ "" && b ≠ ""
  else if o = "-o" then return a ≠ "" || b ≠ ""
  else if a = "!" then return !(← two o b)
  else if a = "(" ∧ b = ")" then return o ≠ ""
  else throw (o ++ ": binary operator expected")

mutual

/-- Conditions joined by `-o`: the answer, and the words behind them. -/
def disjunction (fuel : Nat) (words : List String) : Deciding (Bool × List String) :=
  match fuel with
  | 0 => return (false, words)
  | fuel + 1 => do
    let (a, rest) ← conjunction fuel words
    match rest with
    | "-o" :: rest =>
      let (b, rest) ← disjunction fuel rest
      return (a || b, rest)
    | rest => return (a, rest)
termination_by structural fuel

/-- Conditions joined by `-a`. -/
def conjunction (fuel : Nat) (words : List String) : Deciding (Bool × List String) :=
  match fuel with
  | 0 => return (false, words)
  | fuel + 1 => do
    let (a, rest) ← term fuel words
    match rest with
    | "-a" :: rest =>
      let (b, rest) ← conjunction fuel rest
      return (a && b, rest)
    | rest => return (a, rest)
termination_by structural fuel

/-- A condition without others in it, unless it is negated or in parentheses. -/
def term (fuel : Nat) (words : List String) : Deciding (Bool × List String) :=
  match fuel with
  | 0 => return (false, words)
  | fuel + 1 => do
    match words with
    | [] => throw "argument expected"
    | "!" :: [] => throw "argument expected"
    | "!" :: rest =>
      let (a, rest) ← term fuel rest
      return (!a, rest)
    | "(" :: rest =>
      let (a, rest) ← disjunction fuel rest
      match rest with
      | [] => throw "\x60)' expected"
      | ")" :: rest => return (a, rest)
      | w :: _ => throw ("\x60)' expected, found " ++ w)
    | a :: o :: b :: rest =>
      if isBinary o then return (← binaryTest a o b, rest)
      else if isUnary a then return (← ExceptT.lift (unaryTest a o), b :: rest)
      else return (a ≠ "", o :: b :: rest)
    | [a, b] =>
      if isUnary a then return (← ExceptT.lift (unaryTest a b), [])
      else return (a ≠ "", [b])
    | [a] => return (a ≠ "", [])
termination_by structural fuel

end

/-- Decides the condition that some words are. -/
def decide (words : List String) : Deciding Bool := do
  let whole : Deciding Bool := do
    let (a, rest) ← disjunction (8 * words.length + 8) words
    match rest with
    | [] => return a
    | w :: _ =>
      if w.startsWith "-" then throw ("syntax error: \x60" ++ w ++ "' unexpected")
      else throw "too many arguments"
  match words with
  | [] => return false
  | [a] => return a ≠ ""
  | [a, b] => two a b
  | [a, o, b] => three a o b
  | [a, b, c, d] =>
    if a = "!" then return !(← three b c d)
    else if a = "(" ∧ d = ")" then two b c
    else whole
  | _ => whole

end ExtendedTest

namespace Act

/-- The words of a condition, without the bracket at their end if there has to be one. -/
def testWords (command : String) (words : List String) : Except String (List String) :=
  if command = "[" then
    if words.getLast? = some "]" then .ok words.dropLast else .error "missing bracket"
  else .ok words

/-- The command `test` of the shell, also under its other name. -/
def test (command : String) (words : List String) : Act Nat := do
  let d := (← get).dialect
  match testWords command words with
  | .error _ =>
    match d with
    | .plain => fail "missing ]"
    | .extended =>
      faultOf command "missing \x60]'"
      return 2
  | .ok words =>
    let decided ←
      match d with
      | .plain => (PlainTest.decide (words.length + 1) true words).run
      | .extended => (ExtendedTest.decide words).run
    match decided with
    | .ok true => return 0
    | .ok false => return 1
    | .error why =>
      faultOf command why
      return 2

/-! ## Conditions in double brackets -/

/-- A regular expression in which what is quoted stands for itself. -/
def regexText (wide : Bool) (letters : List Letter) : List Char :=
  (Letters.decodeWith wide (marksOf letters)).flatMap fun (c, kept) =>
    if kept && "\\.[]*^$+?(){}|".toList.contains c then ['\\', c] else [c]

/-- Sets the array of what the groups of a regular expression have matched. -/
def setMatches (subject : Regex.Subject) (m : Option Regex.Match) (groups : Nat) : Act Unit :=
  modify fun s =>
    let texts : List String :=
      match m with
      | some m => (List.range (groups + 1)).map fun n => encoded (m.text subject n)
      | none => []
    let p := (s.find? "BASH_REMATCH").getD (.fresh "BASH_REMATCH")
    s.put { p with content := .indexed (texts.zipIdx.map fun (t, i) => (i, t)) }

/-- Whether a text matches a regular expression; the status is 2 if that is none. -/
def matchesRegex (value : String) (letters : List Letter) : Act Nat := do
  let expression := regexText (← get).readsWide letters
  match Regex.parse .extended expression with
  | .error _ => return 2
  | .ok r =>
    let subject : Regex.Subject := ⟨(← decoded value).toArray, ← isOn "nocasematch", false,
      !(← get).readsWide⟩
    let m := r.find? subject 0
    setMatches subject m r.groupCount
    return if m.isSome then 0 else 1

/-- The number that an operand is. -/
def conditionNumber (text : String) : Act (Option Int) := evaluate? "[[: " text

/-- Decides a condition without others in it; the status. -/
def basicCondition (trace : String → Act Unit) (c : Condition) : Act Nat := do
  match c with
  | .unary operator w =>
    let v ← text w .whole
    let wide := (← get).isWide
    trace (operator ++ " " ++ Quoting.shown wide v)
    return if ← ExtendedTest.unaryTest operator v then 0 else 1
  | .binary operator a b =>
    let left ← text a .whole
    let wide := (← get).isWide
    match comparison? operator with
    | some compare =>
      let right ← text b .whole
      trace (Quoting.shown wide left ++ " " ++ operator ++ " " ++ Quoting.shown wide right)
      match ← conditionNumber left with
      | none => return 1
      | some m =>
        match ← conditionNumber right with
        | none => return 1
        | some n => return if compare m n then 0 else 1
    | none =>
      if operator = "=~" then
        let ls ← letters b .whole
        trace (Quoting.shown wide left ++ " =~ " ++ lettersText ls)
        matchesRegex left ls
      else if operator = "=" ∨ operator = "==" ∨ operator = "!=" then
        let ls ← letters b .whole
        let s ← get
        let marks := marksOf ls
        let shown := String.join (marks.map fun (c, kept) =>
          if kept then "\\" ++ String.singleton c else String.singleton c)
        trace (Quoting.shown wide left ++ " " ++ operator ++ " " ++ shown)
        let p := Pattern.ofMarks s.dialect true (Letters.decodeWith s.readsWide marks)
        let hit := p.accepts (s.isOn "nocasematch") (← decoded left)
        return if hit == (operator ≠ "!=") then 0 else 1
      else
        let right ← text b .whole
        trace (Quoting.shown wide left ++ " " ++ operator ++ " " ++ Quoting.shown wide right)
        return if (← textTest? true left operator right).getD false then 0 else 1
  | _ => return 2

end Act

/-- How many conditions are in a condition. -/
def Condition.size : Condition → Nat
  | .unary .. => 1
  | .binary .. => 1
  | .not c => c.size + 1
  | .group c => c.size + 1
  | .both a b => a.size + b.size + 1
  | .either a b => a.size + b.size + 1
termination_by structural c => c

namespace Act

/-- Decides a condition in double brackets; the status. -/
def decideCondition (trace : String → Act Unit) : Nat → Condition → Act Nat
  | 0, _ => return 2
  | fuel + 1, c =>
    match c with
    | .not c => do
      let status ← decideCondition trace fuel c
      return if status = 0 then 1 else if status = 1 then 0 else status
    | .both a b => do
      let status ← decideCondition trace fuel a
      if status = 0 then decideCondition trace fuel b else return status
    | .either a b => do
      let status ← decideCondition trace fuel a
      if status = 0 then return 0 else decideCondition trace fuel b
    | .group c => decideCondition trace fuel c
    | c => basicCondition trace c

end Act

end CrossBench.Shell
