import CrossBench.Shell.Quoting
import CrossBench.Shell.Statement

/-!
# Statements as text

The text of a statement as a script would have it, set out over several lines with the bodies of
compound statements indented. Words are shown as they were written. `Statement.written` is the text of
a statement by itself, and `Statement.writtenFunction` that of the definition of a function.

A `Sheet` is what has been written so far. Here-documents follow the line in which they are asked for,
which may go on behind the statement that asks for them, so they are kept until the line ends.
-/

namespace CrossBench.Shell

/-- What has been written of a statement. -/
structure Sheet where
  /-- The characters, the last first. -/
  letters : List Char
  /-- How far a line is indented. -/
  depth : Nat
  /-- How much further the lines of a body are indented. -/
  inset : Nat
  /-- How many statements that come next go on with the line under way. -/
  going : Nat
  /-- Whether a function is being written. -/
  inFunction : Bool
  /-- How many rows of statements the one under way stands in. -/
  rows : Nat
  /-- The here-documents that follow the line, with their delimiters. -/
  documents : List String
  /-- Whether a here-document has ended the line. -/
  ended : Bool

/-- Writes something. -/
abbrev Pen := StateM Sheet Unit

namespace Pen

/-- Writes a text. -/
def put (s : String) : Pen := modify fun sheet =>
  { sheet with letters := s.toList.reverse ++ sheet.letters }

/-- Writes the blanks in front of a line. -/
def margin : Pen := do put (String.ofList (List.replicate (← get).depth ' '))

/-- Begins a line with a text. -/
def line (s : String) : Pen := do
  put "\n"
  margin
  put s

/-- Writes a semicolon unless something else has ended the statement. -/
def semicolon : Pen := do
  match (← get).letters with
  | '&' :: _ => pure ()
  | '\n' :: _ => pure ()
  | [] => pure ()
  | _ => put ";"

/-- Begins a statement: on a line of its own unless it goes on with the line under way. -/
def start : Pen := do
  let sheet ← get
  if 0 < sheet.going then set { sheet with going := sheet.going - 1 } else margin

/-- The next statement goes on with the line under way. -/
def goOn : Pen := modify fun sheet => { sheet with going := sheet.going + 1 }

/-- Writes with lines indented further. -/
def indented (p : Pen) : Pen := do
  modify fun sheet => { sheet with depth := sheet.depth + sheet.inset }
  p
  modify fun sheet => { sheet with depth := sheet.depth - sheet.inset }

/-- Writes here-documents, from the next line on. -/
def bodies (documents : List String) : Pen := do
  put "\n"
  documents.forM fun d => put (d ++ "\n")
  modify fun sheet => { sheet with ended := true }

/-- Writes a sign between two statements, and the here-documents that have been waiting for it. -/
def breakWith (sign : String) : Pen := do
  let shown : Bool := sign ≠ "" && sign ≠ ";"
  if shown then put sign
  let waiting := (← get).documents
  unless waiting.isEmpty do
    bodies waiting
    if shown then put " "
  modify fun sheet => { sheet with documents := [] }

/-- Writes the here-documents that have been waiting. -/
def catchUp : Pen := do
  unless (← get).documents.isEmpty do breakWith ""

end Pen

open Pen

/-- The sign of a redirection behind its descriptor. -/
def Redirection.written (descriptor : Nat) (holder : Option String) (direction : Direction)
    (target : Word) : String :=
  let number (usual : Option Nat) : String :=
    match holder with
    | some name => "\x7b" ++ name ++ "\x7d"
    | none => if usual = some descriptor then "" else toString descriptor
  match direction with
  | .read => number (some 0) ++ "< " ++ target.written
  | .write => number (some 1) ++ "> " ++ target.written
  | .overwrite => number (some 1) ++ ">| " ++ target.written
  | .append => number (some 1) ++ ">> " ++ target.written
  | .update => number (some 1) ++ "<> " ++ target.written
  | .duplicate reading =>
    if target.written = "-" then number none ++ ">&-"
    else number none ++ (if reading then "<&" else ">&") ++ target.written
  | .document delimiter strip quoted =>
    number (some 0) ++ "<<" ++ (if strip then "-" else "")
      ++ (if quoted then Quoting.single delimiter else delimiter)
  | .wordText => number (some 0) ++ "<<< " ++ target.written
  | .writeBoth => "&> " ++ target.written
  | .appendBoth => "&>> " ++ target.written

/-- The here-document that a redirection asks for, with its delimiter. -/
def Redirection.body? : Redirection → Option String
  | .mk _ _ (.document delimiter _ _) target => some (target.written ++ delimiter)
  | _ => none

/-- Writes redirections. -/
def writeRedirections (redirections : List Redirection) : Pen := do
  modify fun sheet => { sheet with ended := false }
  put (" ".intercalate (redirections.map fun
    | .mk descriptor holder direction target =>
      Redirection.written descriptor holder direction target))
  let found := redirections.filterMap Redirection.body?
  unless found.isEmpty do
    if 0 < (← get).rows then modify fun sheet => { sheet with documents := found }
    else bodies found

/-- Words as they are written. -/
def writtenWords (words : List Word) : String := " ".intercalate (words.map Word.written)

/-- The text in which a value that is set stands. -/
def Assignment.written : Assignment → String
  | .mk _ _ _ _ written => written

/-- The words of a simple command. -/
def writtenCommand (assignments : List Assignment) (words : List Word) : String :=
  " ".intercalate (assignments.map Assignment.written ++ words.map Word.written)

/-- The front of a loop over words. -/
def writtenLoop (kind name : String) (words : Option (List Word)) : String :=
  kind ++ " " ++ name ++ " in " ++
    match words with
    | some words => writtenWords words
    | none => "\"$@\""

/-- A part of the front of a loop that counts. -/
def writtenClause (w : Word) : String :=
  let t := String.ofList (w.written.toList.dropWhile fun c => c == ' ' || c == '\t')
  if t = "" then "1" else t

/-- The text of a condition. -/
def Condition.written : Condition → String
  | .unary operator operand => operator ++ " " ++ operand.written
  | .binary operator left right => left.written ++ " " ++ operator ++ " " ++ right.written
  | .group c => "( " ++ c.written ++ " )"
  | .not c => "! " ++ c.written
  | .both first second => first.written ++ " && " ++ second.written
  | .either first second => first.written ++ " || " ++ second.written
termination_by structural c => c

/-- Writes what stands between a statement of a list and the next one. -/
def writeJoin (s : Statement) : Pen := do
  match s with
  | .background _ =>
    breakWith " &"
    put " "
    goOn
  | _ =>
    let sheet ← get
    if sheet.documents.isEmpty then
      if sheet.ended then set { sheet with ended := false } else put ";"
    else breakWith (if sheet.inFunction then "" else ";")
    if sheet.inFunction then put "\n"
    else
      put " "
      goOn

/-- Begins a row of statements with the first of them; so many others follow. -/
def inRow (count : Nat) (p : Pen) : Pen := do
  start
  goOn
  modify fun sheet => { sheet with rows := sheet.rows + count }
  p

/-- Ends a part of a row. -/
def endPart : Pen := do
  catchUp
  modify fun sheet => { sheet with rows := sheet.rows - 1 }

/-- The redirections that belong to the body of a function. -/
def functionRedirections : Statement → List Redirection
  | .redirected _ (.group _) redirections => redirections
  | _ => []

/-- Writes the end of a function. -/
def writeEnd (redirections : List Redirection) : Pen :=
  if redirections.isEmpty then line "\x7d"
  else do
    line "\x7d "
    writeRedirections redirections

/-- What a statement is written as. -/
inductive Role where
  | whole
  /-- One of a list, behind which the list goes on. -/
  | item
  /-- The body of a function, whose braces are written with the function. -/
  | body
  deriving DecidableEq

/-- Whether a statement is one in braces. -/
def isGroup : Statement → Bool
  | .group _ => true
  | _ => false

mutual

/-- Writes a statement. -/
def writeStatement (role : Role) (s : Statement) : Pen := do
  match s with
  | .simple _ assignments words redirections =>
    start
    let text := writtenCommand assignments words
    put text
    unless redirections.isEmpty do
      if text ≠ "" then put " "
      writeRedirections redirections
  | .pipeline negated stages =>
    if negated then
      start
      put "! "
      goOn
    writeStages stages
  | .timed posix body =>
    start
    put (if posix then "time -p " else "time ")
    goOn
    writeStatement .whole body
  | .both first second =>
    inRow 1 (writeStatement .whole first)
    breakWith " && "
    goOn
    writeStatement .whole second
    endPart
  | .either first second =>
    inRow 1 (writeStatement .whole first)
    breakWith " || "
    goOn
    writeStatement .whole second
    endPart
  | .sequence statements => writeSequence statements
  | .redirected _ body redirections =>
    if role = .body && isGroup body then writeStatement .body body
    else
      writeStatement .whole body
      put " "
      writeRedirections redirections
  | .subshell _ body =>
    start
    put "( "
    goOn
    writeStatement .whole body
    catchUp
    put " )"
  | .group body =>
    if role = .body then writeStatement .whole body
    else
      start
      put "\x7b "
      if (← get).inFunction then
        put "\n"
        indented do
          writeStatement .whole body
          catchUp
        line "\x7d"
      else
        goOn
        writeStatement .whole body
        catchUp
        semicolon
        put " \x7d"
  | .coprocess _ name body =>
    start
    put ("coproc " ++ name ++ " ")
    goOn
    writeStatement .whole body
  | .background body =>
    if role = .item then writeStatement .whole body
    else
      inRow 1 (writeStatement .whole body)
      breakWith " &"
      endPart
  | .choice test yes no =>
    start
    put "if "
    goOn
    writeStatement .whole test
    semicolon
    put " then\n"
    indented do
      writeStatement .whole yes
      catchUp
    match no with
    | some no =>
      semicolon
      line "else\n"
      indented do
        writeStatement .whole no
        catchUp
    | none => pure ()
    semicolon
    line "fi"
  | .loop untilTrue test body =>
    start
    put (if untilTrue then "until " else "while ")
    goOn
    writeStatement .whole test
    catchUp
    semicolon
    put " do\n"
    indented do
      writeStatement .whole body
      catchUp
    semicolon
    line "done"
  | .forEach _ name words body =>
    start
    put (writtenLoop "for" name words ++ ";")
    line "do\n"
    indented do
      writeStatement .whole body
      catchUp
      semicolon
    line "done"
  | .forCount _ first test step body =>
    start
    put ("for ((" ++ writtenClause first ++ "; " ++ writtenClause test ++ "; " ++ writtenClause step
      ++ "))")
    line "do\n"
    indented do
      writeStatement .whole body
      catchUp
      semicolon
    line "done"
  | .select _ name words body =>
    start
    put (writtenLoop "select" name words ++ ";")
    line "do\n"
    indented do
      writeStatement .whole body
      catchUp
      semicolon
    line "done"
  | .matching _ subject branches =>
    start
    put ("case " ++ subject.written ++ " in ")
    indented (writeBranches branches)
    line "esac"
  | .define _ name body =>
    start
    put ("function " ++ name ++ " () \n")
    margin
    put "\x7b \n"
    let outside := (← get).inFunction
    modify fun sheet => { sheet with inFunction := true }
    indented do
      writeStatement .body body
      catchUp
    modify fun sheet => { sheet with inFunction := outside }
    writeEnd (functionRedirections body)
  | .compute _ expression =>
    start
    put ("((" ++ expression.written ++ "))")
  | .condition _ c =>
    start
    put ("[[ " ++ c.written ++ " ]]")
  | .unreadable _ text =>
    start
    put text
termination_by structural s

/-- Writes statements one after the other. -/
def writeSequence (statements : List Statement) : Pen :=
  match statements with
  | [] => pure ()
  | first :: rest => do
    if rest.isEmpty then writeStatement .whole first
    else
      inRow rest.length (writeStatement .item first)
      writeRest first rest
termination_by structural statements

/-- Writes the statements behind one. -/
def writeRest (before : Statement) (statements : List Statement) : Pen :=
  match statements with
  | [] => pure ()
  | s :: rest => do
    writeJoin before
    if rest.isEmpty then writeStatement .whole s else writeStatement .item s
    endPart
    writeRest s rest
termination_by structural statements

/-- Writes the stages of a pipeline. -/
def writeStages (stages : List Statement) : Pen :=
  match stages with
  | [] => pure ()
  | first :: rest => do
    if rest.isEmpty then writeStatement .whole first
    else
      inRow rest.length (writeStatement .whole first)
      writeLinked rest
termination_by structural stages

/-- Writes the stages behind the first one. -/
def writeLinked (stages : List Statement) : Pen :=
  match stages with
  | [] => pure ()
  | s :: rest => do
    breakWith " |"
    put " "
    goOn
    writeStatement .whole s
    endPart
    writeLinked rest
termination_by structural stages

/-- Writes the branches of a `case`. -/
def writeBranches (branches : List Branch) : Pen :=
  match branches with
  | [] => pure ()
  | b :: rest => do
    writeBranch b
    writeBranches rest
termination_by structural branches

/-- Writes a branch of a `case`. -/
def writeBranch (b : Branch) : Pen :=
  match b with
  | .mk patterns body follow => do
    line (" | ".intercalate (patterns.map Word.written) ++ ")\n")
    match body with
    | some body => indented (writeStatement .whole body)
    | none => pure ()
    catchUp
    line (match follow with
      | .leave => ";;"
      | .nextBody => ";&"
      | .nextPattern => ";;&")
termination_by structural b

end

/-- The text of what a pen writes. -/
def penned (inset depth : Nat) (inFunction : Bool) (p : Pen) : String :=
  let (_, sheet) := p.run ⟨[], depth, inset, 0, inFunction, 0, [], false⟩
  String.ofList sheet.letters.reverse

/-- The text of a statement by itself. -/
def Statement.written (s : Statement) : String := penned 4 0 false (writeStatement .whole s)

/-- The text by which a statement is known while it is run: of a loop or a choice only the front. -/
def Statement.shownBriefly (s : Statement) : String :=
  match s with
  | .forEach _ name words _ => writtenLoop "for" name words
  | .select _ name words _ => writtenLoop "select" name words
  | .matching _ subject _ => "case " ++ subject.written ++ " in "
  | s => s.written

/-- The definition of a function, on several lines or, for other programs, on as few as possible. -/
def writtenFunction (name : String) (spread : Bool) (body : Statement) : String :=
  let front := if name = "" then "() " else name ++ " () "
  if spread then
    penned 4 0 true do
      put (front ++ "\n\x7b \n")
      indented do
        writeStatement .body body
        catchUp
      writeEnd (functionRedirections body)
  else
    penned 0 1 true do
      put (front ++ "\x7b ")
      writeStatement .body body
      catchUp
      modify fun sheet => { sheet with depth := 0 }
      writeEnd (functionRedirections body)

end CrossBench.Shell
