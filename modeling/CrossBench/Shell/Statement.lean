/-!
# Shell scripts

The language of scripts as data: words with their quoting and expansions, redirections, and the
statements built from them. Text in a script is a string of bytes; a character stands for the byte of
its number. A word keeps the text in which it stands, so that a statement can be shown as it was
written.

There are two dialects. The plain one has the constructs of every shell; the extended one adds
arrays, conditions in double brackets, arithmetic statements, and more ways to expand a parameter.
-/

namespace CrossBench.Shell

/-- A family of shells. -/
inductive Dialect where
  | plain
  | extended
  deriving DecidableEq, Inhabited

/-- Which matches of a pattern are replaced. -/
inductive Scope where
  | first
  | every
  | front
  | back
  deriving DecidableEq

/-- What is done with the value of a parameter. -/
inductive Treatment where
  | plain
  | length
  /-- Another text if there is no value, or, if `empty`, also if the value is empty. -/
  | otherwise (empty : Bool)
  /-- The same, and the parameter is set to that text. -/
  | assign (empty : Bool)
  /-- A complaint if there is no value, and the end of the script. -/
  | require (empty : Bool)
  /-- Another text if there is a value. -/
  | instead (empty : Bool)
  /-- The value without the part at its front that a pattern matches. -/
  | trimFront (longest : Bool)
  /-- The value without the part at its end that a pattern matches. -/
  | trimBack (longest : Bool)
  /-- A part of the value, by its place and length. -/
  | slice
  /-- The value with other text in place of what a pattern matches. -/
  | replace (scope : Scope)
  /-- The value in capitals or small letters: its first character, or all of them. -/
  | recase (upper : Bool) (all : Bool)
  /-- The value in the form that a letter stands for. -/
  | transform (form : Char)
  /-- The names of all parameters that begin with the name. -/
  | names
  /-- No such treatment; the text is what stands in the script. -/
  | bad (written : String)
  deriving DecidableEq

/-- Whether the argument of a treatment is a pattern. -/
def Treatment.takesPattern : Treatment → Bool
  | .trimFront _ => true
  | .trimBack _ => true
  | .replace _ => true
  | .recase .. => true
  | _ => false

/-- Where a redirection leads. -/
inductive Direction where
  | read
  | write
  /-- To a file, whether or not files may be overwritten. -/
  | overwrite
  | append
  | update
  /-- To where another descriptor leads; a hyphen closes. -/
  | duplicate (reading : Bool)
  /-- From the text that follows in the script up to a line that is the delimiter. `strip` says that
  tabs in front of its lines are left out, and `quoted` that it is taken as it is. -/
  | document (delimiter : String) (strip quoted : Bool)
  /-- From a word. -/
  | wordText
  /-- The standard output and the standard error, to a file. -/
  | writeBoth
  | appendBoth
  deriving DecidableEq, Inhabited

/-- What follows a branch of a `case`. -/
inductive Follow where
  | leave
  /-- The body of the next branch. -/
  | nextBody
  /-- The patterns of the next branches. -/
  | nextPattern
  deriving DecidableEq, Inhabited

mutual

/-- A part of a word. -/
inductive Piece where
  | text (s : String) (quoted : Bool)
  /-- A parameter, or an element of one. If `indirect`, its value is the name of the parameter that is
  meant. -/
  | parameter (name : String) (subscript : Option Word) (indirect : Bool)
      (treatment : Treatment) (arguments : List Word) (quoted : Bool)
  | command (body : Statement) (quoted : Bool)
  | arithmetic (expression : Word) (quoted : Bool)
  /-- The name of a file that a command writes or reads. -/
  | channel (outgoing : Bool) (body : Statement)
  /-- The elements of an array, behind the sign that assigns them. -/
  | array (elements : List Element)

/-- A word: its parts, one after the other, and the text in which it stands. -/
inductive Word where
  | mk (parts : List Piece) (written : String)

/-- An element of an array, perhaps with its subscript and with more behind what is there; and the
text in which it stands. -/
inductive Element where
  | mk (subscript : Option Word) (append : Bool) (value : Word) (written : String)

/-- A value that is set in front of a command, and the text in which it stands. -/
inductive Assignment where
  | mk (name : String) (subscript : Option Word) (append : Bool) (value : Word) (written : String)

/-- A redirection of one descriptor, or of a new one whose number becomes the value of a parameter. -/
inductive Redirection where
  | mk (descriptor : Nat) (holder : Option String) (direction : Direction) (target : Word)

/-- A condition in double brackets. -/
inductive Condition where
  | unary (operator : String) (operand : Word)
  | binary (operator : String) (left right : Word)
  /-- A condition in parentheses. -/
  | group (c : Condition)
  | not (c : Condition)
  | both (first second : Condition)
  | either (first second : Condition)

/-- A branch of a `case`. -/
inductive Branch where
  | mk (patterns : List Word) (body : Option Statement) (follow : Follow)

/-- A statement. The numbers are the lines where statements begin. -/
inductive Statement where
  | simple (line : Nat) (assignments : List Assignment) (words : List Word)
      (redirections : List Redirection)
  /-- Each stage reads what the stage before it has written. -/
  | pipeline (negated : Bool) (stages : List Statement)
  /-- How long a statement takes. -/
  | timed (posix : Bool) (body : Statement)
  | both (first second : Statement)
  | either (first second : Statement)
  | sequence (statements : List Statement)
  | redirected (line : Nat) (body : Statement) (redirections : List Redirection)
  | subshell (line : Nat) (body : Statement)
  /-- A statement in braces. -/
  | group (body : Statement)
  /-- A statement in the background whose input and output the script holds the other ends of. -/
  | coprocess (line : Nat) (name : String) (body : Statement)
  | background (body : Statement)
  | choice (test yes : Statement) (no : Option Statement)
  /-- Repeats `body` while `test` succeeds, or until it does. -/
  | loop (untilTrue : Bool) (test body : Statement)
  /-- Runs `body` once for each word; without words, for each argument of the script. -/
  | forEach (line : Nat) (name : String) (words : Option (List Word)) (body : Statement)
  /-- Runs `body` while an expression is not zero. -/
  | forCount (line : Nat) (first test step : Word) (body : Statement)
  | select (line : Nat) (name : String) (words : Option (List Word)) (body : Statement)
  | matching (line : Nat) (subject : Word) (branches : List Branch)
  | define (line : Nat) (name : String) (body : Statement)
  /-- Succeeds if an expression is not zero. -/
  | compute (line : Nat) (expression : Word)
  | condition (line : Nat) (c : Condition)
  /-- A script that cannot be read, which is found out when it is run. -/
  | unreadable (line : Nat) (text : String)

end

namespace Word

/-- The parts of a word. -/
def parts : Word → List Piece
  | mk parts _ => parts

/-- The text in which a word stands. -/
def written : Word → String
  | mk _ written => written

/-- A word that stands in no script. -/
def ofParts (parts : List Piece) : Word := mk parts ""

/-- A word of a quoted text. -/
def ofQuoted (s : String) : Word := mk [.text s true] s

/-- A word of an unquoted text. -/
def ofText (s : String) : Word := mk (if s = "" then [] else [.text s false]) s

end Word

instance : Inhabited Word := ⟨.ofParts []⟩

instance : Inhabited Statement := ⟨.sequence []⟩

instance : Inhabited Redirection := ⟨.mk 0 none .read default⟩

/-- The text of a part that is neither quoted nor expanded. -/
def Piece.plainText? : Piece → Option String
  | .text s false => some s
  | _ => none

/-- The text of a word if nothing in it is quoted or expanded. -/
def Word.plainText? (w : Word) : Option String := (w.parts.mapM Piece.plainText?).map String.join

/-- The first character of a name. -/
def startsName (c : Char) : Bool := c.isAlpha || c == '_'

/-- A further character of a name. -/
def continuesName (c : Char) : Bool := c.isAlphanum || c == '_'

/-- Whether a text can be the name of a parameter. -/
def isName (s : String) : Bool :=
  match s.toList with
  | c :: rest => startsName c && rest.all continuesName
  | [] => false

end CrossBench.Shell
