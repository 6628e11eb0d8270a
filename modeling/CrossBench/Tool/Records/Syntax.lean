import CrossBench.Text.Regex

/-!
# Programs for records

A program goes through records, each of which is divided into fields, and has rules for them: a
pattern, and what is done with the records for which it holds. What is done before the first and behind
the last record is written beside the rules, and so are functions.
-/

namespace CrossBench.Tool.Records

/-- A name as it is resolved: that of the whole program, or a parameter of the function. -/
inductive Variable where
  | shared (name : String)
  | own (place : Nat)
  deriving DecidableEq, Inhabited

/-- An operation on two numbers. -/
inductive Operation where
  | add
  | subtract
  | multiply
  | divide
  | remainder
  | power
  deriving DecidableEq

/-- How two values are compared. -/
inductive Comparison where
  | less
  | atMost
  | equal
  | unequal
  | atLeast
  | greater
  deriving DecidableEq

/-- Where a record is read from that is not the next one of the input. -/
inductive Origin where
  | input
  | file
  | command
  deriving DecidableEq

mutual

/-- An expression. -/
inductive Expr where
  | number (x : Float)
  | text (s : String)
  /-- A regular expression, which by itself says whether it matches the record. -/
  | regex (source : String) (r : Regex)
  | value (p : Place)
  | assign (p : Place) (e : Expr)
  | update (op : Operation) (p : Place) (e : Expr)
  /-- The value before or behind a change by one. -/
  | step (up before : Bool) (p : Place)
  | number_ (e : Expr)
  | opposite (e : Expr)
  | not (e : Expr)
  | compute (op : Operation) (a b : Expr)
  | compare (how : Comparison) (a b : Expr)
  | joined (a b : Expr)
  | matching (negated : Bool) (a r : Expr)
  | both (a b : Expr)
  | either (a b : Expr)
  | choose (c a b : Expr)
  | within (keys : List Expr) (v : Variable)
  | call (name : String) (arguments : List Expr)
  | builtin (name : String) (arguments : List Expr)
  | size (v : Variable)
  | split (e : Expr) (v : Variable) (by_ : Option Expr)
  | find (e r : Expr)
  | substitute (all : Bool) (r e : Expr) (p : Place)
  | getline (origin : Origin) (source : Option Expr) (p : Option Place)

/-- Where a value is kept. -/
inductive Place where
  | variable (v : Variable)
  | element (v : Variable) (keys : List Expr)
  | field (e : Expr)

end

instance : Inhabited Expr := ⟨.number 0.0⟩

/-- What becomes of what is printed. -/
inductive Sink where
  | file
  | append
  | command
  deriving DecidableEq

/-- A statement. -/
inductive Statement where
  | nothing
  | expr (e : Expr)
  | print (formed : Bool) (arguments : List Expr) (sink : Option (Sink × Expr))
  | block (statements : List Statement)
  | cond (c : Expr) (yes no : Statement)
  /-- As long as a condition holds. -/
  | loop (c : Expr) (body : Statement)
  /-- Once, and then as long as a condition holds. -/
  | onceAndLoop (body : Statement) (c : Expr)
  | counted (first c next : Option Expr) (body : Statement)
  /-- For each key of a table. -/
  | each (k : Variable) (v : Variable) (body : Statement)
  | leaveLoop
  | nextTurn
  | nextRecord
  | nextFile
  | exit (e : Option Expr)
  | answer (e : Option Expr)
  | delete (v : Variable) (keys : List Expr)
  | clear (v : Variable)
  deriving Inhabited

/-- For which records a rule is. -/
inductive Condition where
  | every
  | holds (e : Expr)
  /-- From a record to another one; the number tells ranges apart. -/
  | range (number : Nat) (first last : Expr)

/-- A rule. -/
structure Rule where
  condition : Condition
  action : Statement

/-- A function with so many parameters. -/
structure Routine where
  parameters : Nat
  body : Statement

/-- A program. -/
structure Script where
  first : List Statement
  rules : List Rule
  last : List Statement
  routines : List (String × Routine)

end CrossBench.Tool.Records
