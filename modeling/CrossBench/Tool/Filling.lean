import CrossBench.Tool.Input

/-!
# Paragraphs in lines of one length

`fmt` fills the lines of a paragraph anew. Where its lines end is decided for the whole paragraph: each way
to divide it has a cost, which grows with the square of what a line differs from the length that is called for, and
is changed by how well the line ends; the cheapest way wins.
-/

namespace CrossBench.Tool.Filling

open Shell Shell.Act

/-! ## Words -/

/-- A word of a paragraph with the space behind it. -/
structure Piece where
  text : List Char
  space : Nat
  /-- Whether it begins with an opening bracket or quote. -/
  opens : Bool
  /-- Whether it ends as a sentence does. -/
  closes : Bool
  /-- Whether its last character is a punctuation mark. -/
  marked : Bool
  /-- Whether a sentence ends here. -/
  final : Bool
  deriving Inhabited

/-- Punctuation. -/
def isMark (c : Char) : Bool := '!' ≤ c && c ≤ '~' && !c.isAlphanum

/-- A word, with a space behind it that is still to be settled. -/
def Piece.ofText (text : List Char) : Piece where
  text
  space := 0
  opens := text.head?.any fun c => ['(', '[', '\'', '\x60', '"'].contains c
  marked := text.getLast?.any isMark
  closes :=
    let back := text.reverse
    let trimmed := (back.take (back.length - 1)).dropWhile fun c => [')', ']', '\'', '"'].contains c
    let last := if trimmed = [] then text.head? else trimmed.head?
    last.any fun c => ['.', '?', '!'].contains c
  final := false

/-! ## The best way to divide a paragraph -/

/-- What a paragraph is divided by: its greatest width, the width that is best, the columns at which its first line
and the others begin, and the length of the line in front of it if that belongs to it. -/
structure Shape where
  width : Nat
  goal : Nat
  first : Nat
  other : Nat
  last : Nat

/-- How a paragraph goes on best from one of its words: where the next line begins, how long the line is,
and the cost of everything from here on. -/
structure Course where
  next : Nat
  length : Int
  cost : Int
  deriving Inhabited

/-- The cost of a line that is too short or too long by so much. -/
def shortCost (n : Int) : Int := 100 * n * n

/-- The cost of two lines one after the other that differ by so much. -/
def raggedCost (n : Int) : Int := 50 * n * n

/-- What it costs that a line begins with a word, however long the line is. -/
def startCost (words : Array Piece) (i : Nat) : Int :=
  let this := words.getD i default
  let before : Int :=
    if i = 0 then 0
    else
      let previous := words.getD (i - 1) default
      if previous.closes then (if previous.final then -2500 else 360000)
      else if previous.marked then -1600
      else if 1 < i && (words.getD (i - 2) default).final then 40000 / ((previous.text.length : Int) + 2)
      else 0
  let own : Int :=
    if this.opens then -1600
    else if this.final then 22500 / ((this.text.length : Int) + 2)
    else 0
  4900 + before + own

/-- What a line costs that has some length and ends in front of a word. The last line of a paragraph may
be as short as it likes. -/
def Shape.lineCost (s : Shape) (courses : Array Course) (count next : Nat) (length : Int) : Int :=
  if next = count then 0
  else
    let course := courses.getD next default
    shortCost (s.goal - length) + (if course.next = count then 0 else raggedCost (length - course.length))

/-- The best of the lines that begin with a word, from the line up to a word on. A line has one word at least. -/
def Shape.bestLine (s : Shape) (words : Array Piece) (courses : Array Course) (start : Nat) :
    Nat → Nat → Int → Option Course → Option Course
  | 0, _, _, best => best
  | fuel + 1, next, length, best =>
    let cost := s.lineCost courses words.size next length + (courses.getD next default).cost
      + (if start = 0 ∧ 0 < s.last then raggedCost (length - s.last) else 0)
    let best := if best.all (cost < ·.cost) then some ⟨next, length, cost⟩ else best
    if next = words.size then best
    else
      let longer := length + (words.getD (next - 1) default).space + (words.getD next default).text.length
      if longer < s.width then s.bestLine words courses start fuel (next + 1) longer best else best

/-- The courses from all words of a paragraph, and from its end. -/
def Shape.courses (s : Shape) (words : Array Piece) : Array Course :=
  (List.range words.size).foldr (fun start courses =>
    let begins : Nat := if start = 0 then s.first else s.other
    let length : Int := begins + (words.getD start default).text.length
    match s.bestLine words courses start (words.size + 1) (start + 1) length none with
    | some best => courses.setIfInBounds start { best with cost := best.cost + startCost words start }
    | none => courses) (Array.replicate (words.size + 1) ⟨words.size, 0, 0⟩)

/-- The words at which lines begin, from one of them up to another. -/
def startsFrom (courses : Array Course) (stop : Nat) : Nat → Nat → List Nat
  | 0, _ => []
  | fuel + 1, i => if i = stop then [] else i :: startsFrom courses stop fuel (courses.getD i default).next

/-! ## Lines of the input -/

/-- What is the same for all paragraphs: the widths, what stands in front of each line, with the spaces in
front of it and its length with those behind it, and which lines belong together. -/
structure Manner where
  width : Nat := 75
  goal : Nat := 70
  lead : Nat := 0
  mark : List Char := []
  markLength : Nat := 0
  crown : Bool := false
  tagged : Bool := false
  split : Bool := false
  uniform : Bool := false

/-- A line: the column of its mark, the column at which its text begins, the text, whether the line has an
end, and whether there is a tab in front of the text. -/
structure Line where
  indent : Nat
  column : Nat
  text : List Char
  ended : Bool
  tabs : Bool

/-- The column behind blanks, what follows them, and whether there is a tab among them. -/
def pastBlanks : List Char → Nat → Bool → Nat × List Char × Bool
  | ' ' :: rest, column, tabs => pastBlanks rest (column + 1) tabs
  | '\t' :: rest, column, _ => pastBlanks rest ((column / 8 + 1) * 8) true
  | rest, column, tabs => (column, rest, tabs)

/-- How much of a mark stands at the beginning of a text. -/
def sharedLength : List Char → List Char → Nat
  | a :: as, b :: bs => if a = b then sharedLength as bs + 1 else 0
  | _, _ => 0

/-- A line of the input. -/
def Manner.line (m : Manner) (text : List Char) (ended : Bool) : Line :=
  let (column, rest, tabs) := pastBlanks text 0 false
  if m.mark = [] then ⟨min m.lead column, column, rest, ended, tabs⟩
  else
    let shared := sharedLength m.mark rest
    let behind := rest.drop shared
    if shared < m.mark.length then ⟨column, column + shared, behind, ended, tabs⟩
    else
      let (end_, behind, tabs) := pastBlanks behind (column + shared) tabs
      ⟨column, end_, behind, ended, tabs⟩

/-- Whether a line can belong to a paragraph. -/
def Manner.isText (m : Manner) (l : Line) : Bool :=
  l.text ≠ [] && m.lead ≤ l.indent && l.indent + m.markLength ≤ l.column

/-! ## Writing -/

/-- Blanks from a column on, with tabs where those save some, and the column behind them. -/
def gap (tabs : Bool) (column width : Nat) : List Char × Nat :=
  let target := column + width
  let stop := target / 8 * 8
  if tabs && column + 1 < stop then
    (List.replicate (stop / 8 - column / 8) '\t' ++ List.replicate (target - stop) ' ', target)
  else (List.replicate width ' ', target)

/-- A line as it was, without its end. A line that has nothing but a mark is ended in any case. -/
def Manner.copied (m : Manner) (tabs : Bool) (l : Line) : List Char :=
  if l.text = [] ∧ l.column ≤ l.indent then []
  else
    let (front, column) := gap tabs 0 l.indent
    let mark := m.mark.take (l.column - column)
    let column := column + mark.length
    let behind :=
      if l.text ≠ [] then (gap tabs column (l.column - column)).1
      else if !l.ended && l.indent + m.mark.length ≤ l.column then ['\n']
      else []
    front ++ mark ++ behind ++ l.text

/-- Words with the spaces between them, from a column on, and the column behind them. -/
def inLine (tabs : Bool) : List Piece → Nat → List Char × Nat
  | [], column => ([], column)
  | [w], column => (w.text, column + w.text.length)
  | w :: rest, column =>
    let (space, column) := gap tabs (column + w.text.length) w.space
    let (text, column) := inLine tabs rest column
    (w.text ++ space ++ text, column)

/-! ## Paragraphs -/

/-- A paragraph that is being read: the columns of its mark and its first line, whether that line is its
only one so far, its words, and how many characters they have. -/
structure Paragraph where
  indent : Nat
  first : Nat
  fresh : Bool
  words : Array Piece := #[]
  size : Nat := 0

/-- A paragraph with another word. -/
def Paragraph.push (p : Paragraph) (w : Piece) : Paragraph :=
  { p with words := p.words.push w, size := p.size + w.text.length }

/-- A paragraph without the words in front of one. -/
def Paragraph.drop (p : Paragraph) (count : Nat) : Paragraph :=
  let words := p.words.extract count p.words.size
  { p with words, size := words.foldl (fun n w => n + w.text.length) 0 }

/-- How far a file has been filled: whether there have been tabs, the column of lines behind the first, the length of
the last line, and the paragraph that is open. -/
structure State where
  tabs : Bool := false
  other : Nat := 0
  last : Nat := 0
  open_ : Option Paragraph := none

/-- The column of the lines behind a paragraph's first, as the next line shows. -/
def Manner.otherColumn (m : Manner) (s : State) (first : Nat) (same : Bool) (column : Nat) : Nat :=
  if m.split then first
  else if m.crown then (if same then column else first)
  else if m.tagged then
    if same && column ≠ first then column
    else if s.other = first then (if first = 0 then 3 else 0)
    else s.other
  else first

/-- The shape of the open paragraph. -/
def Manner.shape (m : Manner) (s : State) (p : Paragraph) : Shape := ⟨m.width, m.goal, p.first, s.other, s.last⟩

/-- The lines of a paragraph that begin with some of its words, and the length of the last of them. -/
def Manner.written (m : Manner) (s : State) (p : Paragraph) (courses : Array Course) (starts : List Nat) :
    List Char × Nat :=
  starts.foldl (fun (text, _) i =>
    let (front, column) := gap s.tabs 0 p.indent
    let column := column + m.mark.length
    let (space, column) := gap s.tabs column ((if i = 0 then p.first else s.other) - column)
    let words := (p.words.extract i (courses.getD i default).next).toList
    let (line, column) := inLine s.tabs words column
    (text ++ front ++ m.mark ++ space ++ line ++ ['\n'], column)) ([], s.last)

/-- Writes a paragraph to its end. -/
def Manner.finish (m : Manner) (s : State) (p : Paragraph) : State × List Char :=
  let words := p.words.modify (p.words.size - 1) fun w => { w with closes := true, final := true }
  let p := { p with words }
  let courses := (m.shape s p).courses words
  let (text, last) := m.written s p courses (startsFrom courses words.size words.size 0)
  ({ s with last, open_ := none }, text)

/-- The best of some words to begin anew with: the one whose line costs least, where a later line has an
advantage. Without one, it is the end. -/
def cheapestStart (courses : Array Course) (count : Nat) : List Nat → Option Int → Nat → Nat
  | [], _, found => found
  | i :: rest, best, found =>
    let course := courses.getD i default
    let cost := course.cost - (courses.getD course.next default).cost
    let (best, found) := if best.all (cost < ·) then (cost, i) else (best.getD cost, found)
    cheapestStart courses count rest (some (best + 9)) found

/-- Writes the beginning of a paragraph that has become too long, up to where it can best be parted. -/
def Manner.shed (m : Manner) (s : State) (p : Paragraph) (column : Nat) : State × Paragraph × List Char :=
  let s := { s with other := m.otherColumn s p.first true column }
  let courses := (m.shape s p).courses p.words
  let count := p.words.size
  let starts := startsFrom courses count count 0
  let stop := cheapestStart courses count (starts.drop 1) none count
  let (text, last) := m.written s p courses (starts.takeWhile (· ≠ stop))
  ({ s with last }, p.drop stop, text)

/-- A word in a line: the column at which it begins, its text, the column behind the blanks that follow it,
what follows them, and whether there is a tab among them. -/
structure Token where
  column : Nat
  text : List Char
  behind : Nat
  rest : List Char
  tabs : Bool

/-- The words of a text that begins at a column. Characters of white space that are no blanks begin words. -/
def tokensFrom : Nat → List Char → Nat → List Token
  | 0, _, _ => []
  | _, [], _ => []
  | fuel + 1, c :: cs, column =>
    let word := cs.takeWhile (!isSpace ·)
    let (behind, rest, tabs) := pastBlanks (cs.drop word.length) (column + 1 + word.length) false
    ⟨column, c :: word, behind, rest, tabs⟩ :: tokensFrom fuel rest behind

/-- The most characters and words that a paragraph holds. -/
def mostCharacters : Nat := 5000

/-- The most words that a paragraph holds. -/
def mostWords : Nat := 998

/-- Makes room in a paragraph for the text of a word. What does not fit into a paragraph without words is
written as it is. -/
def Manner.makeRoom (m : Manner) (column : Nat) : Nat → State → Paragraph → List Char → List Char →
    State × Paragraph × List Char × List Char
  | 0, s, p, word, written => (s, p, word, written)
  | fuel + 1, s, p, word, written =>
    if p.size + word.length ≤ mostCharacters then (s, p, word, written)
    else if p.words.isEmpty then
      let s := { s with other := m.otherColumn s p.first true column }
      m.makeRoom column fuel s p (word.drop mostCharacters) (written ++ word.take mostCharacters)
    else
      let (s, p, text) := m.shed s p column
      m.makeRoom column fuel s p word (written ++ text)

/-- Puts a word behind a paragraph. -/
def Manner.add (m : Manner) (ended : Bool) : State × Paragraph × List Char → Token → State × Paragraph × List Char
  | (s, p, written), t =>
    let (s, p, text, written) := m.makeRoom t.column (t.text.length + mostWords) s p t.text written
    let w := Piece.ofText text
    let s := { s with tabs := s.tabs || t.tabs }
    let room := t.behind - t.column - t.text.length
    let isLast := t.rest = []
    let final := (isLast && !ended) || (w.closes && (isLast || 1 < room))
    let w := { w with final, space := if isLast || m.uniform then (if final then 2 else 1) else room }
    if p.words.size = mostWords then
      let (s, p, text) := m.shed s p t.behind
      (s, p.push w, written ++ text)
    else (s, p.push w, written)

/-- Puts the words of a line behind a paragraph. -/
def Manner.addLine (m : Manner) (s : State) (p : Paragraph) (l : Line) : State × List Char :=
  let (s, p, written) := (tokensFrom l.text.length l.text l.column).foldl (m.add l.ended) (s, p, [])
  ({ s with open_ := some p }, written)

/-- Begins a paragraph with a line, or copies the line. -/
def Manner.enter (m : Manner) (s : State) (l : Line) : State × List Char :=
  let s := { s with last := 0 }
  if m.isText l then m.addLine s { indent := l.indent, first := l.column, fresh := true } l
  else (s, m.copied s.tabs l ++ (if l.ended then ['\n'] else []))

/-- What a line does: it goes on with the open paragraph, or ends it. -/
def Manner.step (m : Manner) (s : State) (l : Line) : State × List Char :=
  let s := { s with tabs := s.tabs || l.tabs }
  match s.open_ with
  | none => m.enter s l
  | some p =>
    let same := m.isText l && l.indent = p.indent
    let s := if p.fresh then { s with other := m.otherColumn s p.first same l.column } else s
    let continues := !m.split && same &&
      (if m.tagged && !m.crown && p.fresh then l.column ≠ p.first else l.column = s.other)
    if continues then m.addLine s { p with fresh := false } l
    else
      let (s, before) := m.finish s p
      let (s, text) := m.enter s l
      (s, before ++ text)

/-! ## The program -/

/-- Fills the lines of a file. -/
def Manner.fill (m : Manner) (fd : Nat) : Act (Except IoError Unit) := do
  let atEnd (s : State) : Act Unit := outChars (m.step s ⟨0, 0, [], false, false⟩).2
  let result : Except (State × IoError) State ← repeating ({} : State) fun s => do
    match ← readTo fd 10 with
    | .error e => return .inr (.error (s, e))
    | .ok bytes =>
      if bytes.isEmpty then return .inr (.ok s)
      else
        let cs := charsOf bytes
        let ended := cs.getLast? = some '\n'
        let (s, text) := m.step s (m.line (if ended then cs.dropLast else cs) ended)
        outChars text
        return .inl s
  match result with
  | .ok s =>
    atEnd s
    return .ok ()
  | .error (s, e) =>
    atEnd s
    return .error e

/-- A width up to a bound. -/
def widthUpTo (most : Nat) (text : String) : Act Nat := do
  let wrong := "invalid width: " ++ cited text
  match decimal? (if text.startsWith "+" then (text.drop 1).toString else text) with
  | none => stop 1 wrong
  | some n =>
    if 18446744073709551615 < n then stop 1 (wrong ++ ": Value too large for defined data type")
    else if most < n then stop 1 (wrong ++ ": Numerical result out of range")
    else return n

/-- Fills the lines of paragraphs anew. -/
def fmt : Act Nat := do
  let arguments := (← get).arguments
  let short :=
    match arguments.head?.map String.toList with
    | some ('-' :: c :: rest) => if c.isDigit then some (String.ofList (c :: rest)) else none
    | _ => none
  if short.isSome then modify fun s => { s with arguments := arguments.drop 1 }
  let g ← given
    { letters := "0123456789cstu", valued := "wpg"
      words := [("crown-margin", "c"), ("split-only", "s"), ("tagged-paragraph", "t"), ("uniform-spacing", "u")]
      valuedWords := [("prefix", "p"), ("width", "w"), ("goal", "g")] }
  match g.options.find? fun o => o.1.toList.all Char.isDigit with
  | some o =>
    misuse 1 ("invalid option -- " ++ o.1
      ++ "; -WIDTH is recognized only when it is the first\noption; use -w N instead")
  | none => pure ()
  let width ← ((g.value? "w").orElse fun _ => short).mapM (widthUpTo 2500)
  let goal ← (g.value? "g").mapM (widthUpTo (width.getD 75))
  let given := ((g.value? "p").getD "").toList
  let mark := given.dropWhile (· = ' ')
  let m : Manner :=
    { width := width.getD (goal.elim 75 (· + 10))
      goal := goal.getD (width.getD 75 * 187 / 200)
      lead := given.length - mark.length
      mark := (mark.reverse.dropWhile (· = ' ')).reverse
      markLength := mark.length
      crown := g.has "c", tagged := g.has "t", split := g.has "s", uniform := g.has "u" }
  forAll (orInput g.operands) fun name => do
    match ← openInput name with
    | .error e =>
      say ("cannot open " ++ quoted name ++ " for reading: " ++ e.plainMessage)
      return false
    | .ok fd =>
      let result ← m.fill fd
      closeInput fd
      match result with
      | .ok () => return true
      | .error _ =>
        say "read error"
        return false

end CrossBench.Tool.Filling
