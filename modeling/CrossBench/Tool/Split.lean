import CrossBench.Text.Layout
import CrossBench.Text.Regex.Read
import CrossBench.Tool.Start

/-!
# Files in pieces

`split` writes a file in pieces of equal size, and `csplit` in pieces that begin where its lines are as
told. The names of the pieces have endings that count them.
-/

namespace CrossBench.Tool

open Shell Shell.Act

/-! ## Names -/

/-- How the names of pieces are made. -/
structure Naming where
  front : String
  /-- What endings are written with. -/
  alphabet : List Char
  /-- How long endings are. -/
  length : Nat
  /-- The ending of the first piece. -/
  first : Nat
  /-- Whether endings become longer when there are no more of them. -/
  grows : Bool
  behind : String

namespace Naming

/-- A number in so many signs of the alphabet. -/
def digits (n : Naming) : Nat → Nat → List Char
  | 0, _ => []
  | length + 1, k => n.digits length (k / n.alphabet.length) ++ [n.alphabet.getD (k % n.alphabet.length) ' ']

/-- The ending of a piece, where the last sign of the alphabet is kept back for longer endings. -/
def growing (n : Naming) : Nat → Nat → Nat → List Char
  | 0, length, k => n.digits length k
  | fuel + 1, length, k =>
    let base := n.alphabet.length
    let room := (base - 1) * Nat.pow base (length - 1)
    if k < room then n.digits length k
    else n.alphabet.getD (base - 1) ' ' :: growing n fuel (length + 1) (k - room)

/-- The name of a piece, if there is one. -/
def name? (n : Naming) (k : Nat) : Option String :=
  let whole (cs : List Char) : String := n.front ++ String.ofList cs ++ n.behind
  if n.grows then some (whole (n.growing 20 n.length k))
  else if Nat.pow n.alphabet.length n.length ≤ k + n.first then none
  else some (whole (n.digits n.length (k + n.first)))

end Naming

/-! ## Pieces -/

/-- What a file is divided into. -/
inductive Division where
  | lines (n : Nat)
  | bytes (n : Nat)
  /-- Whole lines, up to so many bytes of them. -/
  | lineBytes (n : Nat)
  /-- So many pieces of equal size. -/
  | chunks (n : Nat)
  /-- The same, of whole lines. -/
  | lineChunks (n : Nat)
  /-- So many pieces, among which the lines are dealt out. -/
  | dealt (n : Nat)

/-- Puts lines together as long as they have room; a line that has none is cut. -/
def packLines (room : Nat) : Nat → List (List Char) → List Char → List (List Char)
  | 0, _, _ => []
  | _, [], [] => []
  | _, [], taken => [taken]
  | fuel + 1, line :: rest, taken =>
    if taken.length + line.length ≤ room then packLines room fuel rest (taken ++ line)
    else if taken ≠ [] then taken :: packLines room fuel (line :: rest) []
    else line.take room :: packLines room fuel (line.drop room :: rest) []

/-- The pieces of whole lines that end behind the places where pieces of equal size would. -/
def lineChunksOf (mark : Char) (text : Array Char) (n : Nat) : List (List Char) :=
  let size := text.size
  let each := size / n
  ((List.range n).foldl (fun ((place, pieces) : Nat × List (List Char)) i =>
    let goal := if i + 1 = n then size - 1 else each * (i + 1) - 1
    if goal < place || size = 0 then (place, [] :: pieces)
    else
      let stop := ((List.range (size - goal)).find? fun k => text[goal + k]? == some mark).elim size (goal + · + 1)
      (stop, (text.extract place stop).toList :: pieces)) (0, [])).2.reverse

/-- The pieces of a text. -/
def Division.pieces (d : Division) (mark : Char) (text : List Char) : List (List Char) :=
  let lines : List (List Char) := text.splitBy fun a _ => a != mark
  let rec together : Nat → Nat → List (List Char) → List (List Char)
    | 0, _, _ => []
    | _, _, [] => []
    | fuel + 1, n, ls => (ls.take n).flatten :: together fuel n (ls.drop n)
  let rec cut : Nat → Nat → List Char → List (List Char)
    | 0, _, _ => []
    | _, _, [] => []
    | fuel + 1, n, cs => cs.take n :: cut fuel n (cs.drop n)
  match d with
  | .lines n => together (lines.length + 1) n lines
  | .bytes n => cut (text.length + 1) n text
  | .lineBytes n => packLines n (2 * text.length + 2) lines []
  | .chunks n =>
    let each := max 1 (text.length / n)
    (List.range n).map fun i =>
      let rest := text.drop (i * each)
      if i + 1 = n then rest else rest.take each
  | .lineChunks n => lineChunksOf mark text.toArray n
  | .dealt n =>
    (List.range n).map fun i => ((lines.zipIdx.filter fun l => l.2 % n = i).map (·.1)).flatten

/-! ## Calls -/

/-- Reads how many chunks are asked for, and which one. -/
def chunksOf? (text : String) : Except String (Option Nat × Nat) :=
  let number (s : String) : Option Nat := (decimal? s).filter (0 < ·)
  match text.splitOn "/" with
  | [n] =>
    match number n with
    | some n => .ok (none, n)
    | none => .error ("invalid number of chunks: " ++ cited text)
  | k :: rest =>
    let n := "/".intercalate rest
    match decimal? k with
    | none => .error ("invalid number of chunks: " ++ cited text)
    | some i =>
      match number n with
      | none => .error ("invalid number of chunks: " ++ cited n)
      | some n => if 0 < i && i ≤ n then .ok (some i, n) else .error ("invalid chunk number: " ++ cited k)
  | [] => .error ""

/-- Reads what a file is to be divided into, and which of the pieces alone is called for. -/
def divisionOf (g : Given) : Act (Division × Option Nat) := do
  let asked := g.options.filter fun o => ["l", "b", "C", "n"].contains o.1 || o.1.all Char.isDigit
  let digits := (asked.filter fun o => o.1.all Char.isDigit).map (·.1)
  let others := asked.filter fun o => !o.1.all Char.isDigit
  if 1 < others.length + (if digits.isEmpty then 0 else 1) then misuse 1 "cannot split in more than one way"
  let size (what text : String) : Act Nat := do
    match size? text with
    | some 0 | none => stop 1 ("invalid number of " ++ what ++ ": " ++ cited text)
    | some n => return n
  match others, digits with
  | [], [] => return (.lines 1000, none)
  | [], ds => return (.lines (← size "lines" (String.join ds)), none)
  | (kind, text) :: _, _ =>
    match kind with
    | "l" => return (.lines (← size "lines" text), none)
    | "b" => return (.bytes (← size "bytes" text), none)
    | "C" => return (.lineBytes (← size "bytes" text), none)
    | _ =>
      let bare := String.ofList (text.toList.drop 2)
      let part := if text.startsWith "l/" || text.startsWith "r/" then bare else text
      match chunksOf? part with
      | .error why => stop 1 why
      | .ok (one, n) =>
        return (if text.startsWith "l/" then .lineChunks n else if text.startsWith "r/" then .dealt n
          else .chunks n, one)

/-- How many pieces a division has, if that is told. -/
def Division.count? : Division → Option Nat
  | .chunks n => some n
  | .lineChunks n => some n
  | .dealt n => some n
  | _ => none

/-- Reads how the pieces are to be named. -/
def namingOf (g : Given) (d : Division) : Act Naming := do
  let kinds := g.options.filter fun o => o.1 = "d" || o.1 = "x"
  let (alphabet, start) : List Char × String :=
    match kinds.getLast? with
    | some ("d", start) => ("0123456789".toList, start)
    | some (_, start) => ("0123456789abcdef".toList, start)
    | none => ("abcdefghijklmnopqrstuvwxyz".toList, "")
  if !start.toList.all alphabet.contains then
    misuse 1 (cited start ++ ": invalid start value for " ++
      (if alphabet.length = 10 then "numerical" else "hexadecimal") ++ " suffix")
  let behind := (g.value? "additional").getD ""
  if behind.toList.contains '/' then
    misuse 1 ("invalid suffix " ++ cited behind ++ ", contains directory separator")
  let length ←
    match g.value? "a" with
    | none => pure 0
    | some text =>
      match decimal? text with
      | some n => pure n
      | none => stop 1 ("invalid suffix length: " ++ cited text)
  let base := alphabet.length
  let first := start.toList.foldl (fun n c => n * base + (alphabet.idxOf c)) 0
  let rec signs : Nat → Nat → Nat
    | 0, _ => 1
    | fuel + 1, n => if n < base then 1 else 1 + signs fuel (n / base)
  let needed :=
    match d.count? with
    | none => 0
    | some n => signs 64 (n - 1 + if first < n then first else 0)
  if 0 < length && length < needed then
    stop 1 ("the suffix length needs to be at least " ++ toString needed)
  let whole := if 0 < length then length else max 2 needed
  if whole < start.length then
    misuse 1 "numerical suffix start value is too large for the suffix length"
  return { front := g.operands.getD 1 "x", alphabet, length := whole, first
           grows := length = 0 && start = "" && d.count?.isNone, behind }

/-- Hands a piece over to a command. -/
def filterPiece (command name : String) (bytes : ByteArray) : Act Unit := do
  let (reading, writing) ← pipe
  let kept ← freeFrom Kernel.keptFrom
  let had ← duplicate 0 kept
  let _ ← duplicate reading 0
  close reading
  let environment := ((← get).environment.filter fun v => v.1 ≠ "FILE") ++ [("FILE", name)]
  let kept' ← freeFrom Kernel.keptFrom
  let _ ← duplicate writing kept'
  close writing
  let started ← spawnShellIn environment command
  if had then
    let _ ← duplicate kept 0
    close kept
  else close 0
  match started with
  | .error _ => close kept'
  | .ok child =>
    let _ ← Act.write kept' bytes
    close kept'
    let status ← waitFor child
    match status.code? with
    | some 0 => return ()
    | some n => stop n ("with FILE=" ++ name ++ ", exit " ++ toString n ++ " from command: " ++ command)
    | none => stop 1 ("with FILE=" ++ name ++ ", signal from command: " ++ command)

/-- Writes a file in pieces. -/
def split : Act Nat := do
  let g ← given
    { letters := "edux0123456789", valued := "abCltn"
      words := [("verbose", "verbose"), ("elide-empty-files", "e"), ("unbuffered", "u")]
      valuedWords := [("suffix-length", "a"), ("bytes", "b"), ("lines", "l"), ("number", "n"),
        ("additional-suffix", "additional"), ("line-bytes", "C"), ("filter", "filter"), ("separator", "t")]
      freeWords := [("numeric-suffixes", "d"), ("hex-suffixes", "x")] }
  let mark ←
    match g.value? "t" with
    | none => pure '\n'
    | some "" => stop 1 "empty record separator"
    | some "\\0" => pure (Char.ofNat 0)
    | some text =>
      if text.length = 1 then pure (text.toList.headD '\n')
      else stop 1 ("multi-character separator " ++ cited text)
  if 1 < (g.values "t").eraseDups.length then stop 1 "multiple separator characters specified"
  let (division, only) ← divisionOf g
  match g.operands with
  | _ :: _ :: extra :: _ => misuse 1 ("extra operand " ++ cited extra)
  | _ => pure ()
  if g.has "filter" && only.isSome then misuse 1 "--filter does not process a chunk extracted to stdout"
  let naming ← namingOf g division
  let input := g.operands.headD "-"
  match ← contents input with
  | .error e =>
    if e = .isDirectory then stop 1 (named input ++ ": " ++ e.plainMessage)
    else stop 1 ("cannot open " ++ quoted input ++ " for reading: " ++ e.plainMessage)
  | .ok bytes =>
    let pieces := division.pieces mark (charsOf bytes)
    match only with
    | some k =>
      outChars (pieces.getD (k - 1) [])
      return 0
    | none =>
      let pieces := if g.has "e" then pieces.filter (· ≠ []) else pieces
      pieces.zipIdx.forM fun (piece, i) => do
        match naming.name? i with
        | none => stop 1 "output file suffixes exhausted"
        | some name =>
          match g.value? "filter" with
          | some command =>
            if g.has "verbose" then out ("executing with FILE=" ++ quoted name ++ "\n")
            filterPiece command name (packedChars piece)
          | none =>
            if g.has "verbose" then out ("creating file " ++ quoted name ++ "\n")
            let t ← tree
            let target := (t.locate (pathOf name) true).toOption
            if target.isSome && input ≠ "-" && target == (t.locate (pathOf input) true).toOption then
              stop 1 (quoted name ++ " would overwrite input; aborting")
            let fd ← freeFrom firstFile
            match ← openAt fd (pathOf name) .writing 0o666 with
            | .error e => stop 1 (unreadable name e)
            | .ok () =>
              match ← Act.write fd (packedChars piece) with
              | .ok () => close fd
              | .error e => stop 1 (unreadable name e)
      return 0

/-! ## Pieces at certain lines -/

/-- Where a piece ends. -/
inductive Border where
  /-- In front of a line of this number. -/
  | line (n : Nat)
  /-- So many lines behind one that fits. What is in front of it may be left out. -/
  | fitting (r : Regex) (offset : Int) (leaves : Bool)

/-- A border, how it is written, and how often it is looked for again; for ever if that is `none`. -/
structure Cut where
  border : Border
  word : String
  again : Option Nat

/-- Reads a border. -/
def borderOf (word : String) : Except String Border :=
  match word.toList with
  | mark :: cs =>
    if mark = '/' || mark = '%' then
      let inner := cs.reverse.dropWhile (· != mark)
      if inner.isEmpty then .error (word ++ ": closing delimiter '" ++ String.singleton mark ++ "' missing")
      else
        let text := (inner.drop 1).reverse
        let behind := cs.drop (text.length + 1)
        match Regex.parse .basic text with
        | .error why => .error (cited word ++ ": invalid regular expression: " ++ why)
        | .ok r =>
          let (negative, digits) : Bool × List Char :=
            match behind with
            | '+' :: ds => (false, ds)
            | '-' :: ds => (true, ds)
            | ds => (false, ds)
          if behind = [] then .ok (.fitting r 0 (mark = '%'))
          else
            match decimal? (String.ofList digits) with
            | none => .error (cited word ++ ": integer expected after delimiter")
            | some n => .ok (.fitting r (if negative then -(n : Int) else n) (mark = '%'))
    else
      match decimal? word with
      | none => .error (cited word ++ ": invalid pattern")
      | some 0 => .error (word ++ ": line number must be greater than zero")
      | some n => .ok (.line n)
  | [] => .error (cited word ++ ": invalid pattern")

/-- Reads borders with the counts behind them. -/
def cutsOf : List String → Nat → List Cut → Except String (List Cut)
  | [], _, cuts => .ok cuts.reverse
  | word :: rest, last, cuts =>
    match word.toList, cuts with
    | '\x7b' :: cs, cut :: others =>
      match cs.reverse with
      | '\x7d' :: ds =>
        let text := String.ofList ds.reverse
        if text = "*" then cutsOf rest last ({ cut with again := none } :: others)
        else
          match decimal? text with
          | some n => cutsOf rest last ({ cut with again := some n } :: others)
          | none => .error (cited ("\x7b" ++ text) ++ "\x7d: integer required between '\x7b' and '\x7d'")
      | _ => .error (cited word ++ ": '\x7d' is required in repeat count")
    | _, _ =>
      match borderOf word with
      | .error why => .error why
      | .ok (.line n) =>
        if n < last then
          .error ("line number " ++ cited word ++ " is smaller than preceding line number, " ++ toString last)
        else cutsOf rest n (⟨.line n, word, some 0⟩ :: cuts)
      | .ok border => cutsOf rest last (⟨border, word, some 0⟩ :: cuts)

/-- The lines that are left, and the number of the first one. -/
structure Rest where
  lines : List (List Char)
  number : Nat
  /-- The number of the line behind which the next one that fits is looked for. -/
  current : Nat
  /-- The pieces, the last one first. -/
  pieces : List (List Char) := []

/-- Takes lines off the front, as a piece unless they are left out. -/
def Rest.take (r : Rest) (n : Nat) (leaves : Bool) : Rest :=
  { r with
    lines := r.lines.drop n
    number := r.number + n
    pieces := if leaves then r.pieces else (r.lines.take n).flatten :: r.pieces }

/-- Leaves out the line at the border. -/
def Rest.leave (r : Rest) (suppress : Bool) : Rest :=
  if suppress then { r with lines := r.lines.drop 1, number := r.number + 1, current := r.number } else r

/-- What keeps a file from being divided: what is said about it, and whether that comes before the sizes of
the pieces. -/
structure Obstacle where
  why : String
  early : Bool

/-- Divides at a border, for the `turn`th time. What is wrong is told together with the pieces that are
there. -/
def Rest.divide (r : Rest) (suppress : Bool) (cut : Cut) (turn : Nat) :
    Except (Option Obstacle × Rest) Rest :=
  let repeated := if turn = 0 then "" else " on repetition " ++ toString turn
  match cut.border with
  | .line n =>
    let goal := n * (turn + 1)
    let wanted := goal - r.number
    let wrong : Obstacle := ⟨cited (toString n) ++ ": line number out of range" ++ repeated, true⟩
    if r.lines.isEmpty && suppress then .error (some wrong, r.take 0 false)
    else if r.lines.length < wanted then .error (some wrong, r.take r.lines.length false)
    else
      let r := (r.take wanted false).leave suppress
      if r.lines.isEmpty && !suppress then .error (some wrong, r) else .ok { r with current := r.number }
  | .fitting e offset leaves =>
    let skipped := r.current + 1 - r.number
    let fits (line : List Char) : Bool :=
      let line := if line.getLast? = some '\n' then line.dropLast else line
      (e.find? ⟨line.toArray, false, false, true⟩ 0).isSome
    match (r.lines.drop skipped).findIdx? fits with
    | none =>
      if cut.again.isNone then .error (none, r.take r.lines.length leaves)
      else .error (some ⟨cited cut.word ++ ": match not found" ++ repeated, true⟩, r.take r.lines.length leaves)
    | some i =>
      let found := r.number + skipped + i
      let goal : Int := found + offset
      let wrong : Obstacle := ⟨cited cut.word ++ ": line number out of range", false⟩
      if goal < r.number then .error (some wrong, r.take 0 leaves)
      else if r.number + r.lines.length < goal.toNat then
        .error (some wrong, r.take r.lines.length leaves)
      else
        let r := r.take (goal.toNat - r.number) leaves
        .ok ({ r with current := if 0 < offset then goal.toNat else found }.leave suppress)

/-- Divides at a border as often as is asked for. -/
def Rest.divideAll (suppress : Bool) (cut : Cut) : Nat → Nat → Rest →
    Except (Option Obstacle × Rest) Rest
  | 0, _, r => .ok r
  | fuel + 1, turn, r =>
    match r.divide suppress cut turn with
    | .error why => .error why
    | .ok r =>
      match cut.again with
      | some n => if turn < n then Rest.divideAll suppress cut fuel (turn + 1) r else .ok r
      | none => Rest.divideAll suppress cut fuel (turn + 1) r

/-- The name of a piece, by a form for its number. -/
def pieceName (front : String) (form : Option String) (digits n : Nat) : Option String :=
  match form with
  | none => some (front ++ Cell.right ⟨toString n, digits, none⟩ '0')
  | some form =>
    let cs := form.toList
    let before := cs.takeWhile (· != '%')
    let rest := (cs.drop before.length).drop 1
    let flags := rest.takeWhile fun c => "-+ #0'".toList.contains c
    let width := (rest.drop flags.length).takeWhile Char.isDigit
    match rest.drop (flags.length + width.length) with
    | kind :: after =>
      if "diuoxX".toList.contains kind then
        let base := if kind = 'o' then 8 else if kind = 'x' || kind = 'X' then 16 else 10
        let text := String.ofList (Nat.toDigits base n)
        let cell : Cell := ⟨text, width.foldl (fun n c => n * 10 + (c.toNat - 48)) 0, none⟩
        some (front ++ String.ofList before ++ (if flags.contains '-' then cell.left ' '
          else cell.right (if flags.contains '0' then '0' else ' ')) ++ String.ofList after)
      else none
    | [] => none

/-- Writes a file in pieces that begin at certain lines. -/
def csplit : Act Nat := do
  let g ← given
    { letters := "ksqz", valued := "bfn"
      words := [("keep-files", "k"), ("silent", "s"), ("quiet", "s"), ("elide-empty-files", "z"),
        ("suppress-matched", "suppress")]
      valuedWords := [("suffix-format", "b"), ("prefix", "f"), ("digits", "n")] }
  let digits ←
    match g.value? "n" with
    | none => pure 2
    | some text =>
      match decimal? text with
      | some n => pure n
      | none => stop 1 ("invalid number: " ++ cited text)
  match g.operands with
  | [] => misuse 1 "missing operand"
  | [a] => misuse 1 ("missing operand after " ++ cited a)
  | input :: words =>
    let front := (g.value? "f").getD "xx"
    if (pieceName front (g.value? "b") digits 0).isNone then
      let kind := (((g.value? "b").getD "").toList.dropWhile (· != '%')).drop 1
      let kind := kind.dropWhile fun c => "-+ #0'123456789".toList.contains c
      stop 1 (if ((g.value? "b").getD "").toList.contains '%' then
          "invalid conversion specifier in suffix: " ++ String.ofList (kind.take 1)
        else "missing % conversion specification in suffix")
    let cuts ←
      match cutsOf words 0 [] with
      | .ok cuts => pure cuts
      | .error why => stop 1 why
    match ← contents input with
    | .error e =>
      if e = .isDirectory then stop 1 ("read error: " ++ e.plainMessage)
      else stop 1 ("cannot open " ++ quoted input ++ " for reading: " ++ e.plainMessage)
    | .ok bytes =>
      let lines : List (List Char) := (charsOf bytes).splitBy fun a _ => a != '\n'
      let numbers := cuts.filterMap fun c => match c.border with
        | .line n => some n
        | _ => none
      for (m, n) in numbers.zip (numbers.drop 1) do
        if m = n then say ("warning: line number " ++ cited (toString n) ++ " is the same as preceding line number")
      let start : Rest := { lines, number := 1, current := 0 }
      let suppress := g.has "suppress"
      let result := cuts.foldlM (fun r cut => Rest.divideAll suppress cut (lines.length + 2 + cut.again.getD 0) 0 r) start
      let (failed, pieces) : Option Obstacle × List (List Char) :=
        match result with
        | .ok r => (none, (r.take r.lines.length false).pieces.reverse)
        | .error (why, r) => (why, r.pieces.reverse)
      let pieces := if g.has "z" then pieces.filter (· ≠ []) else pieces
      let names := (List.range pieces.length).map fun i => (pieceName front (g.value? "b") digits i).getD front
      let tell (early : Bool) : Act Unit := do
        match failed with
        | some o => if o.early == early then say o.why
        | none => pure ()
      tell true
      (pieces.zip names).forM fun (piece, name) => do
        let fd ← freeFrom firstFile
        match ← openAt fd (pathOf name) .writing 0o666 with
        | .error e => stop 1 (unreadable name e)
        | .ok () =>
          let _ ← Act.write fd (packedChars piece)
          close fd
          unless g.hasAny "sq" do out (toString piece.length ++ "\n")
      match failed with
      | none => return 0
      | some _ =>
        tell false
        unless g.has "k" do
          names.forM fun name => do
            let _ ← Act.edit fun t now => t.removeFile now (pathOf name)
        return 1

end CrossBench.Tool
