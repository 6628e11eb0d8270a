import CrossBench.Shell.Braces
import CrossBench.Shell.Complaint
import CrossBench.Shell.Fields
import CrossBench.Shell.Parser
import CrossBench.Shell.Parameters
import CrossBench.Shell.Quoting
import CrossBench.Text.Calendar

/-!
# Expanding words

The acts that make letters of words and arguments of letters. A parameter has one value or, if all
arguments or all elements of an array are asked for, a row of values; what is done with a value is
done with each of a row.

In the text of a prompt some letters behind a backslash stand for what the session knows: its directory,
the time, the name of the host. `Prompt.decoded` puts it in their places; what is to be expanded in the
text is left to whoever shows it.
-/

namespace CrossBench.Shell

/-! ## Prompts -/

namespace Prompt

/-- The name of a file without the directories in front of it. -/
def baseName (path : String) : String :=
  String.ofList ((path.toList.reverse.takeWhile (· != '/')).reverse)

/-- A path with a tilde in place of the home directory. -/
def withTilde (home path : String) : String :=
  let rest := String.ofList (path.toList.drop home.length)
  if 1 < home.length && path.startsWith home && (rest = "" || rest.startsWith "/") then "~" ++ rest
  else path

/-- A text behind which nothing in it is expanded in double quotes. -/
def shielded (s : String) : List Char :=
  s.toList.flatMap fun c => if "\\$\x60\"".toList.contains c then ['\\', c] else [c]

/-- What a letter behind a backslash stands for. -/
def letter? (s : Session) (now : Instant) (c : Char) : Option (List Char) :=
  let value (name : String) : String := ((s.find? name).bind fun p => p.content.text?).getD ""
  let clock (form : String) : Option (List Char) := some (Calendar.text s.zone now form).toList
  let here := withTilde (value "HOME") s.directory
  match c with
  | 'a' => some [Char.ofNat 7]
  | 'e' => some [Char.ofNat 27]
  | 'n' => some ['\n']
  | 'r' => some ['\r']
  | '\\' => some ['\\', '\\']
  | 'd' => clock "%a %b %d"
  | 't' => clock "%H:%M:%S"
  | 'T' => clock "%I:%M:%S"
  | '@' => clock "%I:%M %p"
  | 'A' => clock "%H:%M"
  | 'u' => some "root".toList
  | 'h' => some ((value "HOSTNAME").toList.takeWhile (· != '.'))
  | 'H' => some (value "HOSTNAME").toList
  | 's' => some "bash".toList
  | 'v' => some "5.2".toList
  | 'V' => some "5.2.15".toList
  | 'w' => some (shielded here)
  | 'W' => some (shielded (if here = "~" || here = "/" then here else baseName here))
  | '$' => some ['#']
  | '!' => some ['1']
  | '#' => some (toString s.reached).toList
  | 'j' => some (toString s.jobs.jobs.length).toList
  | '[' => some []
  | ']' => some []
  | _ => none

/-- The text of a prompt with what stands for its letters. -/
def decodedUpTo (s : Session) (now : Instant) : Nat → List Char → List Char
  | 0, _ => []
  | _, [] => []
  | n + 1, '\\' :: c :: rest =>
    let digits := ((c :: rest).take 3).takeWhile fun d => '0' ≤ d && d ≤ '7'
    if digits.length = 3 then
      Char.ofNat (digits.foldl (fun n d => n * 8 + (d.toNat - 48)) 0 % 256)
        :: decodedUpTo s now n (rest.drop 2)
    else if c = 'D' && rest.head? = some '\x7b' then
      let form := String.ofList ((rest.drop 1).takeWhile (· != '\x7d'))
      (Calendar.text s.zone now (if form = "" then "%X" else form)).toList
        ++ decodedUpTo s now n (rest.drop (form.length + 2))
    else
      match letter? s now c with
      | some found => found ++ decodedUpTo s now n rest
      | none => '\\' :: c :: decodedUpTo s now n rest
  | n + 1, c :: rest => c :: decodedUpTo s now n rest

/-- The text of a prompt with what stands for its letters. -/
def decoded (s : Session) (now : Instant) (text : String) : String :=
  String.ofList (decodedUpTo s now (text.length + 1) text.toList)

end Prompt

namespace Act

/-! ## Processes for words -/

/-- Starts a process with a session that differs from this one. -/
def forkWith (change : Session → Session) (job : Job) : Act Pid := fun s =>
  .fork ⟨job, change s⟩ fun pid => .done (.ok pid, s)

/-- Forgets a statement that the script holds the other ends of, when it has ended. -/
def noteCoprocess : Act Unit := do
  let s ← get
  if let some c := s.coprocess then
    if ← look fun _ k => (k.process c.pid).ended.isSome then
      close c.reading
      close c.writing
      modify fun s => { (s.forget c.name).forget (c.name ++ "_PID") with coprocess := none }

/-- How the processes have ended. -/
def endings : Act Endings := look fun _ k pid => (k.process pid).ended

/-- Says that processes have been killed. -/
def sayKilled (e : Endings) (b : Background) : Act Unit := do
  let s ← get
  let title := if s.file = "" then s.title else s.file
  let line := if s.inline || s.file = "" then "" else "line " ++ toString s.line ++ ": "
  let _ ← writeText 2 (title ++ ": " ++ line ++ b.extendedReport e s.directory true)

/-- Whether something is said about an end by a signal. -/
def isReported (s : Session) (w : WaitStatus) : Bool :=
  match w.signal? with
  | none => false
  | some n =>
    n ≠ Signal.interrupt && n ≠ Signal.pipe && n ≠ Signal.terminate
      && !(s.traps.any fun t => some t.1 = Signal.name? n)

/-- Notes what has ended in the background, and in the foreground if something was there. The extended
dialect says what has been killed, and drops what there is no more to say about. -/
def noteEnds (front : Option Background) : Act Unit := do
  noteCoprocess
  let s ← get
  unless s.jobs.jobs.isEmpty && front.isNone do
    let e ← endings
    match s.dialect with
    | .plain => modify fun s => { s with jobs := s.jobs.look e }
    | .extended =>
      let all := { s.jobs with jobs := front.toList ++ s.jobs.jobs }.sorted
      all.forM fun b => do
        match b.ending? e with
        | some w =>
          let ahead := front.any fun f => f.number = b.number
          unless b.told = some true do
            if s.captured = some s.subshells then
              if s.lastBackground ≠ some b.pid then
                modify fun s => { s with jobs := s.jobs.tell e b.number }
            else if s.inline || ahead || w.signal?.isSome then
              if isReported s w then sayKilled e b
              modify fun s => { s with jobs := s.jobs.tell e b.number }
        | none => pure ()
      modify fun s => { s with jobs := s.jobs.tidy e }

/-- Makes a place for something new in the table of what has been started. -/
def makeRoom : Act Unit := do
  let s ← get
  unless s.jobs.jobs.isEmpty do
    let e ← endings
    modify fun s =>
      { s with jobs := if s.dialect = .plain then s.jobs.makeRoom else s.jobs.tidy e }

/-- Waits for processes in the foreground, and says so if a signal has killed one and that is what
the dialect does. -/
def waitAll (stages : List (Pid × String)) : Act (List Nat) := do
  let statuses ← stages.mapM fun stage => do
    let status ← waitFor stage.1
    match (← get).dialect, status.signal? with
    | .plain, some n =>
      unless n = Signal.interrupt || n = Signal.pipe do complain (Signal.text n)
    | _, _ => pure ()
    return statusNumber status
  let s ← get
  let line := s.line
  modify fun s => { s with line := s.outer }
  noteEnds (some ⟨s.jobs.freeNumber, stages, s.directory, false, none⟩)
  modify fun s => { s with line }
  return statuses

/-- Waits for a process in the foreground. -/
def waitForeground (child : Pid) (words : String) : Act Nat := do
  return (← waitAll [(child, words)]).headD 0

/-- What a statement writes, without the line breaks at its end. -/
def substitute (body : Statement) : Act String := do
  makeRoom
  let (reading, writing) ← pipe
  let child ← forkWith
    (fun s =>
      let s : Session :=
        { s with
          tested := false
          last := true
          layers := s.layers + 1
          captured := some (s.subshells + 1) }
      if s.dialect = .extended && !(s.isOn "posix") && !(s.isOn "inherit_errexit") then
        s.switch "errexit" false
      else s)
    (.process false [(writing, 1)] [reading, writing] body)
  close writing
  let bytes ← readAll reading
  close reading
  let status ←
    if (← get).dialect = .plain then waitForeground child ""
    else do
      let status ← waitFor child
      noteEnds none
      pure (statusNumber status)
  modify fun s =>
    { s with
      substituted := some status
      status := if s.dialect = .extended then status else s.status }
  let read := charsOf (bytes.toOption.getD .empty)
  let text := read.filter (· != Char.ofNat 0)
  if text.length < read.length && (← get).dialect = .extended then
    fault "warning: command substitution: ignored null byte in input"
  return String.ofList (text.reverse.dropWhile (· == '\n')).reverse

/-- The first descriptor below a number that is not open. -/
def freeBelow (first : Nat) : Act Nat := look fun pid k =>
  let taken := (k.process pid).descriptors.map (·.1)
  (((List.range (first + 1)).reverse).find? fun n => !taken.contains n).getD 3

/-- The name of a file that a statement writes, or reads. -/
def channel (outgoing : Bool) (body : Statement) : Act String := do
  let (reading, writing) ← pipe
  let (mine, its, target) := if outgoing then (writing, reading, 0) else (reading, writing, 1)
  let _ ← forkWith
    (fun s => { s with tested := false, last := true, captured := some (s.subshells + 1) })
    (.process false [(its, target)] [reading, writing] body)
  close its
  let fd ← freeBelow 63
  let _ ← duplicate mine fd
  close mine
  modify fun s => { s with channels := fd :: s.channels }
  return "/dev/fd/" ++ toString fd

/-- Closes what the words of a command have names of files for. -/
def closeChannels (kept : List Nat) : Act Unit := do
  let open_ := (← get).channels.filter fun fd => !kept.contains fd
  open_.forM close
  modify fun s => { s with channels := kept }

/-! ## Texts -/

/-- The text of a word that does not fall apart. -/
def text (w : Word) (manner : Manner) : Act String := do
  match w.parts with
  | [] => return ""
  | [.text s true] => return s
  | _ => return lettersText (← letters w manner)

/-- The pattern that a word is. -/
def pattern (w : Word) : Act Pattern := do
  let marks := marksOf (← letters w .whole)
  let s ← get
  return Pattern.ofMarks s.dialect (s.isOn "extglob") (Letters.decodeWith s.readsWide marks)

/-- The characters of a value. -/
def decoded (value : String) : Act (List Char) := do
  return Letters.decode (← get).readsWide value.toList

/-- The value that has these characters. -/
def encoded (cs : List Char) : String := String.ofList (Letters.narrow cs)

end Act

/-- What a tilde and the letters behind it stand for. -/
def tildeTarget? (s : Session) (user : String) : Option String :=
  let value (name : String) : Option String := (s.get? name).bind fun p => p.content.text?
  match user with
  | "" =>
    match value "HOME" with
    | some home => some home
    | none => if s.dialect = .extended then some "/root" else none
  | "+" => if s.dialect = .extended then value "PWD" else none
  | "-" => if s.dialect = .extended then value "OLDPWD" else none
  | "root" => some "/root"
  | "daemon" => some "/usr/sbin"
  | "bin" => some "/bin"
  | "nobody" => some "/nonexistent"
  | user =>
    let all := s.directory :: s.directories
    let counted (fromBehind : Bool) (digits : List Char) : Option String :=
      (decimal? (String.ofList digits)).bind fun n =>
        if n < all.length then all[if fromBehind then all.length - 1 - n else n]? else none
    if s.dialect = .plain then none
    else
      match user.toList with
      | '+' :: digits => counted false digits
      | '-' :: digits => counted true digits
      | digits => counted false digits

/-- The letters of a text in a script that is neither quoted nor expanded. `isLast` says that nothing
follows in its word; behind a tilde there must be a slash or an end. -/
def plainLetters (s : Session) (tilde assigns isLast : Bool) : List Char → List Letter :=
  let endsUser (c : Char) : Bool := c == '/' || (assigns && c == ':')
  let rec go (front : Bool) : Nat → List Char → List Letter
    | 0, _ => []
    | _, [] => []
    | fuel + 1, c :: rest =>
      if front && c == '~' then
        let user := rest.takeWhile fun c => !endsUser c
        let after := rest.drop user.length
        match (if after.isEmpty && !isLast then none else tildeTarget? s (String.ofList user)) with
        | some target => quotedLetters target ++ go false fuel after
        | none => .plain '~' :: go false fuel rest
      else .plain c :: go (assigns && c == ':') fuel rest
  fun cs => go tilde (cs.length + 1) cs

/-- The same for the front of a word that has the form of a value that is set. -/
def assigningLetters (s : Session) (isLast : Bool) (cs : List Char) : List Letter :=
  let name := cs.takeWhile (· != '=')
  name.map .plain ++
    match cs.drop name.length with
    | sign :: value => .plain sign :: plainLetters s true true isLast value
    | [] => []

namespace Act

/-! ## Parameters in words -/

/-- What a parameter in a word is worth. -/
structure Found where
  values : List String
  /-- Whether it is a row of values, and then whether each is a word of its own. -/
  row : Option Bool
  isSet : Bool

/-- One value, if there is one. -/
def Found.one (v : Option String) : Found := ⟨v.toList, none, v.isSome⟩

/-- The element that a subscript means. -/
def element (name : String) (subscript : Word) : Act (Int ⊕ String) := do
  let t ← text subscript .document
  if ((← get).contentOf name).isKeyed then return .inr t
  else return .inl (← evaluate t)

/-- What a parameter, or an element of it, is worth. -/
def found (name : String) (subscript : Option Word) : Act Found := do
  let s ← get
  let (name, subscript) :=
    match subscript, s.elementMeant? name with
    | none, some (array, inside) => (array, some (Word.ofText inside))
    | _, _ => (name, subscript)
  match subscript with
  | none =>
    if name = "@" ∨ name = "*" then return ⟨s.arguments, some (name = "@"), !s.arguments.isEmpty⟩
    else
      let v := s.value? (← now) name
      if name = "RANDOM" || name = "SRANDOM" then modify fun s : Session => s.drawn name
      return .one v
  | some w =>
    match Word.plainText? w with
    | some "@" =>
      let values := (s.contentOf name).values
      return ⟨values, some true, !values.isEmpty⟩
    | some "*" =>
      let values := (s.contentOf name).values
      return ⟨values, some false, !values.isEmpty⟩
    | _ =>
      match ← element name w with
      | .inr key => return .one (((← get).contentOf name).named? key)
      | .inl n =>
        let content := (← get).contentOf name
        if n < 0 && (content.place? n).isNone && content.isArray then
          fault (name ++ ": bad array subscript")
        if n = 0 && !content.isArray then return .one (s.value? (← now) name)
        return .one (content.at? n)

/-- The letters of values. -/
def emit (f : Found) (quoted splits : Bool) : Act (List Letter) := do
  let s ← get
  match f.row with
  | none =>
    let v := String.join f.values
    return if quoted then quotedLetters v else valueLetters v
  | some each =>
    if quoted && each && splits then
      if f.values.isEmpty then return [.void]
      else return [Letter.gap].intercalate (f.values.map quotedLetters)
    else if quoted || !splits then
      let between := if each && s.dialect = .extended then " " else s.joint
      let v := between.intercalate f.values
      return if quoted then quotedLetters v else valueLetters v
    else return [Letter.gap].intercalate (f.values.map valueLetters)

/-- The name of a parameter with its subscript, as a complaint shows it. -/
def shownName (name : String) (subscript : Option Word) : String :=
  match subscript with
  | none => name
  | some w => name ++ "[" ++ (Word.plainText? w).getD "" ++ "]"

/-- A part of a text by its place and length. -/
def slice (value : String) (offset : Int) (length : Option Int) : Act String := do
  let cs ← decoded value
  let size : Int := cs.length
  let start := if offset < 0 then size + offset else offset
  if start < 0 ∨ size < start then return ""
  else
    match length with
    | none => return encoded (cs.drop start.toNat)
    | some n =>
      let stop := if n < 0 then size + n else start + n
      if stop < start then
        discard (toString n ++ ": substring expression < 0")
      else return encoded ((cs.drop start.toNat).take (stop - start).toNat)

/-- A part of a row of values by its place and length. -/
def sliceRow (name : String) (subscript : Option Word) (offset : Int) (length : Option Int) :
    Act (List String) := do
  let s ← get
  let content := s.contentOf name
  let entries : List (Int × String) :=
    match subscript, content with
    | none, _ => (s.title :: s.arguments).zipIdx.map fun (v, i) => ((i : Int), v)
    | some _, .indexed elements => elements.map fun e => ((e.1 : Int), e.2)
    | some _, c => c.values.zipIdx.map fun (v, i) => ((i : Int), v)
  let size : Int := (entries.getLast?.map fun e => e.1 + 1).getD 0
  let start := if offset < 0 then size + offset else offset
  if start < 0 then return []
  let behind := (entries.filter fun e => start ≤ e.1).map (·.2)
  match length with
  | none => return behind
  | some n =>
    if n < 0 then discard (toString n ++ ": substring expression < 0")
    else return behind.take n.toNat

/-- What takes the place of a text: the letters, with the text for each mark in them that is neither quoted
nor behind a backslash. -/
def replacement (wide marked : Bool) (taken : List Char) (by_ : List Letter) : List Char :=
  let rec go : List Letter → List (Char ⊕ Unit)
    | .value '\\' :: .value c :: rest =>
      if marked && (c = '&' || c = '\\') then .inl c :: go rest else .inl '\\' :: .inl c :: go rest
    | .plain c :: rest => (if marked && c = '&' then .inr () else .inl c) :: go rest
    | .value c :: rest => (if marked && c = '&' then .inr () else .inl c) :: go rest
    | .quoted c :: rest => .inl c :: go rest
    | _ :: rest => go rest
    | [] => []
  let found := go by_
  let rec put (run : List Char) : List (Char ⊕ Unit) → List Char
    | [] => Letters.decode wide run.reverse
    | .inl c :: rest => put (c :: run) rest
    | .inr () :: rest => Letters.decode wide run.reverse ++ taken ++ put [] rest
  put [] found

/-- A value with other text in place of what a pattern matches. -/
def replaced (scope : Scope) (p : Pattern) (by_ : List Letter) (value : String) : Act String := do
  let cs ← decoded value
  let s ← get
  let marked := s.isOn "patsub_replacement"
  let put (taken : List Char) : List Char := replacement s.readsWide marked taken by_
  let changed :=
    match scope with
    | .first => if p.isEmpty then cs else p.replace false false put (cs.length + 1) cs
    | .every => if p.isEmpty then cs else p.replace false true put (cs.length + 1) cs
    | .front =>
      match p.longestFront? false cs with
      | some after => put (cs.take (cs.length - after.length)) ++ after
      | none => cs
    | .back =>
      match p.backFrom true cs with
      | some n => cs.take n ++ put (cs.drop n)
      | none => cs
  return encoded changed

/-- A value with some of its letters in capitals, or small. -/
def recased (upper all : Bool) (p : Pattern) (value : String) : Act String := do
  let change (c : Char) : Char :=
    if p.isEmpty || p.accepts false [c] then (if upper then Letters.toUpper c else Letters.toLower c)
    else c
  match ← decoded value with
  | [] => return ""
  | c :: rest => return encoded (change c :: if all then rest.map change else rest)

/-- The letters for what has been declared of a parameter. -/
def attributes (p : Parameter) : String :=
  let marks : List (Bool × String) :=
    [(match p.content with
        | .indexed _ => true
        | _ => false, "a"),
      (p.content.isKeyed, "A"), (p.integer, "i"), (p.reference, "n"), (p.readonly, "r"), (p.exported, "x"),
      (p.casing == some .capitalized, "c"), (p.casing == some .small, "l"),
      (p.casing == some .capitals, "u")]
  String.join ((marks.filter (·.1)).map (·.2))

/-- The name of an element as a command that declares it has it. -/
def declaredKey (wide : Bool) (k : String) : String :=
  if Quoting.needsEscapes wide k then Quoting.withEscapes wide k
  else if Quoting.needsQuotes k || k = "@" || k = "*" then Quoting.double k
  else k

/-- A value as a command that declares it has it. -/
def declaredValue (wide : Bool) (p : Parameter) : String :=
  let declared := Quoting.declared wide
  match p.content with
  | .nothing => ""
  | .text v => "=" ++ declared v
  | .indexed [] => if p.pending then "" else "=()"
  | .keyed [] => if p.pending then "" else "=()"
  | .indexed elements =>
    "=(" ++ " ".intercalate (elements.map fun (n, v) => "[" ++ toString n ++ "]=" ++ declared v) ++ ")"
  | .keyed elements =>
    "=(" ++ String.join ((Content.keyed elements).entries.map fun (k, v) =>
      "[" ++ declaredKey wide k ++ "]=" ++ declared v ++ " ") ++ ")"

/-- A text with what is to be expanded in it, as in double quotes. -/
def expandedText (written : String) : Act String := do
  if written.any fun c => c == '$' || c == '\x60' || c == '\\' then
    let s ← get
    let src := Source.ofText s.dialect s.line written.toList
    match (Lexer.parts (Grammar.substitution src.depth) src.depth .document 0 .empty).run src with
    | .ok (b, _) => text (b.word written) .document
    | .error _ => return written
  else return written

/-- The command that declares a parameter, up to its name. -/
def declaredAs (s : Session) (name : String) : String :=
  let letters := ((s.get? name).map attributes).getD ""
  (if letters = "" then "" else "declare -" ++ letters ++ " ") ++ name

/-- A value in the form that a letter stands for. -/
def transformed (name : String) (form : Char) (value : String) : Act String := do
  let s ← get
  let wide := (← get).isWide
  match form with
  | 'Q' => return Quoting.reusable wide value
  | 'U' => recased true true [] value
  | 'L' => recased false true [] value
  | 'u' => recased true false [] value
  | 'K' => return Quoting.reusable wide value
  | 'k' => return Quoting.reusable wide value
  | 'a' => return ((s.get? name).map attributes).getD ""
  | 'A' => return if isName name then declaredAs s name ++ "=" ++ Quoting.reusable wide value else ""
  | 'E' =>
    let rec undone : Nat → List Char → List Char
      | 0, _ => []
      | _, [] => []
      | n + 1, '\\' :: rest =>
        let (found, length) := Lexer.ansiEscape wide rest
        found ++ undone n (rest.drop length)
      | n + 1, c :: rest => c :: undone n rest
    return String.ofList (undone (value.length + 1) value.toList)
  | 'P' =>
    let decoded := Prompt.decoded s (← now) value
    if ← isOn "promptvars" then expandedText decoded
    else return decoded
  | _ => return value

/-- A row of values in the form that a letter stands for. -/
def transformedRow (name : String) (subscript : Option Word) (form : Char) (f : Found) : Act Found := do
  let s ← get
  let wide := s.isWide
  let content := s.contentOf name
  match subscript, form with
  | none, 'A' =>
    return { f with
      values := if f.values.isEmpty then [] else ["set -- " ++ " ".intercalate (f.values.map (Quoting.reusable wide))]
      row := some false }
  | some _, 'A' =>
    if content.isArray then
      match s.get? name with
      | some p => return ⟨[declaredAs s name ++ declaredValue wide p], some false, true⟩
      | none => return f
    else return { f with values := f.values.map fun v => declaredAs s name ++ "=" ++ Quoting.reusable wide v }
  | some _, 'K' =>
    if content.isArray then
      let shown := content.entries.map fun (k, v) => declaredKey wide k ++ " " ++ Quoting.declared wide v
      let last := if content.isKeyed && !shown.isEmpty then " " else ""
      return ⟨[" ".intercalate shown ++ last], some false, f.isSet⟩
    else return { f with values := f.values.map (Quoting.reusable wide) }
  | some _, 'k' =>
    if content.isArray then return { f with values := content.entries.flatMap fun (k, v) => [k, v] }
    else return { f with values := f.values.map (Quoting.reusable wide) }
  | _, form => return { f with values := ← f.values.mapM (transformed name form) }

/-- Whether a text can stand for a parameter that is meant by another one. -/
def targetOf (target : String) : Option (String × Option Word) :=
  let cs := target.toList
  let name := cs.takeWhile (· != '[')
  let rest := cs.drop name.length
  let n := String.ofList name
  let ok := isName n || (decimal? n).isSome || n = "@" || n = "*" || n = "#" || n = "?"
  if !ok then none
  else
    match rest with
    | [] => some (n, none)
    | '[' :: inside =>
      if inside.getLast? = some ']' then
        some (n, some (.ofText (String.ofList inside.dropLast)))
      else none
    | _ => none

/-- The letters of a parameter in a word. -/
def parameterLetters (name : String) (subscript : Option Word) (indirect : Bool)
    (treatment : Treatment) (arguments : List Word) (quoted splits : Bool) : Act (List Letter) := do
  let s ← get
  let argument := arguments.headD default
  let isRow := subscript.any fun w => (Word.plainText? w).any fun t => t = "@" || t = "*"
  let each := subscript.any fun w => (Word.plainText? w) == some "@"
  if treatment matches .names then
    let names := (s.parameters.map (·.name)).filter (·.startsWith name)
    return ← emit ⟨names.mergeSort (· ≤ ·), some each, true⟩ quoted splits
  if indirect && isRow then
    return ← emit ⟨(s.contentOf name).keys, some each, true⟩ quoted splits
  let (name, subscript) ←
    if indirect then
      let target := ((s.find? name).filter fun p => p.reference && subscript.isNone).bind fun p =>
        p.content.text?
      if let some t := target then return ← emit (.one (some t)) quoted splits
      match (← found name subscript).values with
      | [] =>
        if ((s.find? name).any fun p => p.reference) then pure (name, subscript)
        else discard (name ++ ": invalid indirect expansion")
      | v :: _ =>
        match targetOf v with
        | some t => pure t
        | none => discard (v ++ ": invalid variable name")
    else pure (name, subscript)
  match treatment with
  | .bad written =>
    match s.dialect with
    | .plain => fail "Bad substitution"
    | .extended => discard (written ++ ": bad substitution")
  | _ => pure ()
  let f ← found name subscript
  let nothing (empty : Bool) : Bool := !f.isSet || (empty && f.values.all (· = ""))
  let wanted : Act Unit := do
    if !f.isSet && f.row.isNone && (← get).isOn "nounset" then unset (shownName name subscript)
  let alternative : Act (List Letter) := do
    let ls ← letters argument ⟨splits, true, false, false⟩
    if quoted then return if ls.isEmpty then [.mark] else ls
    else
      return ls.map fun
        | .plain c => .value c
        | l => l
  let each (change : String → Act String) : Act (List Letter) := do
    wanted
    let values ← f.values.mapM change
    emit { f with values } quoted splits
  match treatment with
  | .plain =>
    wanted
    emit f quoted splits
  | .length =>
    let n ←
      match f.row with
      | some _ => pure f.values.length
      | none => do
        wanted
        pure (← decoded (String.join f.values)).length
    let v := toString n
    return if quoted then quotedLetters v else valueLetters v
  | .otherwise empty => if nothing empty then alternative else emit f quoted splits
  | .assign empty =>
    if nothing empty then
      let v ← text argument .whole
      if !isName name then
        match s.dialect with
        | .plain => fail (name ++ ": bad variable name")
        | .extended => discard ("$" ++ name ++ ": cannot assign in this way")
      match subscript with
      | none => assign name v
      | some w =>
        let e ← element name w
        let _ ← assign? name (some e) v
      return if quoted then quotedLetters v else valueLetters v
    else emit f quoted splits
  | .require empty =>
    if nothing empty then
      let why ← text argument .whole
      let why :=
        if why ≠ "" then why
        else
          match s.dialect, empty with
          | .plain, true => "parameter not set or null"
          | .extended, true => "parameter null or not set"
          | _, false => "parameter not set"
      giveUp (shownName name subscript ++ ": " ++ why)
    else emit f quoted splits
  | .instead empty => if nothing empty then return if quoted then [.mark] else [] else alternative
  | .trimFront longest =>
    let p ← pattern argument
    each fun v => return encoded (p.trimFront longest (← decoded v))
  | .trimBack longest =>
    let p ← pattern argument
    each fun v => return encoded (p.trimBack longest (← decoded v))
  | .slice =>
    let offset ← evaluate (← text argument .document)
    let length ← (arguments[1]?).mapM fun w => do evaluate (← text w .document)
    match f.row with
    | none => each fun v => slice v offset length
    | some _ =>
      emit { f with values := ← sliceRow name subscript offset length } quoted splits
  | .replace scope =>
    let p ← pattern argument
    let by_ ← letters ((arguments[1]?).getD default) ⟨false, false, false, false⟩
    each (replaced scope p by_)
  | .recase upper all =>
    let p ← pattern argument
    each (recased upper all p)
  | .transform form =>
    wanted
    match f.row, f.isSet with
    | some _, _ => emit (← transformedRow name subscript form f) quoted splits
    | none, true => each (transformed name form)
    | none, false =>
      let s ← get
      match form, s.get? name with
      | 'a', some p => emit (.one (some (attributes p))) quoted splits
      | 'A', some p =>
        emit (.one (if attributes p = "" then none else some (declaredAs s name))) quoted splits
      | _, _ => emit f quoted splits
  | .names => return []
  | .bad _ => return []

/-- The letters of a part of a word. -/
def pieceLetters (manner : Manner) (front isLast : Bool) (p : Piece) : Act (List Letter) := do
  match p with
  | .text s quoted =>
    if quoted then return quotedLetters s
    else if manner.names && front then return assigningLetters (← get) isLast s.toList
    else return plainLetters (← get) (manner.tilde && front) (manner.assigns || manner.names) isLast s.toList
  | .parameter name subscript indirect treatment arguments quoted =>
    parameterLetters name subscript indirect treatment arguments quoted manner.splits
  | .command body quoted =>
    let v ← substitute body
    return if quoted then quotedLetters v else valueLetters v
  | .arithmetic expression quoted =>
    let v := toString (← evaluate (← text expression .document))
    return if quoted then quotedLetters v else valueLetters v
  | .channel outgoing body => return quotedLetters (← channel outgoing body)
  | .array _ => return []

/-- The letters of a word. -/
def expandWord (w : Word) (manner : Manner) : Act (List Letter) := do
  let count := w.parts.length
  let ls ← w.parts.zipIdx.mapM fun (p, i) => pieceLetters manner (i = 0) (i + 1 = count) p
  return ls.flatten

/-- The texts that a field stands for. -/
def fieldTexts (marks : List Mark) : Act (List String) := do
  let s ← get
  let groups := s.isOn "extglob"
  let literal := String.ofList (marks.map (·.1))
  if s.isOn "noglob" || !isPattern groups marks then return [literal]
  else
    let how : Finding :=
      { dialect := s.dialect
        groups
        hidden := s.isOn "dotglob"
        fold := s.isOn "nocaseglob"
        wide := s.readsWide
        dots := s.dialect = .plain || !s.isOn "globskipdots"
        deep := s.isOn "globstar" }
    let found := pathsOf how (← tree) marks
    let ignored :=
      if s.dialect = .plain then []
      else (((s.get? "GLOBIGNORE").bind fun p => p.content.text?).getD "").splitOn ":"
    let ignored := ignored.filter (· ≠ "")
    let found :=
      if ignored.isEmpty then found
      else
        found.filter fun path =>
          !(path = "." || path = ".." || isIgnored how ignored path)
    match found with
    | [] =>
      if s.isOn "nullglob" then return []
      else if s.isOn "failglob" then discard ("no match: " ++ literal)
      else return [literal]
    | found => return found

/-- Whether a word has the form of a value that is set. -/
def isAssigning (w : Word) : Bool :=
  match w.parts with
  | .text s false :: _ =>
    let name := s.toList.takeWhile continuesName
    isName (String.ofList name) && (s.toList.drop name.length).head? == some '='
  | _ => false

/-- The arguments that a word stands for. -/
def wordFields (w : Word) : Act (List String) := do
  match w.parts with
  | [.text t true] => return [t]
  | _ =>
    let s ← get
    let assigning := s.dialect = .extended && isAssigning w && !s.isOn "posix"
    let ls ← letters w (if assigning then .assigning else .argument)
    let found ← (fieldsOf s.separators ls).mapM fieldTexts
    return found.flatten

/-- The arguments that words stand for. -/
def expandFields (words : List Word) : Act (List String) := do
  let s ← get
  let words :=
    if s.dialect = .extended && s.isOn "braceexpand" then words.flatMap Braces.expand else words
  let found ← words.mapM wordFields
  return found.flatten

/-! ## Assignments -/

/-- The elements of an array, each with its name if it has been given one. -/
def arrayElements (elements : List Element) : Act (List (Option String × String)) := do
  let found ← elements.mapM fun e =>
    match e with
    | .mk (some subscript) _ value _ => do
      return [(some (← text subscript .document), ← text value .assigned)]
    | .mk none _ value _ => do return (← fields [value]).map fun v => (none, v)
  return found.flatten

/-- Elements with names, from names and values by turns. -/
def paired : List (Option String × String) → List (String × String)
  | (some key, v) :: rest => (key, v) :: paired rest
  | (none, key) :: (none, v) :: rest => (key, v) :: paired rest
  | (none, key) :: rest => (key, "") :: paired rest
  | [] => []

/-- Sets an array. -/
def assignArray (name : String) (append : Bool) (elements : List Element) : Act Unit := do
  let found ← arrayElements elements
  let s ← get
  let old := s.contentOf name
  let p := (s.get? name).getD (.fresh (s.meant name 10))
  if old.isKeyed then
    let start : List (String × String) :=
      match old, append with
      | .keyed elements, true => elements
      | _, _ => []
    let content := (paired found).foldl (fun elements e => Content.insertNamed e.1 e.2 elements) start
    modify fun s => s.put { p with content := .keyed content, pending := false }
  else
    let start := if append then old.elements else []
    let next := (start.getLast?.map fun e => e.1 + 1).getD 0
    let (_, content) ← found.foldlM (fun (at_, content) (key, v) => do
      let place ←
        match key with
        | none => pure at_
        | some key => do pure (← evaluate key).toNat
      let v ← if p.integer then do pure (toString (← evaluate v)) else pure v
      return (place + 1, Content.insertAt place (s.recased p.casing v) content))
      (next, start)
    modify fun s =>
      let p := (s.get? name).getD p
      s.put { p with content := .indexed content, pending := false }

/-- What a value becomes that is added to what is there. -/
def appended (name : String) (element : Option (Int ⊕ String)) (value : String) : Act String := do
  let s ← get
  let content := s.contentOf name
  let old : Option String :=
    match element with
    | none => content.text?
    | some (.inl n) => content.at? n
    | some (.inr key) => content.named? key
  if (s.get? name).any (·.integer) then
    return (old.getD "0") ++ "+(" ++ value ++ ")"
  else return old.getD "" ++ value

/-- Makes an assignment; whether that is possible. -/
def makeAssignment (a : Assignment) : Act Bool := do
  match a with
  | .mk name subscript append value _ =>
    match value.parts with
    | [.array elements] =>
      if (← get).isProtected name then
        isReadonly name
        return false
      else
        assignArray name append elements
        return true
    | _ =>
      let e ← subscript.mapM (element name)
      let v ← text value .assigned
      let v ← if append then appended name e v else pure v
      assign? name e v

end Act

end CrossBench.Shell
