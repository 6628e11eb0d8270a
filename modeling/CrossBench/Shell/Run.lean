import CrossBench.Shell.Simple

/-!
# Running statements

`Act.statement` runs a statement. Statements within it are jobs, so nothing here is recursive. Whether
a statement is `tested`, so that its failure ends nothing, and whether it is the `last` one of its
process, is handed down to the statements in it.
-/

namespace CrossBench.Shell.Act

/-- Runs a statement under other circumstances. -/
def runAs (tested last : Bool) (s : Statement) : Act Unit := do
  let before ← get
  modify fun s : Session => { s with tested, last }
  let result ← outcome (run s)
  modify fun after : Session => { after with tested := before.tested, last := before.last }
  match result with
  | .ok () => return
  | .error e => throw e

/-- Runs a statement that others follow. -/
def runBefore (s : Statement) : Act Unit := do runAs (← get).tested false s

/-- Runs a statement at the end of another one, which in the plain dialect is then also the last. -/
def runInside (s : Statement) : Act Unit := do
  let now ← get
  runAs now.tested (now.last && now.dialect = .plain) s

/-- Runs a statement whose failure ends nothing; whether it has succeeded. -/
def succeeds (s : Statement) : Act Bool := do
  runAs true false s
  return (← get).status = 0

/-- Whether something is to be done if a command fails. -/
def mindsErrors : Act Bool := do return (← trap? "ERR").isSome

/-- Does what a script has asked for if a command fails; `minded` says that it had asked for something
before the command. -/
def enforce (minded : Bool) : Act Unit := do
  let s ← get
  unless s.status = 0 || s.tested do
    if s.dialect = .extended && minded then runTrapOf "ERR" "error trap: "
    if s.isOn "errexit" then throw (.exit s.status)

/-! ## Processes -/

/-- What a process does that a shell has started for a statement. -/
def process (announced : Bool) (wires : List (Nat × Nat)) (closed : List Nat) (body : Statement) :
    Act Nat := do
  wires.forM fun (source, target) => do
    let _ ← duplicate source target
  closed.forM close
  let me ← pid
  if let some c := (← get).coprocess then
    close c.reading
    close c.writing
  modify fun s : Session =>
    let listed :=
      s.dialect = .extended && (s.captured = some (s.subshells + 1) ||
        (announced && (match body with
          | .simple _ _ (w :: _) _ => !(s.functions.any fun f => some f.name = w.plainText?)
          | _ => false)))
    { s with
      subshells := s.subshells + 1
      process := me
      coprocess := none
      jobs := if listed then s.jobs else .empty
      loops := if s.dialect = .plain then s.loops else 0
      last := true
      trapping := [] }
  clearTraps
  conclude (← outcome (
    match announced, body with
    | true, .simple line assignments words redirections => do
      if !(← isOn "noexec") then
        simple line assignments words redirections
        enforce true
        interrupts
    | _, body => run body))

/-- Starts a statement as a process of its own. What is to be done before a simple command is done
here. -/
def startStage (wires : List (Nat × Nat)) (closed : List Nat) (body : Statement) : Act Pid := do
  match body with
  | .simple line .. => announce line body
  | _ => pure ()
  forkWith id (.process true wires closed body)

/-- The text by which a statement is known that has been started. The plain dialect shows none. -/
def stageText (d : Dialect) (s : Statement) : String :=
  match d with
  | .plain => ""
  | .extended => s.written

/-- Starts stages each of which writes to a pipe that the next one reads. The first one reads from a
descriptor if one is given. Answers their processes and the descriptor that the last pipe is read
from. -/
def startLinked (input : Option Nat) :
    List Statement → Act (List (Pid × String) × Option Nat)
  | [] => return ([], input)
  | s :: rest => do
    let (reading, writing) ← pipe
    let child ← startStage ((input.toList.map fun fd => (fd, 0)) ++ [(writing, 1)])
      (input.toList ++ [reading, writing]) s
    input.forM close
    close writing
    let (children, output) ← startLinked (some reading) rest
    return ((child, stageText (← get).dialect s) :: children, output)

/-- Starts the stages of a pipeline; their processes. -/
def startStages (input : Option Nat) (stages : List Statement) : Act (List (Pid × String)) := do
  let (children, input) ← startLinked input stages.dropLast
  match stages.getLast? with
  | none => return children
  | some s =>
    let child ← startStage (input.toList.map fun fd => (fd, 0)) input.toList s
    input.forM close
    return children ++ [(child, stageText (← get).dialect s)]

/-- The statuses of the stages of a pipeline. -/
def setStages (statuses : List Nat) : Act Unit := do
  let s ← get
  let failed := (statuses.filter (· ≠ 0)).getLast?
  setStatus (if s.isOn "pipefail" then failed.getD 0 else statuses.getLastD 0)
  if s.dialect = .extended then
    modify fun s =>
      s.put { Parameter.fresh "PIPESTATUS" with
        content := .indexed (statuses.zipIdx.map fun (n, i) => (i, toString n)) }

/-- Runs a pipeline. -/
def pipeline (stages : List Statement) : Act Unit := do
  makeRoom
  let s ← get
  match stages.getLast?, s.dialect = .extended && s.isOn "lastpipe" with
  | some final, true =>
    let (children, output) ← startLinked none stages.dropLast
    let kept ← keep 0
    output.forM fun fd => do
      let _ ← duplicate fd 0
      close fd
    let result ← outcome (runAs s.tested false final)
    restore [kept]
    let status := (← get).status
    let statuses ← waitAll children
    match result with
    | .ok () => setStages (statuses ++ [status])
    | .error e => throw e
  | _, _ =>
    let children ← startStages none stages
    setStages (← waitAll children)

/-- Starts a statement in the background. -/
def startBackground (body : Statement) : Act Unit := do
  makeRoom
  let input ← freeFrom Kernel.keptFrom
  let opened ← openAt input (pathOf "/dev/null") .reading 0
  let before ← get
  modify fun s : Session => { s with tested := false }
  let children ←
    match body with
    | .pipeline false stages => startStages (if opened.isOk then some input else none) stages
    | body => do
      let wires := if opened.isOk then [(input, 0)] else []
      let child ← startStage wires [input] body
      close input
      pure [(child, stageText before.dialect body)]
  modify fun s : Session => { s with tested := before.tested }
  children.forM fun child => alter fun _ k =>
    k.alterProcess child.1 fun p =>
      { p with
        dispositions := [(Signal.interrupt, Disposition.ignored), (3, Disposition.ignored)]
          ++ p.dispositions.filter fun d => d.1 ≠ Signal.interrupt && d.1 ≠ 3 }
  let e ← endings
  modify fun s : Session =>
    { s with
      jobs := s.jobs.start e children s.directory
      lastBackground := children.getLast?.map (·.1) }
  setStatus 0

/-- Starts a statement in the background whose input and output the script holds the other ends of. -/
def startCoprocess (name : String) (body : Statement) : Act Unit := do
  makeRoom
  let (fromIt, itsOutput) ← pipe
  let (itsInput, toIt) ← pipe
  let child ← forkWith (fun s => { s with tested := false, last := true })
    (.process true [(itsInput, 0), (itsOutput, 1)] [fromIt, itsOutput, itsInput, toIt] body)
  close itsOutput
  close itsInput
  let reading ← freeBelow 63
  let _ ← duplicate fromIt reading
  close fromIt
  let writing ← freeBelow (reading - 3)
  let _ ← duplicate toIt writing
  close toIt
  setElements name [toString reading, toString writing]
  setParameter (name ++ "_PID") (toString child)
  let e ← endings
  modify fun s : Session =>
    { s with
      jobs := s.jobs.start e [(child, (Statement.coprocess 0 name body).written)] s.directory
      coprocess := some ⟨child, name, reading, writing⟩
      lastBackground := some child }
  setStatus 0

/-! ## Loops -/

/-- Does something in which programs are waited for in a line. -/
def around (line : Nat) (p : Act Unit) : Act Unit := do
  let before := (← get).outer
  modify fun s => { s with outer := line }
  let result ← outcome p
  modify fun s => { s with outer := before }
  match result with
  | .ok () => return
  | .error e => throw e

/-- Makes a turn of a loop; whether the loop goes on. -/
def turn (p : Act Unit) : Act Bool := do
  match ← outcome p with
  | .ok () => return true
  | .error (.break_ n) => if n ≤ 1 then return false else throw (.break_ (n - 1))
  | .error (.continue_ n) => if n ≤ 1 then return true else throw (.continue_ (n - 1))
  | .error e => throw e

/-- Runs a loop, and counts it while it is under way. -/
def looping (p : Act Unit) : Act Unit := do
  modify fun s => { s with loops := s.loops + 1 }
  let result ← outcome p
  modify fun s => { s with loops := s.loops - 1 }
  match result with
  | .ok () => return
  | .error e => throw e

/-- Repeats a statement while another one succeeds, or until it does. -/
def loop (untilTrue : Bool) (test body : Statement) : Act Unit := looping do
  let status ← repeating 0 fun status => do
    let goesOn ← turn do
      let ok ← succeeds test
      if ok == untilTrue then
        setStatus status
        throw (.break_ 1)
    if !goesOn then return .inr (← get).status
    else
      let goesOn ← turn (runBefore body)
      let status := (← get).status
      return if goesOn then .inl status else .inr status
  setStatus status

/-- The values of a loop. -/
def loopValues (words : Option (List Word)) : Act (List String) := do
  match words with
  | some words => fields words
  | none => return (← get).arguments

/-- Runs a statement once for each value. -/
def forEach (s : Statement) (line : Nat) (name : String) (words : Option (List Word)) (body : Statement) : Act Unit := do
  modify fun s => { s with line }
  let plain := (← get).dialect == .plain
  if !isName name then
    fault ("\x60" ++ name ++ "': not a valid identifier")
    setStatus 1
  else
    let values ← loopValues words
    looping do
      let status ← repeating (values, 0) fun (values, status) => do
        match values with
        | [] => return .inr status
        | v :: rest =>
          modify fun s => { s with line }
          unless plain do
            trace 2 (writtenLoop "for" name words)
            announce line s
          if ← assign? name none v then
            let goesOn ← turn (runBefore body)
            let status := (← get).status
            return if goesOn then .inl (rest, status) else .inr status
          else return .inr 1
      setStatus status

/-- The value of an expression of a loop; one that is empty is true. -/
def loopExpression (line : Nat) (w : Word) : Act (Option Int) := do
  let t ← text w .document
  if t.all fun c => c == ' ' || c == '\t' || c == '\n' then return some 1
  else
    trace 2 ("(( " ++ t ++ " ))")
    announce line (.compute line w)
    evaluate? "((: " t

/-- Repeats a statement while an expression is not zero. -/
def forCount (line : Nat) (first test step : Word) (body : Statement) : Act Unit := do
  modify fun s => { s with line }
  match ← loopExpression line first with
  | none => setStatus 1
  | some _ =>
    looping do
      let status ← repeating 0 fun status => do
        match ← loopExpression line test with
        | none => return .inr 1
        | some 0 => return .inr status
        | some _ =>
          let goesOn ← turn (runBefore body)
          let status := (← get).status
          if !goesOn then return .inr status
          else
            match ← loopExpression line step with
            | none => return .inr 1
            | some _ => return .inl status
      setStatus status

/-- Lets somebody choose among values, as long as there are answers. -/
def select (name : String) (words : Option (List Word)) (body : Statement) : Act Unit := do
  let values ← loopValues words
  let menu := String.join (values.zipIdx.map fun (v, i) => toString (i + 1) ++ ") " ++ v ++ "\n")
  if values.isEmpty then setStatus 0
  else
    looping do
      let status ← repeating (true, 0) fun (shows, _) => do
        if shows then
          let _ ← writeText 2 menu
        let _ ← writeText 2 ((← parameter? "PS3").getD "#? ")
        let (answer, ending) ← readLine ⟨0, 10, none, false, false, none⟩
        if ending ≠ .complete then
          let _ ← writeText 1 "\n"
          return .inr 1
        else
          let reply := answer.text
          setParameter "REPLY" reply
          if reply = "" then return .inl (true, 0)
          else
            let chosen := ((decimal? reply).bind fun n => if n = 0 then none else values[n - 1]?).getD ""
            let _ ← assign? name none chosen
            let goesOn ← turn (runBefore body)
            let status := (← get).status
            return if goesOn then .inl (false, status) else .inr status
      setStatus status

/-! ## Choices -/

/-- Whether a text is accepted by one of some patterns. -/
def matchesAny (subject : String) : List Word → Act Bool
  | [] => return false
  | w :: rest => do
    let p ← pattern w
    if p.accepts (← isOn "nocasematch") (← decoded subject) then return true else matchesAny subject rest

/-- Runs the branches whose turn it is. `fallen` says that the next one is run whatever its patterns
are, and `ran` that one has been run. -/
def branches (subject : String) (fallen ran : Bool) : List Branch → Act Unit
  | [] => unless ran do setStatus 0
  | .mk patterns body follow :: rest => do
    if fallen || (← matchesAny subject patterns) then
      match body with
      | some b => if rest.isEmpty || follow = .leave then runInside b else runBefore b
      | none => setStatus 0
      match follow with
      | .leave => return
      | .nextBody => branches subject true true rest
      | .nextPattern => branches subject false true rest
    else branches subject false ran rest

/-- Runs the first branch that fits a text. -/
def matching (subject : Word) (bs : List Branch) : Act Unit := do
  if (← get).dialect = .extended then trace 2 ("case " ++ subject.written ++ " in")
  branches (← text subject .whole) false false bs

/-- So many digits of a number, with zeros in front. -/
def digitsOf (width n : Nat) : String :=
  let t := toString n
  String.ofList (List.replicate (width - t.length) '0') ++ t

/-- A span of milliseconds in seconds, with so many places; or in minutes and seconds. -/
def spanText (places : Nat) (minutes : Bool) (millis : Nat) : String :=
  let seconds := if minutes then millis % 60000 / 1000 else millis / 1000
  (if minutes then toString (millis / 60000) ++ "m" else "") ++ toString seconds
    ++ (if places = 0 then ""
      else "." ++ String.ofList ((digitsOf 3 (millis % 1000)).toList.take places))
    ++ (if minutes then "s" else "")

/-- What is said about a span of milliseconds by a format, or the character in the format that means
nothing. Programs of this system use no time of their own. -/
def timeText (millis : Nat) : Nat → List Char → Except Char String
  | 0, _ => .ok ""
  | _, [] => .ok ""
  | _, ['%'] => .ok "%"
  | fuel + 1, '%' :: '%' :: rest => (timeText millis fuel rest).map ("%" ++ ·)
  | fuel + 1, '%' :: 'P' :: rest => (timeText millis fuel rest).map ("0.00" ++ ·)
  | fuel + 1, '%' :: rest =>
    let (places, rest) : Nat × List Char :=
      match rest with
      | c :: more => if c.isDigit then (min 3 (c.toNat - 48), more) else (3, rest)
      | [] => (3, [])
    let minutes := rest.head? == some 'l'
    match (if minutes then rest.drop 1 else rest) with
    | c :: rest =>
      let span : Option Nat :=
        if c = 'R' || c = 'E' then some millis else if c = 'U' || c = 'S' then some 0 else none
      match span with
      | some n => (timeText millis fuel rest).map (spanText places minutes n ++ ·)
      | none => .error c
    | [] => .error ' '
  | fuel + 1, c :: rest => (timeText millis fuel rest).map (String.singleton c ++ ·)

/-- Says how long a statement has taken. -/
def timed (posix : Bool) (body : Statement) : Act Unit := do
  let start ← now
  let result ← outcome (runBefore body)
  let stop ← now
  let nanos := ((stop.seconds - start.seconds) * (Instant.second : Int) + stop.nanos - start.nanos).toNat
  let form ←
    if posix then pure "real %2R\nuser %2U\nsys %2S"
    else do pure ((← parameter? "TIMEFORMAT").getD "\nreal\t%3lR\nuser\t%3lU\nsys\t%3lS")
  unless form = "" do
    match timeText (nanos / 1000000) (form.length + 1) form.toList with
    | .ok shown => complain shown
    | .error c => fault ("TIMEFORMAT: \x60" ++ String.singleton c ++ "': invalid format character")
  match result with
  | .ok () => return
  | .error e => throw e

/-! ## Statements -/

/-- Runs a statement with redirections. -/
def redirected (line : Nat) (body : Statement) (redirections : List Redirection) : Act Unit := do
  if line ≠ 0 then modify fun s => { s with line }
  let before := (← get).channels
  let (ok, kept) ← redirectAll redirections []
  if !ok then
    restore kept
    setStatus (← redirectionFailure)
    enforce true
  else
    let result ← outcome (runBefore body)
    restore kept
    closeChannels before
    match result with
    | .ok () => return
    | .error e => throw e

/-- Runs a statement in a process of its own, unless this one ends behind it. -/
def subshell (line : Nat) (body : Statement) : Act Unit := do
  modify fun s => { s with line }
  let s ← get
  if s.last && s.traps.isEmpty then
    modify fun s => { s with subshells := s.subshells + 1, jobs := .empty }
    run body
  else
    modify fun t : Session =>
      { t with running := if t.trapping.isEmpty then some (.subshell line body) else t.running }
    makeRoom
    let child ← forkWith (fun t => { t with outer := line }) (.process false [] [] body)
    let status ← waitForeground child (stageText s.dialect (.subshell line body))
    setStages [status]
    enforce true

/-- Sets the status by the value of an expression. -/
def compute (expression : Word) : Act Unit := do
  let t ← text expression .document
  trace 2 ("(( " ++ t ++ " ))")
  match ← evaluate? "((: " t with
  | some n => setOutcome (if n = 0 then 1 else 0)
  | none => setOutcome 1
  enforce true

/-- Sets the status by a condition. -/
def decideStatus (c : Condition) : Act Unit := do
  setOutcome (← decideCondition (fun t => trace 2 ("[[ " ++ t ++ " ]]")) (c.size + 1) c)
  enforce true

/-- Runs a statement. -/
def statement (s : Statement) : Act Unit := do
  match s with
  | .simple line assignments words redirections =>
    let minded ← mindsErrors
    announce line s
    simple line assignments words redirections
    enforce minded
  | .pipeline negated stages =>
    match negated, stages with
    | true, [s] =>
      let ok ← succeeds s
      setStatus (if ok then 1 else 0)
    | true, stages =>
      let before := (← get).tested
      modify fun s => { s with tested := true }
      pipeline stages
      modify fun s => { s with tested := before, status := if s.status = 0 then 1 else 0 }
    | false, [s] => run s
    | false, stages =>
      pipeline stages
      enforce true
  | .timed posix body => timed posix body
  | .both first second => if ← succeeds first then run second
  | .either first second => unless ← succeeds first do run second
  | .sequence [] => return
  | .sequence (first :: rest) =>
    (first :: rest).dropLast.forM runBefore
    run ((first :: rest).getLastD first)
  | .redirected line body redirections =>
    let own := body matches .subshell .. || body matches .compute .. || body matches .condition ..
    let now ← get
    redirected (if now.dialect = .extended && !own then now.outer else line) body redirections
  | .subshell line body => subshell line body
  | .group body => run body
  | .background body => startBackground body
  | .coprocess line name body =>
    modify fun s => { s with line }
    startCoprocess name body
  | .choice test yes no =>
    if ← succeeds test then runInside yes
    else
      match no with
      | some s => runInside s
      | none => setStatus 0
  | .loop untilTrue test body => loop untilTrue test body
  | .forEach line name words body => around line (forEach s line name words body)
  | .forCount line first test step body => forCount line first test step body
  | .select line name words body =>
    announce line s
    around line (select name words body)
  | .matching line subject bs =>
    announce line s
    around line (matching subject bs)
  | .define line name body =>
    modify fun s =>
      let file := if s.inline && s.file = "" then "environment" else s.file
      { s with
        functions := ⟨name, line, body, file, false, false, false⟩ :: s.functions.filter fun f => f.name ≠ name
        status := 0 }
  | .compute line expression =>
    announce line s
    compute expression
  | .condition line c =>
    announce line s
    decideStatus c
  | .unreadable line text =>
    let status ← callStatus (.script "command substitution: " line text)
    setStatus status

/-- Does a job. What programs do is given by `launch`. -/
def perform (launch : Launch → Act Nat) (job : Job) : Act Value := do
  match job with
  | .statement s =>
    unless ← isOn "noexec" do
      statement s
      interrupts
    return .nothing
  | .lines label s => return .status (← runLines label s)
  | .script label line text => return .status (← runText label line text)
  | .fields words => return .texts (← expandFields words)
  | .letters w manner => return .letters (← expandWord w manner)
  | .process announced wires closed body => return .status (← process announced wires closed body)
  | .external words => return .status (← becomeProgram words)
  | .launch l => return .status (← launch l)
  | .start environment l => turnInto environment l

end CrossBench.Shell.Act
