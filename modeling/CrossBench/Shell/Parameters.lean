import CrossBench.Shell.Session
import CrossBench.Shell.Unparse
import CrossBench.Text.Calendar

/-!
# Parameters

What the parameters of a session are worth, and what becomes of a session when one of them is set.
Some parameters are not kept in the session's list because they say something about the session
itself: the arguments, the status, the line.
-/

namespace CrossBench.Shell

/-- The number that decimal digits spell. -/
def decimal? (s : String) : Option Nat :=
  if s ≠ "" && s.all Char.isDigit then some (s.foldl (fun n c => n * 10 + (c.toNat - 48)) 0) else none

/-- The place that the elements of an array with names are kept in order by. -/
def bucketOf (name : String) : UInt32 :=
  (name.foldl (fun h c => (h * 16777619) ^^^ UInt32.ofNat c.toNat) 2166136261) % 1024

namespace Content

/-- The elements by name, in the order in which they are enumerated. -/
def entries : Content → List (String × String)
  | .nothing => []
  | .text s => [("0", s)]
  | .indexed elements => elements.map fun e => (toString e.1, e.2)
  | .keyed elements => elements.mergeSort fun a b => bucketOf a.1 ≤ bucketOf b.1

/-- The values of the elements. -/
def values (c : Content) : List String := c.entries.map (·.2)

/-- The names of the elements. -/
def keys (c : Content) : List String := c.entries.map (·.1)

/-- Whether there are elements with names. -/
def isKeyed : Content → Bool
  | .keyed _ => true
  | _ => false

/-- Whether it is an array. -/
def isArray : Content → Bool
  | .keyed _ => true
  | .indexed _ => true
  | _ => false

/-- The elements by number with one of them set. -/
def insertAt (n : Nat) (value : String) : List (Nat × String) → List (Nat × String)
  | [] => [(n, value)]
  | (m, old) :: rest =>
    if m < n then (m, old) :: insertAt n value rest
    else if m = n then (n, value) :: rest
    else (n, value) :: (m, old) :: rest

/-- The elements by name with one of them set. -/
def insertNamed (name value : String) (elements : List (String × String)) : List (String × String) :=
  if elements.any fun e => e.1 = name then
    elements.map fun e => if e.1 = name then (name, value) else e
  else (name, value) :: elements

/-- The elements by number, whatever there is. -/
def elements : Content → List (Nat × String)
  | .indexed elements => elements
  | .text s => [(0, s)]
  | _ => []

/-- The content with the element of a number set. -/
def setAt (n : Nat) (value : String) (c : Content) : Content := .indexed (insertAt n value c.elements)

/-- The content with the element of a name set. -/
def setNamed (name value : String) : Content → Content
  | .keyed elements => .keyed (insertNamed name value elements)
  | _ => .keyed [(name, value)]

/-- The number of the element that a number means, which counts from behind if it is negative. -/
def place? (c : Content) (n : Int) : Option Nat :=
  if 0 ≤ n then some n.toNat
  else
    let size : Int := (c.elements.getLast?.map fun e => (e.1 : Int) + 1).getD 0
    if 0 ≤ size + n then some (size + n).toNat else none

/-- The value of the element of a number. -/
def at? (c : Content) (n : Int) : Option String :=
  (c.place? n).bind fun n => (c.elements.find? fun e => e.1 = n).map (·.2)

/-- The value of the element of a name. -/
def named? (c : Content) (name : String) : Option String :=
  (c.entries.find? fun e => e.1 = name).map (·.2)

end Content

/-- A parameter that has only a name. -/
def Parameter.fresh (name : String) : Parameter :=
  ⟨name, .nothing, false, false, false, none, false, false⟩

namespace Session

/-- The parameters of the extended dialect that say what is under way. -/
def underWay? (s : Session) (name : String) : Option Parameter :=
  let row (values : List String) : Option Parameter :=
    some { Parameter.fresh name with content := .indexed (values.zipIdx.map fun (v, i) => (i, v)) }
  if s.dialect = .plain || s.unlinked.contains name then none
  else
    match name with
    | "FUNCNAME" => if s.frames.isEmpty then none else row (s.callers.map (·.name))
    | "BASH_SOURCE" => row (s.callers.map (·.file))
    | "BASH_LINENO" => row (s.callers.map fun c => toString c.line)
    | "DIRSTACK" => row (s.directory :: s.directories)
    | _ => none

/-- The parameter of a name. -/
def find? (s : Session) (name : String) : Option Parameter :=
  match s.parameters.find? fun p => p.name == name with
  | some p => some p
  | none => s.underWay? name

/-- The name that a name stands for. -/
def meant (s : Session) (name : String) : Nat → String
  | 0 => name
  | n + 1 =>
    match s.find? name with
    | some p =>
      if p.reference then
        match p.content with
        | .text target => if target = "" then name else s.meant target n
        | _ => name
      else name
    | none => name

/-- The element of an array that a name stands for: the array, and the text of the subscript. -/
def elementMeant? (s : Session) (name : String) : Option (String × String) :=
  match s.find? name with
  | some p =>
    if !p.reference then none
    else
      let target := (s.meant name 10).toList
      let array := target.takeWhile (· != '[')
      if array.length < target.length && target.getLast? = some ']' then
        some (String.ofList array, String.ofList (target.drop (array.length + 1)).dropLast)
      else none
  | none => none

/-- The parameter that a name stands for. -/
def get? (s : Session) (name : String) : Option Parameter := s.find? (s.meant name 10)

/-- What the parameter of a name holds. -/
def contentOf (s : Session) (name : String) : Content :=
  match s.get? name with
  | some p => p.content
  | none => .nothing

/-- The session with a parameter in place of the one of its name. -/
def put (s : Session) (p : Parameter) : Session :=
  if s.parameters.any fun q => q.name == p.name then
    { s with parameters := s.parameters.map fun q => if q.name == p.name then p else q }
  else { s with parameters := p :: s.parameters }

/-- The session without the parameter of a name. -/
def forget (s : Session) (name : String) : Session :=
  { s with
    parameters := s.parameters.filter fun q => q.name != name
    settings :=
      if name = "GLOBIGNORE" && s.dialect = .extended then s.settings.filter (· ≠ "dotglob")
      else s.settings }

/-- Whether an option is on. -/
def isOn (s : Session) (name : String) : Bool := s.settings.contains name

/-- The session with an option on or off. -/
def switch (s : Session) (name : String) (on : Bool) : Session :=
  let others := s.settings.filter (· ≠ name)
  { s with settings := if on then name :: others else others }

/-- The options that have a letter, with their names. -/
def letterOptions (d : Dialect) : List (Char × String) :=
  match d with
  | .plain =>
    [('e', "errexit"), ('f', "noglob"), ('I', "ignoreeof"), ('i', "interactive"), ('m', "monitor"),
      ('n', "noexec"), ('s', "stdin"), ('x', "xtrace"), ('v', "verbose"), ('V', "vi"),
      ('E', "emacs"), ('C', "noclobber"), ('a', "allexport"), ('b', "notify"), ('u', "nounset")]
  | .extended =>
    [('a', "allexport"), ('b', "notify"), ('e', "errexit"), ('f', "noglob"), ('h', "hashall"),
      ('i', "interactive"), ('k', "keyword"), ('m', "monitor"), ('n', "noexec"),
      ('p', "privileged"), ('r', "restricted"), ('t', "onecmd"), ('u', "nounset"),
      ('v', "verbose"), ('x', "xtrace"), ('B', "braceexpand"), ('C', "noclobber"),
      ('E', "errtrace"), ('H', "histexpand"), ('P', "physical"), ('T', "functrace"), ('c', "command"),
      ('s', "stdin")]

/-- The names of the options that `set` knows, in the order in which they are listed. -/
def optionNames (d : Dialect) : List String :=
  match d with
  | .plain =>
    ["errexit", "noglob", "ignoreeof", "interactive", "monitor", "noexec", "stdin", "xtrace",
      "verbose", "vi", "emacs", "noclobber", "allexport", "notify", "nounset", "privileged",
      "nolog", "debug"]
  | .extended =>
    ["allexport", "braceexpand", "emacs", "errexit", "errtrace", "functrace", "hashall",
      "histexpand", "history", "ignoreeof", "interactive-comments", "keyword", "monitor",
      "noclobber", "noexec", "noglob", "nolog", "notify", "nounset", "onecmd", "physical",
      "pipefail", "posix", "privileged", "verbose", "vi", "xtrace"]

/-- The options of the extended dialect that have no letter. -/
def shoptNames : List String :=
  ["autocd", "assoc_expand_once", "cdable_vars", "cdspell", "checkhash", "checkjobs", "checkwinsize",
    "cmdhist", "compat31", "compat32", "compat40", "compat41", "compat42", "compat43", "compat44",
    "complete_fullquote", "direxpand", "dirspell", "dotglob", "execfail", "expand_aliases",
    "extdebug", "extglob", "extquote", "failglob", "force_fignore", "globasciiranges",
    "globskipdots", "globstar", "gnu_errfmt", "histappend", "histreedit", "histverify",
    "hostcomplete", "huponexit", "inherit_errexit", "interactive_comments", "lastpipe", "lithist",
    "localvar_inherit", "localvar_unset", "login_shell", "mailwarn", "no_empty_cmd_completion",
    "nocaseglob", "nocasematch", "noexpand_translation", "nullglob", "patsub_replacement",
    "progcomp", "progcomp_alias", "promptvars", "restricted_shell", "shift_verbose", "sourcepath",
    "varredir_close", "xpg_echo"]

/-- The letters of the options that are on. -/
def optionLetters (s : Session) : String :=
  String.ofList ((letterOptions s.dialect).filterMap fun (c, name) =>
    if s.isOn name then some c else none)

/-- The separators between values. -/
def separators (s : Session) : String :=
  match s.get? "IFS" with
  | none => " \t\n"
  | some p => (p.content.text?).getD " \t\n"

/-- What stands between arguments that are put together. -/
def joint (s : Session) : String := String.ofList (s.separators.toList.take 1)

/-- The next number of the row from which random numbers are made. -/
def nextSeed (seed : Nat) : Nat :=
  let seed := if seed % Nat.pow 2 32 = 0 then 123459876 else seed % Nat.pow 2 32
  let t : Int := 16807 * (seed % 127773 : Nat) - 2836 * (seed / 127773 : Nat)
  (if t < 0 then t + 0x7fffffff else t).toNat

/-- The random number that belongs to a place in the row. -/
def randomAt (seed : Nat) : Nat := ((seed / 65536) ^^^ (seed % 65536)) % 32768

/-- The place in the row of the random number that follows; it is another one than the last. -/
def nextDraw (seed : Nat) : Nat :=
  let next := nextSeed seed
  if randomAt next = randomAt seed then nextSeed next else next

/-- The parameters of the extended dialect that mean something special until they are forgotten. -/
def linkedNames : List String :=
  ["RANDOM", "SRANDOM", "SECONDS", "EPOCHSECONDS", "EPOCHREALTIME", "BASH_SUBSHELL", "BASHPID",
    "BASH_COMMAND", "BASH_ARGV0", "LINENO", "FUNCNAME", "BASH_SOURCE", "BASH_LINENO", "DIRSTACK"]

/-- The session behind the value of a parameter has been asked for. -/
def drawn (s : Session) (name : String) : Session :=
  if (name = "RANDOM" || name = "SRANDOM") && s.dialect = .extended then { s with seed := nextDraw s.seed }
  else s

/-- The value of a parameter of the extended dialect that is computed when it is asked for, unless a
script has forgotten that the name means something. -/
def computed? (s : Session) (now : Instant) (name : String) : Option String :=
  if s.dialect = .plain || s.unlinked.contains name then none
  else
    let settings (names : List String) : String :=
      ":".intercalate ((names.filter s.isOn).mergeSort fun a b => a ≤ b)
    let six (n : Nat) : String :=
      let t := toString n
      String.ofList (List.replicate (6 - t.length) '0') ++ t
    match name with
    | "RANDOM" => some (toString (randomAt (nextDraw s.seed)))
    | "SRANDOM" =>
      let seed := nextSeed (nextSeed (s.seed + now.nanos))
      some (toString (seed * 2 + randomAt seed % 2))
    | "SECONDS" => some (toString (now.seconds - s.started.seconds))
    | "EPOCHSECONDS" => some (toString now.seconds)
    | "EPOCHREALTIME" => some (toString now.seconds ++ "." ++ six (now.nanos / 1000))
    | "BASH_SUBSHELL" => some (toString s.subshells)
    | "BASHPID" => some (toString s.process)
    | "BASH_COMMAND" => s.running.map (·.shownBriefly)
    | "BASH_ARGV0" => some s.title
    | "SHELLOPTS" => some (settings (optionNames .extended))
    | "BASHOPTS" => some (settings shoptNames)
    | _ => none

/-- The value of a parameter that is not kept in the list of parameters. -/
def special? (s : Session) (now : Instant) (name : String) : Option String :=
  match name with
  | "#" => some (toString s.arguments.length)
  | "?" => some (toString s.status)
  | "$" => some (toString s.shell)
  | "!" => s.lastBackground.map toString
  | "-" => some s.optionLetters
  | "0" => some s.title
  | "@" => if s.arguments.isEmpty then none else some (" ".intercalate s.arguments)
  | "*" => if s.arguments.isEmpty then none else some (s.joint.intercalate s.arguments)
  | "LINENO" => if (s.find? name).isSome || s.unlinked.contains name then none else some (toString (s.line + 1 - s.origin))
  | "_" => if s.dialect = .extended then some s.lastArgument else none
  | name =>
    match decimal? name with
    | some n => if n = 0 then some s.title else s.arguments[n - 1]?
    | none => s.computed? now name

/-- The parameters as they are listed. -/
def listed (s : Session) : List Parameter :=
  let sorted := s.parameters.mergeSort fun a b => a.name ≤ b.name
  sorted.map fun p =>
    if p.name = "SHELLOPTS" || p.name = "BASHOPTS" then
      { p with content := .text ((s.computed? ⟨0, 0⟩ p.name).getD "") }
    else p

/-- The value of a parameter, if it is set. -/
def value? (s : Session) (now : Instant) (name : String) : Option String :=
  match s.special? now name with
  | some v => some v
  | none => (s.get? name).bind fun p => p.content.text?

/-- The languages whose characters may take several bytes. -/
def wideLanguages : List String := ["C.UTF-8", "C.utf8", "C.UTF8", "C.utf-8"]

/-- Whether characters may take several bytes, as the parameters for the language say. -/
def isWide (s : Session) : Bool :=
  let value (name : String) : Option String :=
    ((s.find? name).bind fun p => p.content.text?).filter (· ≠ "")
  (((value "LC_ALL").orElse fun _ => value "LC_CTYPE").orElse fun _ => value "LANG").any
    wideLanguages.contains

/-- The zone that clocks are in, as a parameter says. -/
def zone (s : Session) : Zone :=
  Zone.ofText ((((s.find? "TZ").filter (·.exported)).bind fun p => p.content.text?).getD "")

/-- Whether the words of a script have such characters; in the plain dialect they never have. -/
def readsWide (s : Session) : Bool := s.dialect = .extended && s.isWide

/-- The letters of a value as a parameter has them. -/
def recased (s : Session) (casing : Option Casing) (value : String) : String :=
  match casing with
  | none => value
  | some .capitals => Letters.upper s.isWide value
  | some .small => Letters.lower s.isWide value
  | some .capitalized =>
    match Letters.decode s.isWide value.toList with
    | c :: rest => String.ofList (Letters.narrow (Letters.toUpper c :: rest.map Letters.toLower))
    | [] => value

/-- Sets a parameter, or an element of it, whatever protects it. -/
def store (s : Session) (name : String) (element : Option (Int ⊕ String)) (value : String) : Session :=
  let name := s.meant name 10
  let p := (s.find? name).getD (.fresh name)
  let p := if s.isOn "allexport" then { p with exported := true } else p
  let value := s.recased p.casing value
  let content :=
    match element, p.content with
    | none, .indexed elements => .indexed (Content.insertAt 0 value elements)
    | none, .keyed elements => .keyed (Content.insertNamed "0" value elements)
    | none, _ => .text value
    | some (.inr key), c => c.setNamed key value
    | some (.inl n), c =>
      match c.place? n with
      | some n => c.setAt n value
      | none => c
  s.put { p with content, pending := false }

/-- Whether a parameter must not be set. -/
def isProtected (s : Session) (name : String) : Bool := (s.get? name).any (·.readonly)

/-- The name under which a function is handed on. -/
def functionKey (name : String) : String := "BASH_FUNC_" ++ name ++ "%%"

/-- The parameters that programs get that are started, and the functions. -/
def environment (s : Session) : List (String × String) :=
  (s.parameters.reverse.filterMap fun p =>
    if p.exported then
      match p.content with
      | .text v => some (p.name, v)
      | _ => none
    else none) ++
  s.functions.reverse.filterMap fun f =>
    if f.exported then some (functionKey f.name, writtenFunction "" false f.body) else none

end Session

end CrossBench.Shell
