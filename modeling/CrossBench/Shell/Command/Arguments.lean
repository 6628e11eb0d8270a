import CrossBench.Shell.Complaint

/-!
# Arguments of the shell's own commands

Options in front of the arguments of a command, numbers among them, and how a command complains of
others.
-/

namespace CrossBench.Shell

/-- Options that have been taken off arguments: letters with their values, and what is left. -/
structure Options where
  given : List (Char × Option String)
  rest : List String
  /-- The first letter that is no option, or whose value is missing. -/
  wrong : Option (Char × Bool)

namespace Options

/-- Whether a letter has been given. -/
def has (o : Options) (c : Char) : Bool := o.given.any fun g => g.1 = c

/-- The last value of a letter. -/
def value? (o : Options) (c : Char) : Option String :=
  ((o.given.reverse.find? fun g => g.1 = c).bind (·.2))

/-- Takes the letters of an argument; `more` are the arguments behind it. -/
def letters (plain valued : List Char) : List Char → List String →
    List (Char × Option String) × List String × Option (Char × Bool)
  | [], more => ([], more, none)
  | c :: cs, more =>
    if valued.contains c then
      if cs ≠ [] then ([(c, some (String.ofList cs))], more, none)
      else
        match more with
        | v :: more => ([(c, some v)], more, none)
        | [] => ([], [], some (c, true))
    else if plain.contains c then
      let (given, more, wrong) := letters plain valued cs more
      ((c, none) :: given, more, wrong)
    else ([], more, some (c, false))

/-- Takes options off arguments, up to the first that is none. -/
def take (plain valued : List Char) : Nat → List String → Options
  | 0, arguments => ⟨[], arguments, none⟩
  | _, [] => ⟨[], [], none⟩
  | fuel + 1, a :: rest =>
    if a = "--" then ⟨[], rest, none⟩
    else
      match a.toList with
      | '-' :: c :: cs =>
        let (given, more, wrong) := letters plain valued (c :: cs) rest
        if wrong.isSome then ⟨given, more, wrong⟩
        else
          let after := take plain valued fuel more
          { after with given := given ++ after.given }
      | _ => ⟨[], a :: rest, none⟩

/-- Takes options off arguments. `plain` are the letters without values. -/
def of (plain valued : String) (arguments : List String) : Options :=
  take plain.toList valued.toList (arguments.length + 1) arguments

end Options

/-- How the commands of the extended dialect are used. -/
def usageOf : String → String
  | "cd" => "cd [-L|[-P [-e]] [-@]] [dir]"
  | "pwd" => "pwd [-LP]"
  | "set" => "set [-abefhkmnptuvxBCEHPT] [-o option-name] [--] [-] [arg ...]"
  | "unset" => "unset [-f] [-v] [-n] [name ...]"
  | "export" => "export [-fn] [name[=value] ...] or export -p"
  | "readonly" => "readonly [-aAf] [name[=value] ...] or readonly -p"
  | "declare" =>
    "declare [-aAfFgiIlnrtux] [name[=value] ...] or declare -p [-aAfFilnrtux] [name ...]"
  | "typeset" =>
    "typeset [-aAfFgiIlnrtux] name[=value] ... or typeset -p [-aAfFilnrtux] [name ...]"
  | "local" => "local [option] name[=value] ..."
  | "read" =>
    "read [-ers] [-a array] [-d delim] [-i text] [-n nchars] [-N nchars] [-p prompt] [-t timeout] [-u fd] [name ...]"
  | "printf" => "printf [-v var] format [arguments]"
  | "trap" => "trap [-lp] [[arg] signal_spec ...]"
  | "kill" =>
    "kill [-s sigspec | -n signum | -sigspec] pid | jobspec ... or kill -l [sigspec]"
  | "wait" => "wait [-fn] [-p var] [id ...]"
  | "umask" => "umask [-p] [-S] [mode]"
  | "alias" => "alias [-p] [name[=value] ... ]"
  | "unalias" => "unalias [-a] name [name ...]"
  | "type" => "type [-afptP] name [name ...]"
  | "command" => "command [-pVv] command [arg ...]"
  | "hash" => "hash [-lr] [-p pathname] [-dt] [name ...]"
  | "source" => "source filename [arguments]"
  | "." => ". filename [arguments]"
  | "exec" => "exec [-cl] [-a name] [command [argument ...]] [redirection ...]"
  | "eval" => "eval [arg ...]"
  | "getopts" => "getopts optstring name [arg ...]"
  | "shopt" => "shopt [-pqsu] [-o] [optname ...]"
  | "mapfile" =>
    "mapfile [-d delim] [-n count] [-O origin] [-s count] [-t] [-u fd] [-C callback] [-c quantum] [array]"
  | "readarray" =>
    "readarray [-d delim] [-n count] [-O origin] [-s count] [-t] [-u fd] [-C callback] [-c quantum] [array]"
  | "let" => "let arg [arg ...]"
  | "caller" => "caller [expr]"
  | "dirs" => "dirs [-clpv] [+N] [-N]"
  | "pushd" => "pushd [-n] [+N | -N | dir]"
  | "popd" => "popd [-n] [+N | -N]"
  | "compgen" =>
    "compgen [-abcdefgjksuv] [-o option] [-A action] [-G globpat] [-W wordlist] [-F function] [-C command] [-X filterpat] [-P prefix] [-S suffix] [word]"
  | "complete" =>
    "complete [-abcdefgjksuv] [-pr] [-DEI] [-o option] [-A action] [-G globpat] [-W wordlist] [-F function] [-C command] [-X filterpat] [-P prefix] [-S suffix] [name ...]"
  | "compopt" => "compopt [-o|+o option] [-DEI] [name ...]"
  | "enable" => "enable [-a] [-dnps] [-f filename] [name ...]"
  | "history" =>
    "history [-c] [-d offset] [n] or history -anrw [filename] or history -ps arg [arg...]"
  | "fc" => "fc [-e ename] [-lnr] [first] [last] or fc -s [pat=rep] [command]"
  | "bind" =>
    "bind [-lpsvPSVX] [-m keymap] [-f filename] [-q name] [-u name] [-r keyseq] [-x keyseq:shell-command] [keyseq:readline-function or readline-command]"
  | "disown" => "disown [-h] [-ar] [jobspec ... | pid ...]"
  | "help" => "help [-dms] [pattern ...]"
  | "ulimit" => "ulimit [-SHabcdefiklmnpqrstuvxPRT] [limit]"
  | "return" => "return [n]"
  | "exit" => "exit [n]"
  | "builtin" => "builtin [shell-builtin [arg ...]]"
  | "logout" => "logout [n]"
  | "suspend" => "suspend [-f]"
  | "fg" => "fg [job_spec]"
  | "bg" => "bg [job_spec ...]"
  | "jobs" => "jobs [-lnprs] [jobspec ...] or jobs -x command [args]"
  | name => name

namespace Act

/-- The options of a command; one that is none ends the script in the plain dialect, and the command
in the extended one. -/
def optionsOf (command plain valued : String) (arguments : List String) : Act (Except Nat Options) := do
  let o := Options.of plain valued arguments
  match o.wrong with
  | none => return .ok o
  | some (c, missing) =>
    let letter := "-" ++ String.singleton c
    match (← get).dialect with
    | .plain =>
      if missing then fail ("No arg for " ++ letter ++ " option") else fail ("Illegal option " ++ letter)
    | .extended =>
      faultOf command
        (letter ++ if missing then ": option requires an argument" else ": invalid option")
      complain (command ++ ": usage: " ++ usageOf command)
      return .error 2

/-- The number that is an argument in the plain dialect. -/
def plainNumber (a : String) : Act Nat := do
  match Arithmetic.integer? (some 10) a with
  | some n => if n < 0 ∨ 2147483647 < n then fail ("Illegal number: " ++ a) else return n.toNat
  | none => fail ("Illegal number: " ++ a)

end Act

end CrossBench.Shell
