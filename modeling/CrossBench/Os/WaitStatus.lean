/-!
# How a process ended

The system reports the end of a process as one word. Its low seven bits are zero after an exit, and
the next eight bits are then the exit code; otherwise they are the number of the signal that killed
the process, and the eighth bit says whether its memory was dumped. Words with a low byte of 127
report a stopped process, and one special word a continued one.
-/

namespace CrossBench

/-- The name of a signal, in the form in which it follows the signal's number. -/
def signalName : Nat → String
  | 1 => " (SIGHUP)"
  | 2 => " (SIGINT)"
  | 3 => " (SIGQUIT)"
  | 4 => " (SIGILL)"
  | 5 => " (SIGTRAP)"
  | 6 => " (SIGABRT)"
  | 7 => " (SIGBUS)"
  | 8 => " (SIGFPE)"
  | 9 => " (SIGKILL)"
  | 10 => " (SIGUSR1)"
  | 11 => " (SIGSEGV)"
  | 12 => " (SIGUSR2)"
  | 13 => " (SIGPIPE)"
  | 14 => " (SIGALRM)"
  | 15 => " (SIGTERM)"
  | 16 => " (SIGSTKFLT)"
  | 17 => " (SIGCHLD)"
  | 18 => " (SIGCONT)"
  | 19 => " (SIGSTOP)"
  | 20 => " (SIGTSTP)"
  | 21 => " (SIGTTIN)"
  | 22 => " (SIGTTOU)"
  | 23 => " (SIGURG)"
  | 24 => " (SIGXCPU)"
  | 25 => " (SIGXFSZ)"
  | 26 => " (SIGVTALRM)"
  | 27 => " (SIGPROF)"
  | 28 => " (SIGWINCH)"
  | 29 => " (SIGIO)"
  | 30 => " (SIGPWR)"
  | 31 => " (SIGSYS)"
  | _ => ""

/-- The word in which the system reports the end of a process. -/
structure WaitStatus where
  word : UInt32
  deriving DecidableEq

namespace WaitStatus

/-- An exit with this code. -/
def exit (code : UInt8) : WaitStatus := ⟨code.toUInt32 <<< 8⟩

/-- A death by this signal. -/
def signal (number : Nat) : WaitStatus := ⟨UInt32.ofNat (number % 0x7F)⟩

/-- The word as a natural number. -/
def value (s : WaitStatus) : Nat := s.word.toNat

/-- The exit code, after an exit. -/
def code? (s : WaitStatus) : Option Nat :=
  if s.value % 0x80 = 0 then some (s.value / 0x100 % 0x100) else none

/-- The signal that killed the process, if one did. -/
def signal? (s : WaitStatus) : Option Nat :=
  if s.value % 0x80 = 0 ∨ s.value % 0x80 = 0x7F then none else some (s.value % 0x80)

/-- Whether the memory of a killed process was dumped. -/
def dumped (s : WaitStatus) : Bool := s.value / 0x80 % 2 = 1

/-- The signal that stopped the process, if one did. -/
def stop? (s : WaitStatus) : Option Nat :=
  if s.value % 0x100 = 0x7F then some (s.value / 0x100 % 0x100) else none

/-- Whether the process ended well: by an exit with code zero. -/
def success (s : WaitStatus) : Bool := s.value = 0

/-- The words of a report about the end of a process. -/
def message (s : WaitStatus) : String :=
  match s.code?, s.signal?, s.stop? with
  | some code, _, _ => "exit status: " ++ toString code
  | none, some signal, _ =>
    "signal: " ++ toString signal ++ signalName signal ++ (if s.dumped then " (core dumped)" else "")
  | none, none, some signal =>
    "stopped (not terminated) by signal: " ++ toString signal ++ signalName signal
  | none, none, none =>
    if s.value = 0xFFFF then "continued (WIFCONTINUED)"
    else
      let signed : Int := if s.value < 0x80000000 then s.value else s.value - 0x100000000
      "unrecognised wait status: " ++ toString signed ++ " 0x"
        ++ String.ofList (Nat.toDigits 16 s.value)

end WaitStatus

end CrossBench

/-!
## Signals

A signal has a number, a name and a text for it. A process that has made no other arrangement is
killed by most of them and ignores a few.
-/

namespace CrossBench.Signal

/-- The names of the signals and the texts for them, in the order of their numbers from 1 on. -/
def table : List (String × String) :=
  [("HUP", "Hangup"), ("INT", "Interrupt"), ("QUIT", "Quit"), ("ILL", "Illegal instruction"),
    ("TRAP", "Trace/breakpoint trap"), ("ABRT", "Aborted"), ("BUS", "Bus error"),
    ("FPE", "Floating point exception"), ("KILL", "Killed"), ("USR1", "User defined signal 1"),
    ("SEGV", "Segmentation fault"), ("USR2", "User defined signal 2"), ("PIPE", "Broken pipe"),
    ("ALRM", "Alarm clock"), ("TERM", "Terminated"), ("STKFLT", "Stack fault"),
    ("CHLD", "Child exited"), ("CONT", "Continued"), ("STOP", "Stopped (signal)"),
    ("TSTP", "Stopped"), ("TTIN", "Stopped (tty input)"), ("TTOU", "Stopped (tty output)"),
    ("URG", "Urgent I/O condition"), ("XCPU", "CPU time limit exceeded"),
    ("XFSZ", "File size limit exceeded"), ("VTALRM", "Virtual timer expired"),
    ("PROF", "Profiling timer expired"), ("WINCH", "Window changed"), ("IO", "I/O possible"),
    ("PWR", "Power failure"), ("SYS", "Bad system call")]

/-- The name of a signal. -/
def name? (number : Nat) : Option String :=
  if number = 0 then none else (table[number - 1]?).map (·.1)

/-- The text for a signal. -/
def text (number : Nat) : String :=
  if number = 0 then "" else ((table[number - 1]?).map (·.2)).getD ("Signal " ++ toString number)

/-- The number of the signal with a name. -/
def number? (name : String) : Option Nat :=
  (table.findIdx? fun e => e.1 = name).map (· + 1)

/-- The interrupt. -/
def interrupt : Nat := 2

/-- The signal that nothing withstands. -/
def kill : Nat := 9

/-- What a process gets that writes to a pipe that nobody reads. -/
def pipe : Nat := 13

/-- What a process is asked to end by. -/
def terminate : Nat := 15

/-- What a process gets when a process that it has started ends. -/
def child : Nat := 17

/-- What makes a stopped process go on. -/
def resume : Nat := 18

/-- What stops a process, whatever it has arranged. -/
def stop : Nat := 19

/-- Whether a process does not notice a signal unless it has asked for it. -/
def ignoredByDefault (number : Nat) : Bool :=
  number = 0 || number = child || number = resume || number = 23 || number = 28

/-- Whether a process is stopped by a signal unless it has arranged otherwise. -/
def stopsByDefault (number : Nat) : Bool := stop ≤ number && number ≤ 22

/-- Whether a signal can be caught or ignored. -/
def catchable (number : Nat) : Bool := number ≠ kill && number ≠ stop

end CrossBench.Signal
