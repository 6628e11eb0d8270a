import CrossBench.Os.Kernel

/-!
# Programs and how they take turns

A `Program` is what a process still has to do: steps that look at the system and change it, jobs that
it leaves to a function of its own kind, and processes that it starts for jobs. A step that cannot be
made yet is tried again later. What becomes of a job is not a part of the program: whoever runs it
says what it is to `perform` a job, so that programs of any length are written without recursion.

`Threads.run` lets the processes of a system take turns. A process goes on until it has to wait, it
ends, or its turn is over; the clock goes on with each step, and if everybody waits it goes on to the
time at which the first of them wants to be woken.
-/

namespace CrossBench

/-- What a process still has to do: `J` are the jobs, `R` is what they come to. -/
inductive Program (J R α : Type) : Type 1 where
  | done (a : α)
  | step {β : Type} (act : Pid → Kernel → Option (β × Kernel)) (next : β → Program J R α)
  | call (job : J) (next : R → Program J R α)
  /-- Starts a process for a job, with a copy of everything that this one has. -/
  | fork (job : J) (next : Pid → Program J R α)

namespace Program

variable {J R : Type}

/-- One program after another. -/
def bind {α β : Type} (p : Program J R α) (rest : α → Program J R β) : Program J R β :=
  match p with
  | done a => rest a
  | step act next => step act fun b => (next b).bind rest
  | call job next => call job fun r => (next r).bind rest
  | fork job next => fork job fun pid => (next pid).bind rest

instance : Monad (Program J R) where
  pure := done
  bind := bind

end Program

/-- A process under way: what it does now, and behind that what it does with what comes of it. -/
structure Thread (J R : Type) : Type 1 where
  pid : Pid
  current : Program J R R
  behind : List (R → Program J R R)

/-- What a turn of a process comes to. -/
structure Turn (J R : Type) : Type 1 where
  kernel : Kernel
  /-- The process, unless it has ended. -/
  thread : Option (Thread J R)
  /-- The processes that it has started, the latest first. -/
  started : List (Thread J R)
  /-- Whether it has done anything. -/
  moved : Bool

/-- How the jobs of programs are done. -/
structure Workshop (J R : Type) : Type 1 where
  perform : J → Program J R R
  /-- How a process ends whose job comes to this. -/
  outcome : R → WaitStatus

namespace Thread

variable {J R : Type}

/-- The time that a step takes, in nanoseconds. -/
def stepNanos : Nat := 1000

/-- Makes at most so many steps of a process. -/
def run (w : Workshop J R) : Nat → Thread J R → List (Thread J R) → Bool → Kernel → Turn J R
  | 0, t, started, moved, k => ⟨k, some t, started, moved⟩
  | n + 1, ⟨own, current, behind⟩, started, moved, k =>
    if !k.isAlive own then ⟨k, none, started, true⟩
    else
      match current, behind with
      | .done r, [] => ⟨k.finish own (w.outcome r), none, started, true⟩
      | .done r, next :: behind => run w n ⟨own, next r, behind⟩ started true k
      | .step act next, behind =>
        match if (k.process own).stopped then none else act own k with
        | none => ⟨k, some ⟨own, .step act next, behind⟩, started, moved⟩
        | some (b, k) =>
          run w n ⟨own, next b, behind⟩ started true { k with now := k.now.plus stepNanos }
      | .call job next, behind => run w n ⟨own, w.perform job, next :: behind⟩ started true k
      | .fork job next, behind =>
        let (pid, k) := k.fork own
        run w n ⟨own, next pid, behind⟩ (⟨pid, w.perform job, []⟩ :: started) true k

end Thread

/-- The processes of a system, in the order in which it is their turn. -/
abbrev Threads (J R : Type) : Type 1 := List (Thread J R)

namespace Threads

variable {J R : Type}

/-- How many steps a turn has at most. -/
def turnSteps : Nat := 500

/-- Lets processes take turns until `finished`, or until nobody can go on. `waiting` of them, at the
end of the list, are known to wait. -/
def run (w : Workshop J R) (finished : Kernel → Bool) :
    Nat → Nat → Threads J R → Kernel → Threads J R × Kernel
  | 0, _, threads, k => (threads, k)
  | _ + 1, _, [], k => ([], k)
  | fuel + 1, waiting, t :: rest, k =>
    if finished k then (t :: rest, k)
    else if rest.length < waiting then
      match k.nextWaking with
      | none => (t :: rest, k)
      | some time => run w finished fuel 0 (t :: rest) { k with now := time }
    else
      let turn := t.run w turnSteps [] false k
      run w finished fuel (if turn.moved then 0 else waiting + 1)
        (rest ++ turn.thread.toList ++ turn.started.reverse) turn.kernel

end Threads

end CrossBench
