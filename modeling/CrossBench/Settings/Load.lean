import CrossBench.Error
import CrossBench.Settings.Basic
import CrossBench.Toml.Document

/-!
# Loading the settings of a project

A configuration file that is asked for by name has to exist. Otherwise the file of the usual name in
the project root is read if it is there, and a project without one has the default settings. Loaded
settings have no fault.

A group of settings is read from a table by the names of its fields, or from an array by their
positions. Fields that are absent keep their defaults, and fields that nobody asks for are ignored. A
moment stands for a table without known fields. A field that is there has to be of its own kind:
nothing is converted.
-/

namespace CrossBench.Settings

open Toml (Value)

/-! ## Settings from a document -/

/-- A group of settings as it is written. -/
inductive Group where
  | named (fields : Toml.Fields)
  | positional (items : List Value)

/-- The group that a value is. -/
def Group.of? : Value → Option Group
  | .table _ fields => some (.named fields)
  | .array _ items => some (.positional items)
  | .moment _ => some (.named [])
  | _ => none

/-- The value of a field, which has a position and a name. -/
def Group.get? (group : Group) (position : Nat) (name : String) : Option Value :=
  match group with
  | .named fields => fields.get? name
  | .positional items => items[position]?

/-- A field, or its default if it is absent. -/
def Group.field {α : Type} (group : Group) (position : Nat) (name : String)
    (decode : Value → Option α) (default : α) : Option α :=
  match group.get? position name with
  | none => some default
  | some value => decode value

/-- A text. -/
def text? : Value → Option String
  | .string s => some s
  | _ => none

/-- A path. -/
def path? (value : Value) : Option Path := (text? value).map .ofText

/-- A list. -/
def list? {α : Type} (decode : Value → Option α) : Value → Option (List α)
  | .array _ items => items.mapM decode
  | _ => none

/-- A command. -/
def command? : Value → Option Command := list? text?

/-- A natural number below `bound`. -/
def natural? (bound : Nat) : Value → Option Nat
  | .integer n => if 0 ≤ n ∧ n < bound then some n.toNat else none
  | _ => none

/-- A number of runs. -/
def runs? (value : Value) : Option UInt32 := (natural? (Nat.pow 2 32) value).map .ofNat

/-- The number of a core. -/
def core? (value : Value) : Option (Option UInt64) :=
  (natural? (Nat.pow 2 64) value).map fun n => some (.ofNat n)

/-- The policy of this name. -/
def policyNamed? : String → Option FailedRuns
  | "record" => some .record
  | "flag" => some .flag
  | _ => none

/-- A table or an array without content. -/
def isEmptyGroup : Value → Bool
  | .table _ [] => true
  | .array _ [] => true
  | _ => false

/-- A policy: its name, or a table with the name as its one key and nothing behind it. -/
def policy? : Value → Option FailedRuns
  | .string s => policyNamed? s
  | .table _ [(name, content)] => if isEmptyGroup content then policyNamed? name else none
  | _ => none

/-- The native settings. -/
def native? (value : Value) : Option NativeSettings := do
  let d : NativeSettings := {}
  let group ← Group.of? value
  return {
    tag := ← group.field 0 "tag" text? d.tag
    binary := ← group.field 1 "binary" path? d.binary
    sourceRoots := ← group.field 2 "source_roots" (list? path?) d.sourceRoots
    sourceExtension := ← group.field 3 "source_extension" text? d.sourceExtension
    buildCommand := ← group.field 4 "build_command" command? d.buildCommand }

/-- The commands by extension. -/
def runners? : Value → Option (Table String Command)
  | .table _ fields => do
    let entries ← fields.mapM fun f => (command? f.2).map (f.1, ·)
    return .ofList entries
  | _ => none

/-- The sampling settings. -/
def sampling? (value : Value) : Option SamplingSettings := do
  let d : SamplingSettings := {}
  let group ← Group.of? value
  return {
    iterations := ← group.field 0 "iterations" runs? d.iterations
    warmup := ← group.field 1 "warmup" runs? d.warmup
    failedRuns := ← group.field 2 "failed_runs" policy? d.failedRuns
    pinCore := ← group.field 3 "pin_core" core? d.pinCore }

/-- The settings of a document. -/
def ofDocument? (document : Toml.Fields) : Option Settings := do
  let d : Settings := {}
  let group := Group.named document
  return {
    benchmarksDir := ← group.field 0 "benchmarks_dir" path? d.benchmarksDir
    native := ← group.field 1 "native" native? d.native
    runners := ← group.field 2 "runners" runners? d.runners
    sampling := ← group.field 3 "sampling" sampling? d.sampling }

/-- The settings that a configuration text spells. They may still have a fault. -/
def ofText? (text : String) : Option Settings := (Toml.document? text).bind ofDocument?

/-! ## The configuration file -/

/-- The configuration file to read, if there is one. -/
def source (tree : Tree) (root : Path) : Option Path → Except HarnessError (Option Path)
  | some path => if tree.isFile path then .ok (some path) else .error (.configMissing path)
  | none =>
    let usual := root.join fileName
    .ok (if tree.isFile usual then some usual else none)

/-- The settings in a configuration file. -/
def read (tree : Tree) (path : Path) : Except HarnessError Settings :=
  match tree.read path with
  | .error reason => .error (.io path reason)
  | .ok bytes =>
    match Utf8.decode? bytes with
    | none => .error (.io path (.custom "stream did not contain valid UTF-8"))
    | some text =>
      match ofText? text with
      | none => .error (.configUnreadable path)
      | some settings =>
        match settings.fault? with
        | none => .ok settings
        | some fault => .error (.invalidConfig fault.message)

/-- The settings of the project at `root`. -/
def load (tree : Tree) (root : Path) (explicit : Option Path) : Except HarnessError Settings :=
  match source tree root explicit with
  | .error e => .error e
  | .ok none => .ok {}
  | .ok (some path) => read tree path

end CrossBench.Settings
