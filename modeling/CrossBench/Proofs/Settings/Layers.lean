import CrossBench.CommandLine.Basic
import CrossBench.Settings.Load
import Mathlib

/-!
# Settings in layers

A setting has up to three sources: an option of the command line, a key of the
configuration document, and a default.  An `Item` is one setting together with its three
sources, so that what holds of all settings is stated once.

* `ofDocument?_eq_some_iff` — the settings of a document, item by item: each is what its
  own key stands for, or its default.
* `Item.written?_put` and `ofDocument?_put` — changing one key of a document.
* `load_eq_ok_iff` — which settings are loaded.
* `layered` — the rule for all items, and what follows from it.
-/

namespace CrossBench.Settings

open Toml (Value)

/-- The single settings. -/
inductive Item where
  | benchmarksDir
  | tag
  | binary
  | sourceRoots
  | sourceExtension
  | buildCommand
  | runners
  | iterations
  | warmup
  | failedRuns
  | pinCore
  deriving DecidableEq

namespace Item

/-- What a setting is. -/
def Carrier : Item → Type
  | benchmarksDir => Path
  | tag => String
  | binary => Path
  | sourceRoots => List Path
  | sourceExtension => String
  | buildCommand => Command
  | runners => Table String Command
  | iterations => UInt32
  | warmup => UInt32
  | failedRuns => FailedRuns
  | pinCore => Option UInt64

/-- The value of an item in settings. -/
def get : (item : Item) → Settings → item.Carrier
  | benchmarksDir, s => s.benchmarksDir
  | tag, s => s.native.tag
  | binary, s => s.native.binary
  | sourceRoots, s => s.native.sourceRoots
  | sourceExtension, s => s.native.sourceExtension
  | buildCommand, s => s.native.buildCommand
  | runners, s => s.runners
  | iterations, s => s.sampling.iterations
  | warmup, s => s.sampling.warmup
  | failedRuns, s => s.sampling.failedRuns
  | pinCore, s => s.sampling.pinCore

/-- The value of an item if nobody says anything about it. -/
def default : (item : Item) → item.Carrier
  | benchmarksDir => .ofText "benchmarks"
  | tag => "rxt"
  | binary => .ofText "zig-out/bin/rxt"
  | sourceRoots => [.ofText "rxt/src", .ofText "rx/src"]
  | sourceExtension => "zig"
  | buildCommand => ["zig", "build", "-Doptimize=ReleaseFast"]
  | runners => Table.empty
  | iterations => (100 : UInt32)
  | warmup => (5 : UInt32)
  | failedRuns => FailedRuns.record
  | pinCore => none

theorem get_default (item : Item) : item.get {} = item.default := by
  cases item <;> rfl

/-- Settings are their items. -/
theorem ext {s s' : Settings} (same : ∀ item : Item, item.get s = item.get s') : s = s' := by
  obtain ⟨d, ⟨t, b, r, e, c⟩, k, ⟨i, w, f, p⟩⟩ := s
  obtain ⟨d', ⟨t', b', r', e', c'⟩, k', ⟨i', w', f', p'⟩⟩ := s'
  cases same benchmarksDir
  cases same tag
  cases same binary
  cases same sourceRoots
  cases same sourceExtension
  cases same buildCommand
  cases same runners
  cases same iterations
  cases same warmup
  cases same failedRuns
  cases same pinCore
  rfl

/-- The table that an item has its key in; the document itself if it has none. -/
def table? : Item → Option String
  | benchmarksDir => none
  | tag => some "native"
  | binary => some "native"
  | sourceRoots => some "native"
  | sourceExtension => some "native"
  | buildCommand => some "native"
  | runners => none
  | iterations => some "sampling"
  | warmup => some "sampling"
  | failedRuns => some "sampling"
  | pinCore => some "sampling"

/-- The tables that items have their keys in. -/
def tables : List String := ["native", "sampling"]

theorem mem_tables {item : Item} {table : String} (inside : item.table? = some table) :
    table ∈ tables := by
  cases item <;> cases inside <;> decide

/-- The key of an item. -/
def key : Item → String
  | benchmarksDir => "benchmarks_dir"
  | tag => "tag"
  | binary => "binary"
  | sourceRoots => "source_roots"
  | sourceExtension => "source_extension"
  | buildCommand => "build_command"
  | runners => "runners"
  | iterations => "iterations"
  | warmup => "warmup"
  | failedRuns => "failed_runs"
  | pinCore => "pin_core"

/-- No two items have the same key. -/
theorem key_injective {item other : Item} (same : other.key = item.key) : other = item := by
  cases item <;> cases other <;> first | rfl | exact absurd same (by decide)

/-- No key is the name of a table. -/
theorem key_not_mem_tables (item : Item) : item.key ∉ tables := by
  cases item <;> decide

/-- The position of an item if its table is written as an array. -/
def position : Item → Nat
  | benchmarksDir => 0
  | tag => 0
  | binary => 1
  | sourceRoots => 2
  | sourceExtension => 3
  | buildCommand => 4
  | runners => 2
  | iterations => 0
  | warmup => 1
  | failedRuns => 2
  | pinCore => 3

/-- The value of an item that a value of the document stands for. -/
def decode : (item : Item) → Value → Option item.Carrier
  | benchmarksDir => path?
  | tag => text?
  | binary => path?
  | sourceRoots => list? path?
  | sourceExtension => text?
  | buildCommand => command?
  | runners => runners?
  | iterations => runs?
  | warmup => runs?
  | failedRuns => policy?
  | pinCore => core?

/-- What a document has for an item: the value of its own key, in its own table. -/
def written? (item : Item) (document : Toml.Fields) : Option Value :=
  match item.table? with
  | none => document.get? item.key
  | some table =>
    (document.get? table).bind fun value =>
      (Group.of? value).bind fun group => group.get? item.position item.key

theorem written?_top {item : Item} (top : item.table? = none) (document : Toml.Fields) :
    item.written? document = document.get? item.key := by
  rw [written?, top]

/-- An item inside a table is written under the key of the table, in a group with its own key or
at its own position. -/
theorem written?_inside {item : Item} {table : String} (inside : item.table? = some table)
    (document : Toml.Fields) :
    item.written? document =
      (document.get? table).bind fun value =>
        (Group.of? value).bind fun group => group.get? item.position item.key := by
  rw [written?, inside]

/-- The value of an item by what is written for it: what that stands for, or its default
if nothing is written. -/
def ofWritten (item : Item) : Option Value → Option item.Carrier
  | none => some item.default
  | some value => item.decode value

/-- The value of an item by a document. -/
def layer (item : Item) (document : Toml.Fields) : Option item.Carrier :=
  item.ofWritten (item.written? document)

end Item

/-! ## The settings of a document

The decoder goes table by table and the statement item by item.  In between stands
`field_eq_some_iff`: a group with a default is its items, whether the table is there or not.
-/

/-- The tables of a document are there as groups of settings, or not at all. -/
def Grouped (document : Toml.Fields) : Prop :=
  ∀ table ∈ Item.tables, ∀ value, document.get? table = some value →
    ∃ group, Group.of? value = some group

/-- The value of an item by a group. -/
def Group.layer (group : Group) (item : Item) : Option item.Carrier :=
  item.ofWritten (group.get? item.position item.key)

/-- The items of a table are what a group says of them. -/
def Group.Says (group : Group) (table : String) (settings : Settings) : Prop :=
  ∀ item : Item, item.table? = some table → group.layer item = some (item.get settings)

/-- The native table is accepted if it is a group that says what the settings hold. -/
theorem native?_eq_some_iff {value : Value} {settings : Settings} :
    native? value = some settings.native ↔
      ∃ group, Group.of? value = some group ∧ group.Says "native" settings := by
  simp only [native?, Option.bind_eq_bind, Option.bind_eq_some_iff]
  constructor
  · obtain ⟨directory, native, runners, sampling⟩ := settings
    rintro ⟨group, found, tag, tagged, binary, placed, roots, rooted, extension, extended,
      command, built, ⟨⟩⟩
    -- five items stand in this table, and no other item does
    refine ⟨group, found, fun item inside => ?_⟩
    cases item with
    | tag => exact tagged
    | binary => exact placed
    | sourceRoots => exact rooted
    | sourceExtension => exact extended
    | buildCommand => exact built
    | _ => exact absurd inside (by decide)
  · rintro ⟨group, found, said⟩
    exact ⟨group, found, _, said .tag rfl, _, said .binary rfl, _, said .sourceRoots rfl,
      _, said .sourceExtension rfl, _, said .buildCommand rfl, rfl⟩

/-- The sampling table is accepted if it is a group that says what the settings hold. -/
theorem sampling?_eq_some_iff {value : Value} {settings : Settings} :
    sampling? value = some settings.sampling ↔
      ∃ group, Group.of? value = some group ∧ group.Says "sampling" settings := by
  simp only [sampling?, Option.bind_eq_bind, Option.bind_eq_some_iff]
  constructor
  · obtain ⟨directory, native, runners, sampling⟩ := settings
    rintro ⟨group, found, iterations, counted, warmup, warmed, policy, treated, core, pinned,
      ⟨⟩⟩
    -- four items stand in this table
    refine ⟨group, found, fun item inside => ?_⟩
    cases item with
    | iterations => exact counted
    | warmup => exact warmed
    | failedRuns => exact treated
    | pinCore => exact pinned
    | _ => exact absurd inside (by decide)
  · rintro ⟨group, found, said⟩
    exact ⟨group, found, _, said .iterations rfl, _, said .warmup rfl,
      _, said .failedRuns rfl, _, said .pinCore rfl, rfl⟩

/-- The items of a table have their defaults. -/
def Untouched (table : String) (settings : Settings) : Prop :=
  ∀ item : Item, item.table? = some table → item.get settings = item.default

/-- The native settings are the default ones if all their items are untouched. -/
theorem native_eq_default_iff {settings : Settings} :
    settings.native = {} ↔ Untouched "native" settings := by
  obtain ⟨directory, ⟨tag, binary, roots, extension, command⟩, runners, sampling⟩ := settings
  constructor
  · rintro ⟨⟩ item inside
    cases item <;> first | rfl | exact absurd inside (by decide)
  · intro untouched
    cases untouched .tag rfl
    cases untouched .binary rfl
    cases untouched .sourceRoots rfl
    cases untouched .sourceExtension rfl
    cases untouched .buildCommand rfl
    rfl

/-- The sampling settings are the default ones if all their items are untouched. -/
theorem sampling_eq_default_iff {settings : Settings} :
    settings.sampling = {} ↔ Untouched "sampling" settings := by
  obtain ⟨directory, native, runners, ⟨iterations, warmup, policy, core⟩⟩ := settings
  constructor
  · rintro ⟨⟩ item inside
    cases item <;> first | rfl | exact absurd inside (by decide)
  · intro untouched
    cases untouched .iterations rfl
    cases untouched .warmup rfl
    cases untouched .failedRuns rfl
    cases untouched .pinCore rfl
    rfl

/-- A group with a default is its items, in the document and in the settings. -/
theorem field_eq_some_iff {α : Type} {document : Toml.Fields} {settings : Settings}
    {position : Nat} {table : String} {decode : Value → Option α} {default a : α}
    (present : ∀ {value}, decode value = some a ↔
      ∃ group, Group.of? value = some group ∧ group.Says table settings)
    (absent : a = default ↔ Untouched table settings) :
    (Group.named document).field position table decode default = some a ↔
      (∀ value, document.get? table = some value → ∃ group, Group.of? value = some group) ∧
        ∀ item : Item, item.table? = some table →
          item.layer document = some (item.get settings) := by
  rw [Group.field, Group.get?]
  cases found : document.get? table with
  | none =>
      -- no table: both sides say that its items have their defaults
      have layer : ∀ item : Item, item.table? = some table →
          item.layer document = some item.default := fun item inside => by
        rw [Item.layer, Item.written?_inside inside, found]
        rfl
      dsimp only
      rw [Option.some.injEq, eq_comm, absent]
      constructor
      · exact fun untouched => ⟨nofun, fun item inside =>
          (layer item inside).trans (congrArg some (untouched item inside).symm)⟩
      · exact fun layers item inside =>
          Option.some.inj ((layers.2 item inside).symm.trans (layer item inside))
  | some value =>
      -- a table: what the document has for its items is what this group has
      have layer : ∀ group, Group.of? value = some group → ∀ item : Item,
          item.table? = some table → item.layer document = group.layer item := by
        intro group grouped item inside
        rw [Item.layer, Item.written?_inside inside, found, Option.bind_some, grouped]
        rfl
      refine present.trans ⟨?_, ?_⟩
      · rintro ⟨group, grouped, said⟩
        exact ⟨fun _ same => ⟨group, Option.some.inj same ▸ grouped⟩,
          fun item inside => (layer group grouped item inside).trans (said item inside)⟩
      · rintro ⟨grouped, layers⟩
        obtain ⟨group, grouped⟩ := grouped value rfl
        exact ⟨group, grouped, fun item inside =>
          (layer group grouped item inside).symm.trans (layers item inside)⟩

/-- **The settings of a document, item by item.**  A document has settings exactly if its
tables are groups and every item has a value by the document, and that value is then the
value of the item in the settings. -/
theorem ofDocument?_eq_some_iff {document : Toml.Fields} {settings : Settings} :
    ofDocument? document = some settings ↔
      Grouped document ∧ ∀ item : Item, item.layer document = some (item.get settings) := by
  have native : (Group.named document).field 1 "native" native? {} = some settings.native ↔ _ :=
    field_eq_some_iff native?_eq_some_iff native_eq_default_iff
  have sampling :
      (Group.named document).field 3 "sampling" sampling? {} = some settings.sampling ↔ _ :=
    field_eq_some_iff sampling?_eq_some_iff sampling_eq_default_iff
  simp only [ofDocument?, Option.bind_eq_bind, Option.bind_eq_some_iff]
  constructor
  · obtain ⟨directory, nativeSettings, runners, samplingSettings⟩ := settings
    rintro ⟨directory, benchmarks, _, built, runners, run, _, sampled, ⟨⟩⟩
    obtain ⟨native, nativeItems⟩ := native.mp built
    obtain ⟨sampling, samplingItems⟩ := sampling.mp sampled
    constructor
    · intro table listed
      rcases List.mem_cons.mp listed with rfl | listed
      · exact native
      · exact List.mem_singleton.mp listed ▸ sampling
    · intro item
      -- an item of a table is decoded with its table, the other two stand at the top
      cases inside : item.table? with
      | none =>
          cases item with
          | benchmarksDir => exact benchmarks
          | runners => exact run
          | _ => exact absurd inside (by decide)
      | some table =>
          rcases List.mem_cons.mp (Item.mem_tables inside) with rfl | listed
          · exact nativeItems item inside
          · cases List.mem_singleton.mp listed
            exact samplingItems item inside
  · rintro ⟨grouped, layers⟩
    exact ⟨_, layers .benchmarksDir, _,
      native.mpr ⟨grouped _ (.head _), fun item _ => layers item⟩, _, layers .runners, _,
      sampling.mpr ⟨grouped _ (.tail _ (.head _)), fun item _ => layers item⟩, rfl⟩

/-- Settings are read off a document in one way. -/
theorem get_eq_of_written?_eq {document document' : Toml.Fields} {settings settings' : Settings}
    (read : ofDocument? document = some settings)
    (read' : ofDocument? document' = some settings') {item : Item}
    (same : item.written? document' = item.written? document) :
    item.get settings' = item.get settings := by
  have layers := (ofDocument?_eq_some_iff.mp read).2 item
  have layers' := (ofDocument?_eq_some_iff.mp read').2 item
  rw [Item.layer, same] at layers'
  exact Option.some.inj (layers'.symm.trans layers)

/-! ## Changing one key

Putting a key into a document makes its table if that is missing, and leaves all other keys
alone.  So the decoder, which is known item by item, changes its answer for one item only.
-/

/-- The fields with the value of a key replaced, or with the key removed. -/
def replace (fields : Toml.Fields) (key : String) (value? : Option Value) : Toml.Fields :=
  (value?.map fun value => (key, value)).toList ++ fields.filter fun f => f.1 ≠ key

theorem get?_replace (fields : Toml.Fields) (key other : String) (value? : Option Value) :
    (replace fields key value?).get? other =
      if other = key then value? else fields.get? other := by
  unfold replace Toml.Fields.get?
  rw [List.find?_append, List.find?_filter]
  split
  next same =>
    subst same
    cases value? <;> simp
  next different =>
    -- what is put at the end is under the key, so another one is not found there
    have front : ((value?.map fun value => (key, value)).toList.find? fun f => f.1 = other)
        = none := by
      cases value? <;> simp [Ne.symm different]
    rw [front, Option.none_or]
    congr 2
    funext f
    by_cases named : f.1 = other <;> simp [named, different]

/-- The fields of a table that may be missing. -/
def fieldsOf : Option Value → Toml.Fields
  | some (.table _ fields) => fields
  | _ => []

/-- The document with the key of an item changed or removed.  A table that is missing is
made. -/
def Item.put (item : Item) (value? : Option Value) (document : Toml.Fields) : Toml.Fields :=
  match item.table? with
  | none => replace document item.key value?
  | some table =>
    let inner := replace (fieldsOf (document.get? table)) item.key value?
    replace document table (some (.table .header inner))

/-- The tables of a document are written as tables. -/
def Tabled (document : Toml.Fields) : Prop :=
  ∀ table ∈ Item.tables, ∀ value, document.get? table = some value →
    ∃ origin fields, value = .table origin fields

namespace Item

/-- In a document whose tables are tables, an item inside one is written under its own key there.
-/
theorem written?_of_inside {item : Item} {table : String} (inside : item.table? = some table)
    {document : Toml.Fields} (tabled : Tabled document) :
    item.written? document = (fieldsOf (document.get? table)).get? item.key := by
  rw [written?_inside inside]
  cases found : document.get? table with
  | none => rfl
  | some value =>
      obtain ⟨origin, fields, rfl⟩ := tabled table (mem_tables inside) value found
      rfl

theorem tabled_put (item : Item) {document : Toml.Fields} (tabled : Tabled document)
    (value? : Option Value) : Tabled (item.put value? document) := by
  intro table listed value found
  unfold put at found
  cases inside : item.table? with
  | none =>
      -- an item at the top is not a table, so the tables are those of before
      have other : table ≠ item.key := fun same => item.key_not_mem_tables (same ▸ listed)
      rw [inside] at found
      simp only [get?_replace, if_neg other] at found
      exact tabled table listed value found
  | some own =>
      rw [inside] at found
      simp only [get?_replace] at found
      split at found
      · cases found
        exact ⟨_, _, rfl⟩
      · exact tabled table listed value found

/-- **Changing the key of an item** changes what the document has for this item, and what
it has for no other. -/
theorem written?_put (item : Item) {document : Toml.Fields} (tabled : Tabled document)
    (value? : Option Value) (other : Item) :
    other.written? (item.put value? document) =
      if other = item then value? else other.written? document := by
  have same_key : other.key = item.key ↔ other = item :=
    ⟨key_injective, congrArg key⟩
  cases otherInside : other.table? with
  | none =>
      rw [written?_top otherInside, written?_top otherInside]
      unfold put
      cases inside : item.table? with
      | none => simp only [get?_replace, same_key]
      | some table =>
          -- the changed field is a table, and no item has its key there
          have notTable : other.key ≠ table := fun same =>
            other.key_not_mem_tables (same ▸ mem_tables inside)
          have different : other ≠ item := fun same => by
            rw [same, inside] at otherInside
            cases otherInside
          simp only [get?_replace, if_neg notTable, if_neg different]
  | some otherTable =>
      rw [written?_of_inside otherInside (item.tabled_put tabled value?),
        written?_of_inside otherInside tabled]
      unfold put
      cases inside : item.table? with
      | none =>
          have notKey : otherTable ≠ item.key := fun same =>
            item.key_not_mem_tables (same ▸ mem_tables otherInside)
          have different : other ≠ item := fun same => by
            rw [same, inside] at otherInside
            cases otherInside
          simp only [get?_replace, if_neg notKey, if_neg different]
      | some table =>
          simp only [get?_replace]
          by_cases same : otherTable = table
          · simp only [same, if_true, fieldsOf, get?_replace, same_key]
          · -- the key that is changed is in the other table
            have different : other ≠ item := fun equal => by
              rw [equal, inside] at otherInside
              exact same (Option.some.inj otherInside).symm
            rw [if_neg same, if_neg different]

/-- The settings with these items. -/
def assemble (values : (item : Item) → item.Carrier) : Settings where
  benchmarksDir := values benchmarksDir
  native := ⟨values tag, values binary, values sourceRoots, values sourceExtension,
    values buildCommand⟩
  runners := values runners
  sampling := ⟨values iterations, values warmup, values failedRuns, values pinCore⟩

theorem get_assemble (values : (item : Item) → item.Carrier) (item : Item) :
    item.get (assemble values) = values item := by
  cases item <;> rfl

end Item

theorem Tabled.grouped {document : Toml.Fields} (tabled : Tabled document) :
    Grouped document := by
  intro table listed value found
  obtain ⟨origin, fields, rfl⟩ := tabled table listed value found
  exact ⟨_, rfl⟩

/-- A document whose items all have values has settings. -/
theorem exists_ofDocument? {document : Toml.Fields} (grouped : Grouped document)
    (layers : ∀ item : Item, ∃ value, item.layer document = some value) :
    ∃ settings, ofDocument? document = some settings := by
  choose values layers using layers
  exact ⟨Item.assemble values, ofDocument?_eq_some_iff.mpr
    ⟨grouped, fun item => by rw [layers, Item.get_assemble]⟩⟩

/-- **Changing one key** to a value of its kind, or removing it, leaves a document with
settings, and changes no item but its own. -/
theorem ofDocument?_put {document : Toml.Fields} {settings : Settings} (tabled : Tabled document)
    (read : ofDocument? document = some settings) (item : Item) {value? : Option Value}
    (fits : ∃ x, item.ofWritten value? = some x) :
    ∃ settings', ofDocument? (item.put value? document) = some settings' ∧
      item.ofWritten value? = some (item.get settings') ∧
      ∀ other ≠ item, other.get settings' = other.get settings := by
  have written := item.written?_put tabled value?
  -- every item has a value by the new document: its own item because it fits, the others as before
  have own : item.layer (item.put value? document) = item.ofWritten value? := by
    rw [Item.layer, written, if_pos rfl]
  obtain ⟨settings', read'⟩ : ∃ settings', ofDocument? (item.put value? document)
      = some settings' := by
    refine exists_ofDocument? (item.tabled_put tabled value?).grouped fun other => ?_
    by_cases same : other = item
    · rw [same, own]
      exact fits
    · rw [Item.layer, written, if_neg same]
      exact ⟨_, (ofDocument?_eq_some_iff.mp read).2 other⟩
  refine ⟨settings', read', ?_, fun other different => ?_⟩
  · exact own.symm.trans ((ofDocument?_eq_some_iff.mp read').2 item)
  · exact get_eq_of_written?_eq read read' (by rw [written, if_neg different])

/-! ## Documents that say nothing

No keys, or tables without keys.
-/

/-- A document without keys of items; its tables may be there, but are empty. -/
structure Blank (document : Toml.Fields) : Prop where
  directory : document.get? "benchmarks_dir" = none
  empty : ∀ table ∈ ["native", "runners", "sampling"], ∀ value,
    document.get? table = some value → ∃ origin, value = .table origin []

/-- **A document that says nothing is accepted**, with the default settings. -/
theorem ofDocument?_of_blank {document : Toml.Fields} (blank : Blank document) :
    ofDocument? document = some {} := by
  have inside : ∀ table ∈ Item.tables, table ∈ ["native", "runners", "sampling"] := by decide
  refine ofDocument?_eq_some_iff.mpr ⟨fun table listed value found => ?_, fun item => ?_⟩
  · obtain ⟨origin, rfl⟩ := blank.empty table (inside table listed) value found
    exact ⟨_, rfl⟩
  · rw [Item.layer, Item.get_default]
    -- an empty table gives its items their defaults, and so does a missing one
    cases own : item.table? with
    | some table =>
        rw [Item.written?_inside own]
        cases found : document.get? table with
        | none => rfl
        | some value =>
            obtain ⟨origin, rfl⟩ :=
              blank.empty table (inside table (Item.mem_tables own)) value found
            rfl
    | none =>
        cases item with
        | benchmarksDir =>
            rw [Item.written?_top own]
            exact congrArg (Item.ofWritten .benchmarksDir) blank.directory
        | runners =>
            rw [Item.written?_top own]
            cases found : document.get? "runners" with
            | none => exact congrArg (Item.ofWritten .runners) found
            | some value =>
                obtain ⟨origin, rfl⟩ := blank.empty "runners" (by decide) value found
                exact congrArg (Item.ofWritten .runners) found
        | _ => cases own

/-! ## The configuration of a project

A file that is there is read, and a missing one is an empty document.
-/

/-- The document that settings are read from: the one in the configuration file, or the
empty one if there is no such file. -/
def Reads (tree : Tree) (root : Path) (explicit : Option Path) (document : Toml.Fields) :
    Prop :=
  (source tree root explicit = .ok none ∧ document = []) ∨
    ∃ path bytes text, source tree root explicit = .ok (some path) ∧
      tree.read path = .ok bytes ∧ Utf8.decode? bytes = some text ∧
      Toml.document? text = some document

theorem blank_nil : Blank [] := ⟨rfl, fun _ _ _ found => by cases found⟩

theorem blank_tables :
    Blank (["native", "runners", "sampling"].map (·, .table .header [])) := by
  refine ⟨rfl, fun table listed value found => ?_⟩
  simp only [List.mem_cons, List.not_mem_nil, or_false] at listed
  rcases listed with rfl | rfl | rfl <;> cases found <;> exact ⟨_, rfl⟩

/-- A file is accepted as a configuration if it can be read, is a text, holds settings and these
have no fault. -/
theorem read_eq_ok_iff {tree : Tree} {path : Path} {settings : Settings} :
    read tree path = .ok settings ↔
      ∃ bytes text, tree.read path = .ok bytes ∧ Utf8.decode? bytes = some text ∧
        ofText? text = some settings ∧ settings.fault? = none := by
  unfold read
  constructor
  · intro answered
    split at answered
    · cases answered
    next bytes found =>
      split at answered
      · cases answered
      next text decoded =>
        split at answered
        · cases answered
        next settings spelled =>
          split at answered
          · -- the four things that can go wrong, in the order in which they are asked
            next fine =>
            cases answered
            exact ⟨bytes, text, found, decoded, spelled, fine⟩
          · cases answered
  · rintro ⟨bytes, text, found, decoded, spelled, fine⟩
    simp only [found, decoded, spelled, fine]

/-- **What can be loaded**: the settings of the document that there is to read, if they
have no fault. -/
theorem load_eq_ok_iff {tree : Tree} {root : Path} {explicit : Option Path}
    {settings : Settings} :
    load tree root explicit = .ok settings ↔
      ∃ document, Reads tree root explicit document ∧ ofDocument? document = some settings ∧
        settings.fault? = none := by
  unfold load Reads
  cases source tree root explicit with
  | error e => simp
  | ok path? =>
      cases path? with
      | none =>
          constructor
          · -- no file to read: the settings are those of the empty document
            rintro ⟨⟩
            exact ⟨[], .inl ⟨rfl, rfl⟩, ofDocument?_of_blank blank_nil, by cbv⟩
          · rintro ⟨_, ⟨-, rfl⟩ | ⟨_, _, _, named, -⟩, spelled, -⟩
            · exact congrArg Except.ok
                (Option.some.inj ((ofDocument?_of_blank blank_nil).symm.trans spelled))
            · cases named
      | some path =>
          refine read_eq_ok_iff.trans ⟨?_, ?_⟩
          · rintro ⟨bytes, text, found, decoded, spelled, fine⟩
            obtain ⟨document, written, given⟩ := Option.bind_eq_some_iff.mp spelled
            exact ⟨document, .inr ⟨path, bytes, text, rfl, found, decoded, written⟩, given,
              fine⟩
          · rintro ⟨document, ⟨missing, -⟩ | ⟨_, bytes, text, ⟨⟩, found, decoded, written⟩,
              given, fine⟩
            · cases missing
            · exact ⟨bytes, text, found, decoded,
                Option.bind_eq_some_iff.mpr ⟨document, written, given⟩, fine⟩

/-! ## The effective settings

The third layer is the command line.  What is proved of a run with it is read off the
options, which are made in one place.
-/

/-- What the command line says about an item. -/
def Item.flag? : (item : Item) → CommandLine → Option item.Carrier
  | iterations, c => c.iterations
  | warmup, c => c.warmup
  | failedRuns, c => c.failedRuns
  | pinCore, c => c.pinCore.map some
  | _, _ => none

/-- The value of an item in a run. -/
def Item.effective : (item : Item) → Settings → RunOptions → item.Carrier
  | iterations, _, options => options.plan.iterations
  | warmup, _, options => options.plan.warmup
  | failedRuns, _, options => options.plan.failedRuns
  | pinCore, _, options => options.pinCore
  | item, settings, _ => item.get settings

/-- The command line stands in front of the settings. -/
theorem Item.effective_options (item : Item) (settings : Settings) (c : CommandLine)
    (root : Path) :
    item.effective settings (c.options root settings)
      = (item.flag? c).getD (item.get settings) := by
  cases item with
  | pinCore =>
      obtain ⟨_, _, _, _, _, _, _, core, _, _, _⟩ := c
      cases core <;> rfl
  | _ => rfl

/-- **Settings in layers.**

* The value of an item in a run is what the command line says about it, or else what its
  own key stands for, or else its default.
* An item depends on its own option and its own key alone, so that changing one of them,
  or an unknown key, changes no other item.  Any key can be changed to any value of its
  kind, and removed.
* What is loaded are the settings of the document that there is to read, if they have no
  fault.
* Without a file, and if the document says nothing, all items have their defaults, and
  these have no fault.  A file without text says nothing, and neither do empty tables.
* Apart from the options a run does not look at the settings for sampling. -/
theorem layered :
    (∀ (document : Toml.Fields) (settings : Settings),
      ofDocument? document = some settings →
      ∀ (c : CommandLine) (root : Path) (item : Item),
        let effective := item.effective settings (c.options root settings)
        match item.flag? c, item.written? document with
        | some value, _ => effective = value
        | none, some value => item.decode value = some effective
        | none, none => effective = item.default) ∧
    (∀ (settings : Settings) (c c' : CommandLine) (root root' : Path) (item : Item),
      item.flag? c' = item.flag? c →
      item.effective settings (c'.options root' settings)
        = item.effective settings (c.options root settings)) ∧
    (∀ (document document' : Toml.Fields) (settings settings' : Settings) (item : Item),
      ofDocument? document = some settings → ofDocument? document' = some settings' →
      item.written? document' = item.written? document →
      item.get settings' = item.get settings) ∧
    (∀ (document : Toml.Fields) (settings : Settings) (item : Item) (value? : Option Value),
      Tabled document → ofDocument? document = some settings →
      (∃ x, item.ofWritten value? = some x) →
      ∃ settings', ofDocument? (item.put value? document) = some settings' ∧
        item.ofWritten value? = some (item.get settings') ∧
        ∀ other ≠ item, other.get settings' = other.get settings) ∧
    (∀ (tree : Tree) (root : Path) (explicit : Option Path) (settings : Settings),
      load tree root explicit = .ok settings ↔
        ∃ document, Reads tree root explicit document ∧
          ofDocument? document = some settings ∧ settings.fault? = none) ∧
    (∀ (tree : Tree) (root : Path) (explicit : Option Path) (document : Toml.Fields),
      Reads tree root explicit document → Blank document →
      load tree root explicit = .ok {}) ∧
    (∀ text ∈ ["", "[native]\n[runners]\n[sampling]\n"],
      ∃ document, Toml.document? text = some document ∧ Blank document) ∧
    ({} : Settings).fault? = none ∧
    ∀ (σ : Type) (host : Host σ) (settings : Settings) (sampling : SamplingSettings)
      (options : RunOptions) (state : RunState σ),
      runBenchmarks host { settings with sampling } options state
        = runBenchmarks host settings options state := by
  refine ⟨?rule, ?own_flag, fun _ _ _ _ _ read read' => get_eq_of_written?_eq read read',
    fun _ _ item _ tabled read => ofDocument?_put tabled read item,
    fun _ _ _ _ => load_eq_ok_iff, ?blank, ?texts, by cbv, fun _ _ _ _ _ _ => rfl⟩
  -- a given flag wins; the layers below are those of the document
  case rule =>
    intro document settings read c root item effective
    have value : effective = (item.flag? c).getD (item.get settings) :=
      item.effective_options settings c root
    have layer := (ofDocument?_eq_some_iff.mp read).2 item
    rw [Item.layer] at layer
    cases said : item.flag? c with
    | some value' => rw [value, said]; rfl
    | none =>
        rw [said, Option.getD_none] at value
        rw [value]
        cases written : item.written? document with
        | some value' => rwa [written] at layer
        | none =>
            rw [written] at layer
            exact (Option.some.inj layer).symm
  case own_flag =>
    intro settings c c' root root' item same
    rw [Item.effective_options, Item.effective_options, same]
  case blank =>
    intro tree root explicit document reads blank
    exact load_eq_ok_iff.mpr ⟨document, reads, ofDocument?_of_blank blank, by cbv⟩
  case texts =>
    intro text listed
    rcases List.mem_cons.mp listed with rfl | listed
    · exact ⟨[], by cbv, blank_nil⟩
    · cases List.mem_singleton.mp listed
      exact ⟨["native", "runners", "sampling"].map (·, .table .header []), by cbv,
        blank_tables⟩

end CrossBench.Settings
