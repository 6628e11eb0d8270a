import CrossBench.Proofs.Text.Utf8
import CrossBench.Settings.Basic

/-!
# What is bound

A registry is a table, and a table is determined by its answers.  So the order in which
it was filled does not matter further than this: of the bindings of one key, the last
one holds.

* `LastBinds` — the last binding of a key in a list.
* `Table.ext_get?` — tables that answer alike are equal; `Table.insert_comm` and
  `Table.insert_insert` are two cases of it.
* `Table.Holds` — a table holds a history of bindings.  One more binding keeps this
  (`Table.Holds.insert`), and so does any number of them (`Table.Holds.insertAll`).
* `Registry.maps_every_history` — a registry after everything that was ever bound in it.
* `Settings.registry_of_runners` — the registry that a project's settings stand for.

The keys of the settings name a runtime in several ways, `.sh` and `..sh` as well as
`sh`.  They come in ascending order, so the greatest of them is bound last and is the one
that counts (`Table.lastBinds_map_iff`).
-/

namespace CrossBench

/-- The last binding of `k` in a list of bindings is the one to `v`. -/
def LastBinds {α β : Type} (bindings : List (α × β)) (k : α) (v : β) : Prop :=
  ∃ before after, bindings = before ++ (k, v) :: after ∧ ∀ b ∈ after, b.1 ≠ k

namespace LastBinds

variable {α β : Type} {bindings : List (α × β)} {k : α} {v : β}

theorem mem (last : LastBinds bindings k v) : (k, v) ∈ bindings := by
  obtain ⟨before, after, rfl, -⟩ := last
  simp

theorem singleton_iff {b : α × β} : LastBinds [b] k v ↔ b = (k, v) := by
  refine ⟨fun last => (List.mem_singleton.mp last.mem).symm, ?_⟩
  rintro rfl
  exact ⟨[], [], rfl, nofun⟩

/-- What is bound later hides what was bound before. -/
theorem append_iff {first second : List (α × β)} :
    LastBinds (first ++ second) k v ↔
      LastBinds second k v ∨ (∀ b ∈ second, b.1 ≠ k) ∧ LastBinds first k v := by
  constructor
  · rintro ⟨before, after, split, none⟩
    rcases List.append_eq_append_iff.mp split with ⟨between, rfl, rfl⟩ | ⟨between, rfl, rest⟩
    · exact .inl ⟨between, after, rfl, none⟩
    · -- the last binding is in the first list: then none of the second is of the key
      cases between with
      | nil => exact .inl ⟨[], after, rest.symm, none⟩
      | cons b between =>
          obtain ⟨rfl, rfl⟩ := List.cons_eq_cons.mp rest
          obtain ⟨here, later⟩ := List.forall_mem_append.mp none
          exact .inr ⟨later, before, between, rfl, here⟩
  · rintro (⟨before, after, rfl, none⟩ | ⟨later, before, after, rfl, none⟩)
    · exact ⟨first ++ before, after, by simp, none⟩
    · exact ⟨before, after ++ second, by simp, List.forall_mem_append.mpr ⟨none, later⟩⟩

/-- A key that is bound at all is bound a last time. -/
theorem exists_of_mem {b : α × β} (mem : b ∈ bindings) : ∃ v, LastBinds bindings b.1 v := by
  induction bindings using List.reverseRecOn with
  | nil => cases mem
  | append_singleton rest c ih =>
      by_cases same : c.1 = b.1
      · exact ⟨c.2, append_iff.mpr (.inl (singleton_iff.mpr (Prod.ext same rfl)))⟩
      · have earlier : b ∈ rest := (List.mem_append.mp mem).resolve_right fun last =>
          same (congrArg Prod.fst (List.mem_singleton.mp last).symm)
        obtain ⟨v, last⟩ := ih earlier
        exact ⟨v, append_iff.mpr (.inr ⟨List.forall_mem_singleton.mpr same, last⟩)⟩

/-- If no key is bound twice, each binding is the last one of its key. -/
theorem iff_mem (distinct : (bindings.map (·.1)).Nodup) :
    LastBinds bindings k v ↔ (k, v) ∈ bindings := by
  refine ⟨mem, fun mem => ?_⟩
  obtain ⟨before, after, rfl⟩ := List.append_of_mem mem
  refine ⟨before, after, rfl, fun b later same => ?_⟩
  rw [List.map_append, List.map_cons, List.nodup_append, List.nodup_cons] at distinct
  exact distinct.2.1.1 (List.mem_map.mpr ⟨b, later, same⟩)

end LastBinds

namespace Table

variable {α β : Type} [LT α]

/-- The keys of a table are in strictly ascending order. -/
theorem keys_ascending (t : Table α β) : t.keys.Pairwise (· < ·) :=
  List.pairwise_map.mpr t.ascending

theorem keys_nodup [LE α] [Std.LawfulOrderLT α] (t : Table α β) : t.keys.Nodup :=
  t.keys_ascending.imp Std.ne_of_lt

variable [DecidableEq α]

/-- The table holds what was bound, and of the bindings of one key the last one. -/
def Holds (t : Table α β) (history : List (α × β)) : Prop :=
  ∀ k v, t.get? k = some v ↔ LastBinds history k v

theorem Holds.empty : (Table.empty : Table α β).Holds [] := by
  intro k v
  exact iff_of_false nofun fun last => List.not_mem_nil last.mem

/-- A key that no binding of the history mentions is not in the table. -/
theorem Holds.get?_eq_none {t : Table α β} {history : List (α × β)} (holds : t.Holds history)
    {k : α} (unbound : ∀ b ∈ history, b.1 ≠ k) : t.get? k = none := by
  refine Option.eq_none_iff_forall_ne_some.mpr fun v found => ?_
  exact unbound _ ((holds k v).mp found).mem rfl

variable [LE α] [Std.LawfulOrderLT α]

/-- Looking up a key finds the entry with this key, of which there is only one. -/
theorem get?_eq_some_iff {t : Table α β} {k : α} {v : β} :
    t.get? k = some v ↔ (k, v) ∈ t.entries := by
  unfold get?
  constructor
  · intro found
    obtain ⟨e, first, rfl⟩ := Option.map_eq_some_iff.mp found
    have key : e.1 = k := by simpa using List.find?_some first
    exact key ▸ List.mem_of_find?_eq_some first
  · intro mem
    have some : ∃ e, t.entries.find? (fun e => e.1 = k) = some e := by
      rw [← Option.isSome_iff_exists, List.find?_isSome]
      exact ⟨_, mem, by simp⟩
    obtain ⟨e, first⟩ := some
    have key : e.1 = k := by simpa using List.find?_some first
    -- no two entries have one key
    have same : e = (k, v) := List.inj_on_of_nodup_map t.keys_nodup
      (List.mem_of_find?_eq_some first) mem key
    rw [first, same]
    rfl

theorem mem_keys_iff {t : Table α β} {k : α} : k ∈ t.keys ↔ ∃ v, t.get? k = some v := by
  simp [keys, get?_eq_some_iff]

/-- The keys of a table are those that its history mentions. -/
theorem Holds.mem_keys_iff {t : Table α β} {history : List (α × β)} (holds : t.Holds history)
    {k : α} : k ∈ t.keys ↔ ∃ b ∈ history, b.1 = k := by
  rw [Table.mem_keys_iff]
  constructor
  · rintro ⟨v, found⟩
    exact ⟨(k, v), ((holds k v).mp found).mem, rfl⟩
  · rintro ⟨b, mem, rfl⟩
    obtain ⟨v, last⟩ := LastBinds.exists_of_mem mem
    exact ⟨v, (holds _ v).mpr last⟩

variable [Std.IsLinearOrder α]

/-- **Tables that answer alike are equal**: their entries are the same ones, and in the
same order. -/
theorem ext_get? {s t : Table α β} (same : ∀ k, s.get? k = t.get? k) : s = t := by
  have perm : s.entries.Perm t.entries := by
    refine (List.perm_ext_iff_of_nodup ?_ ?_).mpr fun e => ?_
    · exact List.Nodup.of_map _ s.keys_nodup
    · exact List.Nodup.of_map _ t.keys_nodup
    · rw [← get?_eq_some_iff, ← get?_eq_some_iff, same]
  have entries : s.entries = t.entries := by
    refine perm.eq_of_pairwise (fun a b _ _ less more => ?_) s.ascending t.ascending
    exact absurd (Std.lt_trans less more) Std.lt_irrefl
  cases s
  cases t
  cases entries
  rfl

/-- Where the keys of a table are read under other names, the greatest key of a name is
the one that counts. -/
theorem lastBinds_map_iff {γ : Type} (t : Table α β) (name : α → γ) {x : γ} {v : β} :
    LastBinds (t.entries.map fun e => (name e.1, e.2)) x v ↔
      ∃ k, t.get? k = some v ∧ name k = x ∧ ∀ other ∈ t.keys, name other = x → other ≤ k := by
  constructor
  · rintro ⟨front, back, split, none⟩
    obtain ⟨before, rest, entries, -, named⟩ := List.map_eq_append_iff.mp split
    obtain ⟨e, after, rfl, same, rfl⟩ := List.map_eq_cons_iff.mp named
    obtain ⟨rfl, rfl⟩ := Prod.mk.inj same
    refine ⟨e.1, get?_eq_some_iff.mpr (by simp [entries]), rfl, fun other bound alike => ?_⟩
    obtain ⟨d, mem, rfl⟩ := List.mem_map.mp bound
    -- the entries ascend, so the last of those with the name has the greatest key
    have sorted := t.ascending
    rw [entries, List.pairwise_append] at sorted
    rw [entries, List.mem_append, List.mem_cons] at mem
    rcases mem with earlier | rfl | later
    · exact Std.le_of_lt (sorted.2.2 d earlier e List.mem_cons_self)
    · exact Std.le_refl _
    · exact absurd alike (none _ (List.mem_map_of_mem later))
  · rintro ⟨k, found, rfl, greatest⟩
    obtain ⟨before, after, entries⟩ := List.append_of_mem (get?_eq_some_iff.mp found)
    have sorted := t.ascending
    rw [entries, List.pairwise_append, List.pairwise_cons] at sorted
    refine ⟨before.map fun e => (name e.1, e.2), after.map fun e => (name e.1, e.2), ?_, ?_⟩
    · rw [entries, List.map_append, List.map_cons]
    · intro b mem alike
      obtain ⟨e, later, rfl⟩ := List.mem_map.mp mem
      have bound : e.1 ∈ t.keys := List.mem_map_of_mem (entries ▸ by simp [later])
      exact Std.not_le.mpr (sorted.2.1.1 e later) (greatest e.1 bound alike)

variable [DecidableLT α]

theorem insert_comm (t : Table α β) {a b : α} (other : a ≠ b) (x y : β) :
    (t.insert a x).insert b y = (t.insert b y).insert a x := by
  refine ext_get? fun k => ?_
  simp only [get?_insert]
  by_cases first : a = k
  · rw [if_neg (first ▸ Ne.symm other), if_pos first, if_pos first]
  · rw [if_neg first, if_neg first]

/-- Of two bindings of a key in a row, only the second counts. -/
theorem insert_insert (t : Table α β) (a : α) (x y : β) :
    (t.insert a x).insert a y = t.insert a y := by
  refine ext_get? fun k => ?_
  simp only [get?_insert]
  by_cases same : a = k
  · rw [if_pos same, if_pos same]
  · rw [if_neg same, if_neg same, if_neg same]

/-- The table with more bindings, one after the other. -/
def insertAll (t : Table α β) (bindings : List (α × β)) : Table α β :=
  bindings.foldl (fun t b => t.insert b.1 b.2) t

/-! ## Histories

The invariant of a table that is filled: it answers each key with the last binding of its
history.
-/

namespace Holds

variable {t : Table α β} {history : List (α × β)}

/-- One binding more is one step of the history. -/
theorem insert (holds : t.Holds history) (a : α) (x : β) :
    (t.insert a x).Holds (history ++ [(a, x)]) := by
  intro k v
  rw [get?_insert, LastBinds.append_iff, LastBinds.singleton_iff, List.forall_mem_singleton]
  by_cases same : a = k
  · simp [same]
  · simp [same, holds k v]

/-- A table that holds a history and takes further bindings holds the longer history. -/
theorem insertAll (holds : t.Holds history) (bindings : List (α × β)) :
    (t.insertAll bindings).Holds (history ++ bindings) := by
  induction bindings generalizing t history with
  | nil => rwa [List.append_nil]
  | cons b rest ih =>
      have step := ih (holds.insert b.1 b.2)
      rwa [List.append_assoc] at step

/-- A table made of bindings holds these as its history. -/
theorem ofList (bindings : List (α × β)) : (ofList bindings).Holds bindings :=
  Holds.empty.insertAll bindings

end Holds

/-- Bindings in ascending order are the entries of their table. -/
theorem entries_ofList {bindings : List (α × β)}
    (ascending : bindings.Pairwise fun a b => a.1 < b.1) :
    (ofList bindings).entries = bindings := by
  let direct : Table α β := ⟨bindings, ascending⟩
  have same : ofList bindings = direct := by
    refine ext_get? fun k => Option.ext fun v => ?_
    rw [Holds.ofList bindings k v, get?_eq_some_iff]
    exact LastBinds.iff_mem direct.keys_nodup
  rw [same]

end Table

/-! ## Registries

A registry is a table of runners by tags, and what it answers depends on the runner alone.
So what has been said of tables carries over.
-/

/-- The answer that a runner stands for. -/
def Runner.answer : Runner → Lookup
  | .available command => .available command
  | .unavailable reason => .disabled reason

namespace Registry

/-- What is answered about a tag depends on its runner only. -/
theorem lookup_eq (r : Registry) (tag : Tag) :
    r.lookup tag = (r.get? tag).elim .unsupported Runner.answer := by
  rw [lookup]
  rcases r.get? tag with _ | _ | _ <;> rfl

/-- The registry with more bindings, one after the other. -/
def bindAll (r : Registry) (calls : List (Tag × Runner)) : Registry :=
  calls.foldl (fun r call => r.bind call.1 call.2) r

theorem runners_bindAll (r : Registry) (calls : List (Tag × Runner)) :
    (r.bindAll calls).runners = r.runners.insertAll calls := by
  induction calls generalizing r with
  | nil => rfl
  | cons call rest ih => exact ih (r.bind call.1 call.2)

/-- The bindings that extensions with their commands stand for. -/
def configured (commands : List (String × Command)) : List (Tag × Runner) :=
  commands.map fun c => (Tag.ofExtension c.1, runnerOf c.2)

/-- A registry made of commands is the empty one after a call for each of them. -/
theorem ofCommands_eq (commands : List (String × Command)) :
    ofCommands commands = empty.bindAll (configured commands) := by
  rw [bindAll, configured, List.foldl_map]
  rfl

theorem runners_ofCommands (commands : List (String × Command)) :
    (ofCommands commands).runners = .ofList (configured commands) := by
  rw [ofCommands_eq, runners_bindAll]
  rfl

/-- A command is answered if it is the command of the runner. -/
theorem lookup_eq_available_iff {r : Registry} {tag : Tag} {command : Command} :
    r.lookup tag = .available command ↔ r.get? tag = some (.available command) := by
  rw [lookup_eq]
  rcases r.get? tag with _ | _ | _ <;> simp [Runner.answer]

/-- A reason is answered if it is the reason of the runner. -/
theorem lookup_eq_disabled_iff {r : Registry} {tag : Tag} {reason : String} :
    r.lookup tag = .disabled reason ↔ r.get? tag = some (.unavailable reason) := by
  rw [lookup_eq]
  rcases r.get? tag with _ | _ | _ <;> simp [Runner.answer]

theorem lookup_eq_unsupported_iff {r : Registry} {tag : Tag} :
    r.lookup tag = .unsupported ↔ r.get? tag = none := by
  rw [lookup_eq]
  rcases r.get? tag with _ | _ | _ <;> simp [Runner.answer]

/-- A registry as a finite map of tags, in which a history of bindings has been made. -/
structure Maps (r : Registry) (history : List (Tag × Runner)) : Prop where
  /-- The last binding of a tag decides how it is run. -/
  last : ∀ tag runner, LastBinds history tag runner → r.lookup tag = runner.answer
  /-- A tag without a binding is not run. -/
  unbound : ∀ tag, (∀ b ∈ history, b.1 ≠ tag) → r.lookup tag = .unsupported
  available : ∀ tag command,
    r.lookup tag = .available command ↔ r.get? tag = some (.available command)
  disabled : ∀ tag reason,
    r.lookup tag = .disabled reason ↔ r.get? tag = some (.unavailable reason)
  unsupported : ∀ tag, r.lookup tag = .unsupported ↔ r.get? tag = none
  /-- The tags are listed in the order of their bytes. -/
  ascending : r.tags.Pairwise fun a b => Utf8.encode a.text < Utf8.encode b.text
  once : r.tags.Nodup
  bound : ∀ tag, tag ∈ r.tags ↔ ∃ b ∈ history, b.1 = tag
  undotted : ∀ tag ∈ r.tags, tag.text.toList.head? ≠ some '.'
  /-- It does not matter which of two tags is bound first. -/
  commutes : ∀ a b x y, a ≠ b → (r.bind a x).bind b y = (r.bind b y).bind a x
  /-- A binding erases the one that the tag had before. -/
  erases : ∀ a x y, (r.bind a x).bind a y = r.bind a y
  /-- A binding is about its own tag only. -/
  frames : ∀ tag runner other, other ≠ tag → (r.bind tag runner).lookup other = r.lookup other

/-- A registry whose table holds a history maps tags as the history says. -/
theorem maps_of_holds {r : Registry} {history : List (Tag × Runner)}
    (holds : r.runners.Holds history) : r.Maps history where
  last tag runner last := by
    have found : r.get? tag = some runner := (holds tag runner).mpr last
    rw [lookup_eq, found]
    rfl
  unbound tag none := lookup_eq_unsupported_iff.mpr (holds.get?_eq_none none)
  available _ _ := lookup_eq_available_iff
  disabled _ _ := lookup_eq_disabled_iff
  unsupported _ := lookup_eq_unsupported_iff
  ascending := r.runners.keys_ascending.imp Utf8.encode_lt_encode_iff.mpr
  once := r.runners.keys_nodup
  bound _ := holds.mem_keys_iff
  undotted tag _ := tag.undotted
  commutes a b x y apart := congrArg Registry.mk (r.runners.insert_comm apart x y)
  erases a x y := congrArg Registry.mk (r.runners.insert_insert a x y)
  frames tag runner other apart := by
    rw [lookup_eq, lookup_eq, get?_bind, if_neg (Ne.symm apart)]

/-- **A registry is a finite map**, whatever was bound in it: extensions with their
commands first, and then one tag after the other. -/
theorem maps_every_history (commands : List (String × Command)) (calls : List (Tag × Runner)) :
    ((ofCommands commands).bindAll calls).Maps (configured commands ++ calls) := by
  refine maps_of_holds ?_
  rw [runners_bindAll, runners_ofCommands]
  exact (Table.Holds.ofList _).insertAll calls

/-- Commands by distinct extensions, ascending and without leading dots, are bound as
they are listed. -/
theorem entries_ofCommands {commands : Table String Command}
    (trimmed : ∀ k ∈ commands.keys, trimLeadingDots k = k) :
    (ofCommands commands.entries).runners.entries = configured commands.entries := by
  rw [runners_ofCommands]
  refine Table.entries_ofList (List.pairwise_map.mpr ?_)
  refine commands.ascending.imp_of_mem fun {a b} here there less => ?_
  show trimLeadingDots a.1 < trimLeadingDots b.1
  rwa [trimmed a.1 (List.mem_map_of_mem here), trimmed b.1 (List.mem_map_of_mem there)]

/-- Under keys that are extensions already, the tag of a key has the runner of its command. -/
theorem get?_ofCommands {commands : Table String Command}
    (trimmed : ∀ k ∈ commands.keys, trimLeadingDots k = k) (tag : Tag) :
    (ofCommands commands.entries).get? tag = (commands.get? tag.text).map runnerOf := by
  refine Option.ext fun runner => ?_
  rw [get?, Table.get?_eq_some_iff, entries_ofCommands trimmed, Option.map_eq_some_iff]
  constructor
  · intro mem
    obtain ⟨e, among, same⟩ := List.mem_map.mp mem
    obtain ⟨rfl, rfl⟩ := Prod.mk.inj same
    refine ⟨e.2, Table.get?_eq_some_iff.mpr ?_, rfl⟩
    show (trimLeadingDots e.1, e.2) ∈ commands.entries
    rwa [trimmed e.1 (List.mem_map_of_mem among)]
  · rintro ⟨command, found, rfl⟩
    refine List.mem_map.mpr ⟨_, Table.get?_eq_some_iff.mp found, ?_⟩
    have same : Tag.ofExtension tag.text = tag :=
      Tag.ext_text (trimLeadingDots_of_undotted tag.undotted)
    rw [same]

/-- Under keys that are extensions already, the tags are the keys. -/
theorem texts_ofCommands {commands : Table String Command}
    (trimmed : ∀ k ∈ commands.keys, trimLeadingDots k = k) :
    (ofCommands commands.entries).tags.map (·.text) = commands.keys := by
  rw [tags, Table.keys, entries_ofCommands trimmed, configured, List.map_map, List.map_map]
  exact List.map_congr_left fun e mem => trimmed e.1 (List.mem_map_of_mem mem)

end Registry

/-! ## The settings of a project

The interpreters that are built in are bound first and those of the settings behind them,
under their keys without leading dots.  So this is where two keys can meet.
-/

namespace Settings

/-- The interpreters are a table of bindings: first those that are built in, then those of the
settings. -/
theorem interpreterCommands_eq (s : Settings) :
    s.interpreterCommands = (Table.ofList builtinInterpreters).insertAll
      (s.runners.entries.map fun e => (trimLeadingDots e.1, e.2)) := by
  rw [Table.insertAll, List.foldl_map]
  rfl

theorem interpreterCommands_holds (s : Settings) :
    s.interpreterCommands.Holds (builtinInterpreters ++
      s.runners.entries.map fun e => (trimLeadingDots e.1, e.2)) := by
  rw [interpreterCommands_eq]
  exact (Table.Holds.ofList _).insertAll _

theorem trimmed_of_mem_interpreterCommands {s : Settings} {k : String}
    (bound : k ∈ s.interpreterCommands.keys) : trimLeadingDots k = k := by
  obtain ⟨b, mem, rfl⟩ := s.interpreterCommands_holds.mem_keys_iff.mp bound
  rcases List.mem_append.mp mem with builtin | own
  · have each : ∀ b ∈ builtinInterpreters, trimLeadingDots b.1 = b.1 := by decide
    exact each b builtin
  · obtain ⟨e, -, rfl⟩ := List.mem_map.mp own
    exact trimLeadingDots_of_undotted (Tag.ofExtension e.1).undotted

/-- **The registry of a project.**  The text of a tag is an extension without leading
dots.  Of the keys that name it the one with the greatest bytes has its command; if there
is none, a built-in interpreter may have one. -/
theorem registry_of_runners (s : Settings) :
    (∀ (tag : Tag) (command : Command),
      s.interpreterCommands.get? tag.text = some command ↔
        (∃ key, s.runners.get? key = some command ∧ trimLeadingDots key = tag.text ∧
          ∀ other ∈ s.runners.keys, trimLeadingDots other = tag.text →
            Utf8.encode other ≤ Utf8.encode key) ∨
        (∀ key ∈ s.runners.keys, trimLeadingDots key ≠ tag.text) ∧
          (tag.text, command) ∈ builtinInterpreters) ∧
    (∀ tag : Tag, s.registry.lookup tag =
      match s.interpreterCommands.get? tag.text with
      | some [] => .disabled "disabled in config"
      | some (program :: arguments) => .available (program :: arguments)
      | none => .unsupported) ∧
    s.registry.tags.map (·.text) = s.interpreterCommands.keys := by
  have trimmed : ∀ k ∈ s.interpreterCommands.keys, trimLeadingDots k = k :=
    fun k => trimmed_of_mem_interpreterCommands
  refine ⟨fun tag command => ?_, fun tag => ?_, Registry.texts_ofCommands trimmed⟩
  · -- no interpreter that is built in is there twice, so being the last one is being there
    have distinct : (builtinInterpreters.map (·.1)).Nodup := by decide
    rw [s.interpreterCommands_holds, LastBinds.append_iff, Table.lastBinds_map_iff,
      LastBinds.iff_mem distinct, List.forall_mem_map]
    simp only [Utf8.encode_le_encode_iff, Table.keys, List.forall_mem_map]
  · rw [Registry.lookup_eq, registry, Registry.get?_ofCommands trimmed]
    rcases s.interpreterCommands.get? tag.text with _ | _ | _ <;> rfl

example : ({ runners := .ofList [("..sh", ["zsh"]), ("sh", []), (".sh", ["dash"])] } :
    Settings).registry.lookup (.ofExtension "sh") = .disabled "disabled in config" := by decide

end Settings

end CrossBench
