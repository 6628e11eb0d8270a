import CrossBench.Proofs.Files.Descent

/-!
# Trees in another order

A system may enumerate the entries of a directory in any order, and the order shows in
two places only: in a listing of the directory, and in the order of a walk.  Everything
else that can be asked of a tree goes by names.

* `Node.Reordered` — the same node at every location, but for the order in which
  directories enumerate their entries.  `Node.Reordered.perm` and `Node.Reordered.entries`
  say that reordering a directory, or what is below its entries, is what it is called.
* `Tree.Reordered.find` — a path leads to the same place in both trees, and to the same node
  there, up to the order of its entries.
* `Tree.Reordered.list` — a listing has the same names, and `Tree.Reordered.mem_regularFiles`
  — a walk finds the same files.
-/

namespace CrossBench

namespace Node

/-! ## Locations

A location is a list of names from the top, and what is there is found name by name,
whatever the order of the entries.
-/

theorem at?_append (node : Node) (front rest : Location) :
    node.at? (front ++ rest) = (node.at? front).bind (·.at? rest) := by
  induction front generalizing node with
  | nil => rfl
  | cons n front ih =>
      rw [List.cons_append, at?, at?]
      cases node.entry? n with
      | none => rfl
      | some child => exact ih child

/-- What is at a name in a directory. -/
theorem at?_concat {node directory : Node} {location : Location}
    (found : node.at? location = some directory) (n : FileName) :
    node.at? (location ++ [n]) = directory.entry? n := by
  rw [at?_append, found]
  cases entry : directory.entry? n <;> simp [at?, entry]

/-- What is found under a name is one of the entries. -/
theorem mem_entries {node child : Node} {n : FileName} (found : node.entry? n = some child) :
    (n, child) ∈ node.entries := by
  obtain ⟨⟨m, other⟩, entry, rfl⟩ := Option.map_eq_some_iff.mp found
  have same : m = n := by simpa using List.find?_some entry
  exact same ▸ List.mem_of_find?_eq_some entry

/-- Where no name is given twice, an entry is what its name finds. -/
theorem entry?_eq_some_iff {node child : Node} {n : FileName}
    (distinct : (node.entries.map Prod.fst).Nodup) :
    node.entry? n = some child ↔ (n, child) ∈ node.entries := by
  refine ⟨mem_entries, fun listed => ?_⟩
  unfold entry?
  generalize node.entries = es at distinct listed
  induction es with
  | nil => cases listed
  | cons e rest ih =>
      rw [List.map_cons, List.nodup_cons] at distinct
      rcases List.mem_cons.mp listed with rfl | listed
      · simp
      · -- the first entry cannot have this name as well
        have other : e.1 ≠ n := fun same =>
          distinct.1 (same ▸ List.mem_map_of_mem (f := Prod.fst) listed)
        rw [List.find?_cons_of_neg (by simpa using other)]
        exact ih distinct.2 listed

/-! ## Nodes in another order

Two nodes are compared location by location, and not by a recursion on their entries, so the
comparison itself is of single nodes (`Alike`).
-/

/-- Two nodes that are the same, but for what is below them and the order in which they
enumerate it. -/
inductive Alike : Node → Node → Prop
  | plain {node : Node} (other : node.isDirectory = false) : Alike node node
  | directory {es es' : List (FileName × Node)} (mode : Nat) (t : Instant)
      (names : (es.map Prod.fst).Perm (es'.map Prod.fst)) :
      Alike (.directory es mode t) (.directory es' mode t)

namespace Alike

variable {node other : Node}

theorem refl (node : Node) : Alike node node := by
  cases node with
  | directory es mode t => exact .directory mode t (.refl _)
  | _ => exact .plain rfl

theorem symm (alike : Alike node other) : Alike other node := by
  cases alike with
  | plain leaf => exact .plain leaf
  | directory mode t names => exact .directory mode t names.symm

theorem trans {last : Node} (first : Alike node other) (second : Alike other last) :
    Alike node last := by
  cases first with
  | plain leaf => exact second
  | directory mode t names =>
      cases second with
      | plain leaf => cases leaf
      | directory _ _ names' => exact .directory mode t (names.trans names')

/-- Of nodes that are alike, both are directories or none is. -/
theorem isDirectory_eq (alike : Alike node other) : other.isDirectory = node.isDirectory := by
  cases alike <;> rfl

/-- Of nodes that are alike, both are files or none is. -/
theorem isFile_eq (alike : Alike node other) : other.isFile = node.isFile := by
  cases alike <;> rfl

theorem modified_eq (alike : Alike node other) (disk : Disk) :
    disk.modified other = disk.modified node := by
  cases alike <;> rfl

theorem mode_eq (alike : Alike node other) (disk : Disk) :
    disk.mode other = disk.mode node := by
  cases alike <;> rfl

/-- Nodes that are alike have entries of the same names. -/
theorem names (alike : Alike node other) :
    (node.entries.map Prod.fst).Perm (other.entries.map Prod.fst) := by
  cases alike with
  | plain leaf => exact .refl _
  | directory mode t names => exact names

end Alike

/-- **A node in another order.**  At every location there are nodes that are alike, or
there is none. -/
def Reordered (node other : Node) : Prop :=
  ∀ location, Option.Rel Alike (node.at? location) (other.at? location)

namespace Reordered

variable {node other : Node}

theorem refl (node : Node) : Reordered node node := by
  intro location
  cases node.at? location with
  | none => exact .none
  | some found => exact .some (.refl found)

/-- At each location, two nodes that differ in order only have both nothing, or nodes that are
alike. -/
theorem at? (reordered : Reordered node other) (location : Location) :
    (node.at? location = none ∧ other.at? location = none) ∨
      ∃ found found', node.at? location = some found ∧ other.at? location = some found' ∧
        Alike found found' := by
  have related := reordered location
  generalize node.at? location = here, other.at? location = there at related
  cases related with
  | none => exact .inl ⟨rfl, rfl⟩
  | some alike => exact .inr ⟨_, _, rfl, rfl, alike⟩

/-- To be the other in another order is mutual. -/
theorem symm (reordered : Reordered node other) : Reordered other node := by
  intro location
  obtain ⟨here, there⟩ | ⟨_, _, here, there, alike⟩ := reordered.at? location <;>
    rw [here, there]
  · exact .none
  · exact .some alike.symm

theorem trans {last : Node} (first : Reordered node other) (second : Reordered other last) :
    Reordered node last := by
  intro location
  obtain ⟨here, there⟩ | ⟨_, _, here, there, alike⟩ := first.at? location
  · rw [here, ← there]
    exact second location
  · obtain ⟨there', -⟩ | ⟨_, _, there', last, alike'⟩ := second.at? location
    · cases there.symm.trans there'
    · cases there.symm.trans there'
      rw [here, last]
      exact .some (alike.trans alike')

/-- Nodes are reordered if they are alike, and so is what their names lead to. -/
theorem of_entries (alike : Alike node other)
    (entries : ∀ n, (node.entry? n = none ∧ other.entry? n = none) ∨
      ∃ child child', node.entry? n = some child ∧ other.entry? n = some child' ∧
        Reordered child child') : Reordered node other
  | [] => .some alike
  | n :: rest => by
      rw [Node.at?, Node.at?]
      obtain ⟨here, there⟩ | ⟨child, child', here, there, below⟩ := entries n <;>
        rw [here, there]
      · exact .none
      · exact below rest

/-- **Reordering a directory** in which no name is given twice. -/
theorem perm {es es' : List (FileName × Node)} (mode : Nat) (t : Instant)
    (distinct : (es.map Prod.fst).Nodup) (same : es.Perm es') :
    Reordered (.directory es mode t) (.directory es' mode t) := by
  refine of_entries (.directory mode t (same.map _)) fun n => ?_
  have found : Node.entry? n (.directory es' mode t) = Node.entry? n (.directory es mode t) := by
    refine Option.ext fun child => ?_
    have here : Node.entry? n (.directory es mode t) = some child ↔ (n, child) ∈ es :=
      entry?_eq_some_iff distinct
    have there : Node.entry? n (.directory es' mode t) = some child ↔ (n, child) ∈ es' :=
      entry?_eq_some_iff ((same.map Prod.fst).nodup_iff.mp distinct)
    rw [here, there, same.mem_iff]
  rw [found]
  cases Node.entry? n (.directory es mode t) with
  | none => exact .inl ⟨rfl, rfl⟩
  | some child => exact .inr ⟨child, child, rfl, rfl, .refl child⟩

/-- Reordering what is below the entries of a directory. -/
theorem below {es es' : List (FileName × Node)} (mode : Nat) (t : Instant)
    (each : List.Forall₂ (fun e e' => e.1 = e'.1 ∧ Reordered e.2 e'.2) es es') :
    Reordered (.directory es mode t) (.directory es' mode t) := by
  have names : es.map Prod.fst = es'.map Prod.fst := by
    induction each with
    | nil => rfl
    | cons first _ ih => rw [List.map_cons, List.map_cons, first.1, ih]
  -- name by name: the two lists have the entry in one place
  refine of_entries (.directory mode t (.of_eq names)) fun n => ?_
  clear names
  unfold entry? entries
  induction each with
  | nil => exact .inl ⟨rfl, rfl⟩
  | @cons e e' es es' first _ ih =>
      obtain ⟨m, child⟩ := e
      obtain ⟨m', child'⟩ := e'
      obtain ⟨rfl, reordered⟩ : m = m' ∧ Reordered child child' := first
      by_cases named : m = n
      · exact .inr ⟨child, child', by simp [named], by simp [named], reordered⟩
      · simpa [named] using ih

end Reordered

end Node

/-! ## Trees in another order

One lemma for each question that can be asked of a tree: times, permissions, ways, listings.
-/

/-- **A tree in another order**: the same nodes at the same locations, with the same
content, which the system enumerates in any order. -/
structure Tree.Reordered (tree other : Tree) : Prop where
  top : tree.disk.top.Reordered other.disk.top
  files : other.disk.files = tree.disk.files
  workdir : other.workdir = tree.workdir

namespace Tree.Reordered

variable {tree other : Tree}

/-- To be the other in another order is mutual for trees, too. -/
theorem symm (reordered : tree.Reordered other) : other.Reordered tree :=
  ⟨reordered.top.symm, reordered.files.symm, reordered.workdir.symm⟩

/-- The order of entries is not in the records of files. -/
theorem record_eq (reordered : tree.Reordered other) (number : Nat) :
    other.disk.record number = tree.disk.record number := by
  rw [Disk.record, Disk.record, reordered.files]

/-- Nodes that are alike have the same time in both trees. -/
theorem modified_eq (reordered : tree.Reordered other) {node node' : Node}
    (alike : node.Alike node') : other.disk.modified node' = tree.disk.modified node := by
  rw [alike.modified_eq]
  cases node <;> simp only [Disk.modified, reordered.record_eq]

theorem allows_eq (reordered : tree.Reordered other) {node node' : Node}
    (alike : node.Alike node') (bit : Nat) : other.allows node' bit = tree.allows node bit := by
  have mode : other.disk.mode node' = tree.disk.mode node := by
    rw [alike.mode_eq]
    cases node <;> simp only [Disk.mode, reordered.record_eq]
  rw [allows, allows, Disk.permits, Disk.permits, mode]

theorem enterable_eq (reordered : tree.Reordered other) {node node' : Node}
    (alike : node.Alike node') : other.enterable node' = tree.enterable node := by
  rw [enterable, enterable, reordered.allows_eq alike, reordered.allows_eq alike]

/-- Where no step can be taken, none can be taken for the same reason. -/
theorem blocked (reordered : tree.Reordered other) {location : Location} {e : IoError}
    (blocked : tree.directoryAt location = .error e) :
    other.directoryAt location = .error e := by
  unfold directoryAt at? at blocked ⊢
  obtain ⟨here, there⟩ | ⟨node, node', here, there, alike⟩ := reordered.top.at? location
  · rw [there]
    rwa [here] at blocked
  · rw [there]
    rw [here] at blocked
    dsimp only at blocked ⊢
    -- what blocks the way is the kind of the node or its permissions, and these are the same
    rw [alike.isDirectory_eq, reordered.allows_eq alike]
    split at blocked
    next leaf => rwa [if_pos leaf]
    next directory =>
      split at blocked
      · cases blocked
      next denied => rwa [if_neg directory, if_neg denied]

/-- Where a step can be taken, it can be taken among entries that are alike. -/
theorem entered (reordered : tree.Reordered other) {location : Location} {directory : Node}
    (entered : tree.directoryAt location = .ok directory) :
    ∃ directory', other.directoryAt location = .ok directory' ∧
      (∀ n, directory.entry? n = none → directory'.entry? n = none) ∧
      ∀ n child, directory.entry? n = some child →
        ∃ child', directory'.entry? n = some child' ∧ child.Alike child' := by
  have here := (directoryAt_eq_ok entered).1
  obtain ⟨missing, -⟩ | ⟨node, node', found, there, alike⟩ := reordered.top.at? location
  · cases here.symm.trans missing
  cases here.symm.trans found
  refine ⟨node', ?_, fun n missing => ?_, fun n child listed => ?_⟩
  · unfold directoryAt at? at entered ⊢
    rw [there]
    rw [found] at entered
    dsimp only at entered ⊢
    rw [alike.isDirectory_eq, reordered.allows_eq alike]
    split at entered
    · cases entered
    next isDirectory =>
      split at entered
      next allowed => rw [if_neg isDirectory, if_pos allowed]
      next => cases entered
  -- both entries are about the same place one name further down
  all_goals
    have below := reordered.top.at? (location ++ [n])
    rw [Node.at?_concat found, Node.at?_concat there] at below
  · obtain ⟨-, missing'⟩ | ⟨_, _, listed, -⟩ := below
    · exact missing'
    · cases missing.symm.trans listed
  · obtain ⟨missing, -⟩ | ⟨_, child', listed', also, alike'⟩ := below
    · cases listed.symm.trans missing
    · cases listed.symm.trans listed'
      exact ⟨child', also, alike'⟩

/-- **A way leads to the same place**, or fails for the same reason. -/
theorem placeFrom (reordered : tree.Reordered other) (follow : Bool) (links : Nat)
    (location : Location) (steps : List Step) :
    other.placeFrom follow links location steps = tree.placeFrom follow links location steps := by
  -- along the recursion of the way: each step is blocked in both trees, or taken in both
  fun_induction Tree.placeFrom tree follow links location steps with
  | case1 => rw [Tree.placeFrom]
  | case2 _ _ _ e blocked | case4 _ _ _ e blocked | case6 _ _ _ _ e blocked =>
      rw [Tree.placeFrom, reordered.blocked blocked]
  | case3 _ _ _ _ entered ih | case5 _ _ _ _ entered ih =>
      obtain ⟨_, there, -⟩ := reordered.entered entered
      rw [Tree.placeFrom, there]
      exact ih
  | case7 _ _ _ _ _ entered long =>
      obtain ⟨_, there, -⟩ := reordered.entered entered
      simp only [Tree.placeFrom, there, long, if_true]
  | case8 _ _ _ _ entered short missing =>
      obtain ⟨_, there, none, -⟩ := reordered.entered entered
      simp only [Tree.placeFrom, there, short, if_false, none _ missing, if_true]
  | case9 _ _ _ _ _ entered short missing more =>
      obtain ⟨_, there, none, -⟩ := reordered.entered entered
      simp only [Tree.placeFrom, there, short, if_false, none _ missing, more]
  | case10 _ _ _ _ _ entered short _ _ found last =>
      obtain ⟨_, there, -, some⟩ := reordered.entered entered
      obtain ⟨_, also, alike⟩ := some _ _ found
      cases alike
      simp [Tree.placeFrom, there, short, also, last]
  | case11 _ _ _ _ entered short _ _ found on =>
      obtain ⟨_, there, -, some⟩ := reordered.entered entered
      obtain ⟨_, also, alike⟩ := some _ _ found
      cases alike
      simp only [Tree.placeFrom, there, short, if_false, also, on]
  | case12 _ _ _ _ entered short _ _ found on _ ih =>
      obtain ⟨_, there, -, some⟩ := reordered.entered entered
      obtain ⟨_, also, alike⟩ := some _ _ found
      cases alike
      simp only [Tree.placeFrom, there, short, if_false, also, on]
      exact ih
  | case13 _ _ _ _ _ entered short child unlinked found ih =>
      obtain ⟨_, there, -, some⟩ := reordered.entered entered
      obtain ⟨child', also, alike⟩ := some _ _ found
      rw [Tree.placeFrom, there]
      dsimp only
      rw [if_neg short, also]
      cases alike with
      | plain => cases child <;> first | exact ih | exact absurd rfl (unlinked _ _)
      | directory => exact ih

/-- A path leads to the same place in both trees. -/
theorem place (reordered : tree.Reordered other) (p : Path) (follow : Bool) :
    other.place p follow = tree.place p follow := by
  simp only [Tree.place, reordered.placeFrom, reordered.workdir]

/-- A path has the same location in both trees. -/
theorem locate (reordered : tree.Reordered other) (p : Path) (follow : Bool) :
    other.locate p follow = tree.locate p follow := by
  rw [Tree.locate, Tree.locate, reordered.place]

/-- **A path leads to the same node**, up to the order of its entries, or fails for the same
reason. -/
theorem find (reordered : tree.Reordered other) (p : Path) (follow : Bool) :
    (∃ e, tree.find p follow = .error e ∧ other.find p follow = .error e) ∨
      ∃ location node node', tree.at? location = some node ∧ other.at? location = some node' ∧
        tree.find p follow = .ok node ∧ other.find p follow = .ok node' ∧ node.Alike node' := by
  unfold Tree.find
  rw [reordered.locate]
  cases tree.locate p follow with
  | error e => exact .inl ⟨e, rfl, rfl⟩
  | ok location =>
      dsimp only [Tree.at?]
      obtain ⟨here, there⟩ | ⟨node, node', here, there, alike⟩ := reordered.top.at? location <;>
        simp only [here, there]
      · exact .inl ⟨_, rfl, rfl⟩
      · exact .inr ⟨location, node, node', here, there, rfl, rfl, alike⟩

/-- A path names a file in both trees or in none. -/
theorem isFile (reordered : tree.Reordered other) (p : Path) :
    other.isFile p = tree.isFile p := by
  unfold Tree.isFile
  obtain ⟨e, here, there⟩ | ⟨_, _, _, -, -, here, there, alike⟩ := reordered.find p true
  · rw [here, there]
  · rw [here, there]
    exact alike.isFile_eq

/-- A path names a directory in both trees or in none. -/
theorem isDirectory (reordered : tree.Reordered other) (p : Path) :
    other.isDirectory p = tree.isDirectory p := by
  unfold Tree.isDirectory
  obtain ⟨e, here, there⟩ | ⟨_, _, _, -, -, here, there, alike⟩ := reordered.find p true
  · rw [here, there]
  · rw [here, there]
    exact alike.isDirectory_eq

theorem modified? (reordered : tree.Reordered other) (p : Path) :
    other.modified? p = tree.modified? p := by
  unfold Tree.modified?
  obtain ⟨e, here, there⟩ | ⟨_, _, _, -, -, here, there, alike⟩ := reordered.find p true
  · rw [here, there]
  · rw [here, there]
    exact congrArg some (reordered.modified_eq alike)

/-- **A listing** has the same names in any order, or fails for the same reason. -/
theorem list (reordered : tree.Reordered other) (p : Path) :
    (∃ e, tree.list p = .error e ∧ other.list p = .error e) ∨
      ∃ names names', tree.list p = .ok names ∧ other.list p = .ok names' ∧
        names.Perm names' := by
  unfold Tree.list
  obtain ⟨e, here, there⟩ | ⟨_, _, _, -, -, here, there, alike⟩ := reordered.find p true
  · rw [here, there]
    exact .inl ⟨e, rfl, rfl⟩
  · rw [here, there]
    dsimp only
    -- the same two questions decide whether it can be listed
    rw [alike.isDirectory_eq, reordered.allows_eq alike]
    split
    · exact .inl ⟨_, rfl, rfl⟩
    · split
      · exact .inr ⟨_, _, rfl, rfl, alike.names⟩
      · exact .inl ⟨_, rfl, rfl⟩

end Tree.Reordered

/-! ## Names that a system gives

No directory has two entries of one name.  Without this a listing would have a name twice
and the order could decide which of two nodes it means.
-/

/-- The names of the entries of every directory at or below a node are those that a system
gives: names that a directory can give, and none of them twice. -/
def Node.Named (node : Node) : Prop :=
  ∀ location below, node.at? location = some below →
    (below.entries.map Prod.fst).Nodup ∧ ∀ n ∈ below.entries.map Prod.fst, FileName.Proper n

namespace Node.Named

theorem of_entries {node : Node} (distinct : (node.entries.map Prod.fst).Nodup)
    (proper : ∀ n ∈ node.entries.map Prod.fst, FileName.Proper n)
    (each : ∀ n child, (n, child) ∈ node.entries → child.Named) : node.Named
  | [], _, rfl => ⟨distinct, proper⟩
  | n :: rest, below, found => by
      obtain ⟨child, entry, found⟩ := Option.bind_eq_some_iff.mp found
      exact each n child (mem_entries entry) rest below found

/-- A file has no entries that could have names. -/
theorem file (number : Nat) : (Node.file number).Named :=
  of_entries .nil nofun nofun

/-- A directory with one entry. -/
theorem single {n : FileName} {child : Node} (proper : n.Proper) (named : child.Named)
    (mode : Nat) (t : Instant) : (Node.directory [(n, child)] mode t).Named := by
  refine of_entries (List.nodup_singleton n) (List.forall_mem_singleton.mpr proper) ?_
  intro _ _ listed
  cases List.mem_singleton.mp listed
  exact named

end Node.Named

/-- A tree with names that a system gives. -/
def Tree.Named (tree : Tree) : Prop := tree.disk.top.Named

namespace Tree

variable {tree other : Tree}

theorem Named.of_reordered (named : tree.Named) (reordered : tree.Reordered other) :
    other.Named := by
  intro location node there
  obtain ⟨-, missing⟩ | ⟨_, _, here, there', alike⟩ := reordered.top.at? location
  · cases there.symm.trans missing
  · cases there.symm.trans there'
    obtain ⟨distinct, proper⟩ := named location _ here
    exact ⟨alike.names.nodup_iff.mp distinct, fun n mem => proper n (alike.names.mem_iff.mpr mem)⟩

/-- A listing has the names that a system gives. -/
theorem Named.of_list (named : tree.Named) {p : Path} {names : List FileName}
    (listed : tree.list p = .ok names) :
    names.Nodup ∧ ∀ n ∈ names, FileName.Proper n := by
  unfold list at listed
  split at listed
  · cases listed
  next node found =>
    obtain ⟨location, -, there⟩ := find_eq_ok_iff.mp found
    split at listed
    · cases listed
    · split at listed
      · cases listed
        exact named location node there
      · cases listed

namespace Reordered

/-! ## Walks

A walk goes by the order of the entries, so its list may come in any order, but what is in
it does not depend on the order.
-/

/-- **A way down** in one tree is a way down in the other: the same names lead to nodes that
are alike. -/
theorem within (reordered : tree.Reordered other) (named : tree.Named) {p q : Path}
    {node last : Node} (within : node.Within (Node.Entered tree.enterable) p q last)
    {location : Location} {node' : Node} (here : tree.at? location = some node)
    (there : other.at? location = some node') :
    ∃ last', node'.Within (Node.Entered other.enterable) p q last' ∧ last.Alike last' := by
  induction within generalizing location node' with
  | here p node =>
      obtain ⟨missing, -⟩ | ⟨_, _, here', there', alike⟩ := reordered.top.at? location
      · cases here.symm.trans missing
      · cases here.symm.trans here'
        cases there.symm.trans there'
        exact ⟨node', .here p node', alike⟩
  | @down p q es mode t n child last enter listed _ ih =>
      obtain ⟨missing, -⟩ | ⟨_, _, here', there', alike⟩ := reordered.top.at? location
      · cases here.symm.trans missing
      cases here.symm.trans here'
      cases there.symm.trans there'
      -- `Named` makes the entry found by its name the one the descent took
      have entry : tree.at? (location ++ [n]) = some child := by
        rw [at?, Node.at?_concat here, Node.entry?_eq_some_iff (named location _ here).1]
        exact listed
      obtain ⟨missing, -⟩ | ⟨_, child', entry', below, -⟩ := reordered.top.at? (location ++ [n])
      · cases entry.symm.trans missing
      obtain ⟨last', further, alike'⟩ := ih entry below
      have listed' := Node.mem_entries ((Node.at?_concat there n).symm.trans below)
      have entered' : Node.Entered other.enterable p node' :=
        ⟨enter.1, (reordered.enterable_eq alike).trans enter.2⟩
      cases alike with
      | plain leaf => cases leaf
      | directory => exact ⟨last', .down entered' listed' further, alike'⟩

/-- A walk begins at the same location. -/
theorem walkStart? (reordered : tree.Reordered other) {root : Path} {start : Node}
    (begun : tree.walkStart? root = some start) :
    ∃ location start', tree.at? location = some start ∧ other.walkStart? root = some start' ∧
      other.at? location = some start' := by
  unfold Tree.walkStart? at begun ⊢
  obtain ⟨e, here, -⟩ | ⟨location, node, node', at_, at_', here, there, alike⟩ :=
    reordered.find root false
  · rw [here] at begun
    cases begun
  rw [here] at begun
  rw [there]
  cases alike with
  | directory mode t =>
      cases begun
      exact ⟨location, _, at_, rfl, at_'⟩
  | plain leaf =>
      cases node with
      | directory => cases leaf
      | link target t =>
          -- a link is entered where it leads to, if that is a directory
          dsimp only at begun ⊢
          obtain ⟨e, here, -⟩ | ⟨location, node, node', at_, at_', here, there, alike⟩ :=
            reordered.find root true
          · rw [here] at begun
            cases begun
          rw [here] at begun
          rw [there]
          cases alike with
          | directory mode t =>
              cases begun
              exact ⟨location, _, at_, rfl, at_'⟩
          | plain other =>
              cases node with
              | directory => cases other
              | _ => cases begun
      | _ =>
          cases begun
          exact ⟨location, _, at_, rfl, at_'⟩

/-- What a walk finds in one tree it finds in the other. -/
theorem mem_regularFiles_of_mem (reordered : tree.Reordered other) (named : tree.Named)
    {root p : Path} {t : Instant} (found : (p, t) ∈ tree.regularFiles root) :
    (p, t) ∈ other.regularFiles root := by
  obtain ⟨number, ⟨start, begun, within⟩, short, time⟩ := mem_regularFiles.mp found
  obtain ⟨location, start', here, begun', there⟩ := reordered.walkStart? begun
  obtain ⟨last, within', alike⟩ := reordered.within named within here there
  cases alike
  refine mem_regularFiles.mpr ⟨number, ⟨start', begun', within'⟩, short, ?_⟩
  rw [reordered.record_eq, time]

/-- **A walk finds the same files.** -/
theorem mem_regularFiles (reordered : tree.Reordered other) (named : tree.Named)
    (root : Path) (file : Path × Instant) :
    file ∈ other.regularFiles root ↔ file ∈ tree.regularFiles root :=
  ⟨reordered.symm.mem_regularFiles_of_mem (named.of_reordered reordered),
    reordered.mem_regularFiles_of_mem named⟩

end Reordered

end Tree

end CrossBench
