import CrossBench.Proofs.Build.Decision
import CrossBench.Proofs.Files.Enumeration
import CrossBench.Proofs.Run.Starts
import CrossBench.Proofs.Suites.Naming

/-!
# Listings in one order

Suites and their files are listed in one order, whichever order the system enumerates them
in.  A listing is described by what is in it: `Suites.Lists` says which names are kept and
that they ascend, and there is one such list at most, so that two trees which differ in the
order of their directories have the same.

* `Tree.find_entry` — what the path of an entry leads to, and when it leads nowhere although
  there is an entry: if the directory may not be searched, or the path is too long.
* `Path.child_le_child` — the order of paths goes component by component; on the entries of
  one directory it is the order of their names.
* `Suites.listSorted_eq_ok_iff` and `Suites.listSorted_eq_mergeSort` — a listing by what is in
  it, and as the kept paths in the order of paths.
* `Run.Reordered.benchmarks` — a run on trees in another order.
* `Suites.canonical_listings` — all of this together.
-/

namespace CrossBench

/-! ## Entries at the end of a path

What can keep the system from an entry that a listing has: the permissions of the directory,
and the length of the name or of the path.
-/

namespace Tree

/-- A way that leads somewhere can be continued from there. -/
theorem placeFrom_continue (tree : Tree) (links : Nat) (location last : Location)
    (steps : List Step)
    (reached : tree.placeFrom true links location steps = .ok (.present last)) :
    ∃ links', ∀ rest, tree.placeFrom true links location (steps ++ rest)
      = tree.placeFrom true links' last rest := by
  -- along the recursion of the way, of which every step has been taken
  fun_induction placeFrom tree true links location steps with
  | case1 links location =>
      cases reached
      exact ⟨links, fun _ => rfl⟩
  | case2 | case4 | case6 | case7 | case8 | case9 | case11 => cases reached
  | case3 _ _ _ _ entered ih | case5 _ _ _ _ entered ih =>
      simpa [placeFrom, entered] using ih reached
  | case10 _ _ _ _ _ _ _ _ _ _ last => cases last.2
  | case12 _ _ _ _ entered short _ _ found _ _ ih =>
      simpa [placeFrom, entered, short, found] using ih reached
  | case13 _ _ _ _ _ entered short node other found ih =>
      simpa [placeFrom, entered, short, found, other] using ih reached

/-- What the system needs in order to look at an entry of a directory by its path: that the
directory may be searched, and that the name and the path are not too long. -/
structure Reachable (tree : Tree) (directory : Node) (p : Path) (n : FileName) : Prop where
  searchable : tree.allows directory 1 = true
  admissible : Admissible p
  short : n.length ≤ nameLimit

/-- **An entry by its path.**  The path of an entry that is no link leads to the entry, if the
system can look at it, and nowhere otherwise. -/
theorem find_entry {tree : Tree} {directory : Path} {above node : Node} {n : FileName}
    (found : tree.find directory true = .ok above) (isDirectory : above.isDirectory = true)
    (proper : n.Proper) (entry : above.entry? n = some node) (unlinked : node.isLink = false)
    (other : Node) :
    tree.find (directory.child n) true = .ok other ↔
      other = node ∧ tree.Reachable above (directory.child n) n := by
  obtain ⟨location, placed, there⟩ := find_eq_ok_iff.mp found
  obtain ⟨taken, reached⟩ := place_eq_ok_iff.mp placed
  obtain ⟨steps, toEntry, toDirectory⟩ := Path.steps_child taken.filled proper
  -- the way to the entry goes through the directory, and has one step more
  have onward : ∃ links, tree.placeFrom true linkLimit
      (if (directory.child n).isAbsolute then [] else tree.workdir) (directory.child n).steps
        = tree.placeFrom true links location [.into n] := by
    rw [toEntry, Path.child_isAbsolute taken.filled proper]
    rcases toDirectory with way | way <;> rw [way] at reached
    · obtain ⟨links, onward⟩ := placeFrom_continue _ _ _ _ _ reached
      exact ⟨links, onward _⟩
    · obtain ⟨links, location', onward⟩ | ⟨e, fails⟩ := placeFrom_append tree linkLimit
        (if directory.isAbsolute then [] else tree.workdir) steps
      · have here := (onward [.here]).symm.trans reached
        simp only [placeFrom] at here
        split at here
        · cases here
        · cases here
          exact ⟨links, onward _⟩
      · cases (fails [.here] (List.cons_ne_nil _ _)).symm.trans reached
  obtain ⟨links, onward⟩ := onward
  have into : tree.placeFrom true links location [.into n] =
      if tree.allows above 1 = true then
        if n.length > nameLimit then .error .nameTooLong
        else .ok (.present (location ++ [n]))
      else .error .denied := by
    have entered : tree.directoryAt location =
        if tree.allows above 1 = true then .ok above else .error .denied := by
      simp [Tree.directoryAt, there, isDirectory]
    rw [placeFrom, entered]
    by_cases allowed : tree.allows above 1 = true
    · by_cases long : n.length > nameLimit
      · simp [allowed, long]
      · cases node with
        | link => cases unlinked
        | _ => simp [allowed, long, entry, placeFrom]
    · simp [allowed]
  have below : tree.at? (location ++ [n]) = some node := by
    rw [at?, Node.at?_concat there, entry]
  rw [find_eq_ok_iff]
  constructor
  · rintro ⟨location', placed', there'⟩
    obtain ⟨admissible, reached'⟩ := place_eq_ok_iff.mp placed'
    rw [onward, into] at reached'
    split at reached'
    next allowed =>
      split at reached'
      · cases reached'
      next short =>
        cases reached'
        cases below.symm.trans there'
        exact ⟨rfl, allowed, admissible, Nat.le_of_not_lt short⟩
    next => cases reached'
  · rintro ⟨rfl, allowed, admissible, short⟩
    refine ⟨location ++ [n], place_eq_ok_iff.mpr ⟨admissible, ?_⟩, below⟩
    rw [onward, into, if_pos allowed, if_neg (Nat.not_lt.mpr short)]

end Tree

/-! ## The order of paths

Paths are compared component by component, and entries of one directory have all components
but the last in common.
-/

namespace Component

/-- The place of the kinds of components in their order. -/
def rank : Component → Nat
  | .root => 0
  | .here => 1
  | .parent => 2
  | .name _ => 3

/-- The bytes of a name. -/
def bytes : Component → FileName
  | .name n => n
  | _ => []

/-- The order of components: names behind all others, and by their bytes. -/
def le (a b : Component) : Bool :=
  a.rank < b.rank || (a.rank == b.rank && Suites.nameLe a.bytes b.bytes)

/-- The order of lists of components: by the first component in which they differ, and a list
before its continuations. -/
def listLe : List Component → List Component → Bool
  | [], _ => true
  | _ :: _, [] => false
  | a :: p, b :: q => if a = b then listLe p q else a.le b

/-- Names behind the same components are ordered as the names are. -/
theorem listLe_append_name (front : List Component) (m n : FileName) :
    listLe (front ++ [.name m]) (front ++ [.name n]) = Suites.nameLe m n := by
  induction front with
  | nil =>
      by_cases same : m = n
      · simp [listLe, same, Suites.nameLe]
      · simp [listLe, same, le, rank, bytes]
  | cons c front ih => simpa [listLe] using ih

end Component

namespace Path

/-- The order of paths: that of their components. -/
def le (p q : Path) : Bool := Component.listLe p.components q.components

/-- The components of an entry are those of its directory and its name. -/
theorem components_child {directory : Path} {n : FileName} (filled : directory.bytes ≠ [])
    (proper : n.Proper) :
    (directory.child n).components = directory.components ++ [.name n] := by
  obtain ⟨front, path, bytes⟩ := child_eq filled proper
  have component : componentOf? n = some (.name n) := by
    rw [componentOf?, if_neg (not_or.mpr ⟨proper.filled, proper.notHere⟩),
      if_neg proper.notParent]
  have nothing : componentOf? [] = none := rfl
  have absolute := child_isAbsolute filled proper
  -- a child keeps the first segment, which alone may name the root or the current directory
  have first : (segments (front ++ slash :: n)).head? = (segments directory.bytes).head? := by
    obtain ⟨s, more, parts⟩ := List.exists_cons_of_ne_nil (segments_ne_nil front)
    rcases bytes with bytes | ⟨bytes, -⟩ <;> simp [bytes, segments_append_slash, parts]
  have named : (segments directory.bytes).filterMap componentOf?
      = (segments front).filterMap componentOf? := by
    rcases bytes with bytes | ⟨bytes, -⟩
    · simp [bytes, segments_append_slash, segments, nothing]
    · rw [bytes]
  rw [path] at absolute ⊢
  unfold components
  dsimp only
  rw [absolute, first, named, segments_append_slash, segments_of_whole proper.whole]
  simp [component]

/-- **Entries of a directory are ordered as their names are.** -/
theorem child_le_child {directory : Path} (filled : directory.bytes ≠ []) {m n : FileName}
    (hm : m.Proper) (hn : n.Proper) :
    (directory.child m).le (directory.child n) = Suites.nameLe m n := by
  rw [le, components_child filled hm, components_child filled hn, Component.listLe_append_name]

end Path

namespace Suites

variable {tree other : Tree} {directory root : Path} {keep : Path → Bool}

/-! ## Sorted names

Names in a directory are distinct, so ascending order leaves nothing open.
-/

/-- Names in ascending order without repetition are determined by which they are. -/
theorem eq_of_ascending {names names' : List FileName} (ascending : names.Pairwise (· < ·))
    (ascending' : names'.Pairwise (· < ·)) (same : ∀ n, n ∈ names ↔ n ∈ names') :
    names = names' :=
  ascending.eq_of_mem_iff ascending' same

theorem ascending_mergeSort {names : List FileName} (distinct : names.Nodup) :
    (names.mergeSort nameLe).Pairwise (· < ·) := by
  have sorted := List.pairwise_mergeSort nameLe_trans nameLe_total names
  have distinct' : (names.mergeSort nameLe).Nodup :=
    (List.mergeSort_perm names nameLe).nodup_iff.mpr distinct
  refine (sorted.and distinct').imp fun {a b} both => ?_
  have le : a ≤ b := by simpa [nameLe] using both.1
  exact Std.lt_of_le_of_ne le both.2

/-! ## Listings

A listing is described by its members and its order.  What the code does, sorting and then
filtering, is one way to get there.
-/

/-- **The listing of a directory** of which those entries are kept whose paths `keep`
accepts: their paths, in ascending order of their names, each once. -/
def Lists (tree : Tree) (directory : Path) (keep : Path → Bool) (paths : List Path) : Prop :=
  ∃ names kept : List FileName, tree.list directory = .ok names ∧
    paths = kept.map directory.child ∧ kept.Pairwise (· < ·) ∧
    ∀ n, n ∈ kept ↔ n ∈ names ∧ keep (directory.child n) = true

/-- What is listed is exactly the entries that are to be kept, in order. -/
theorem listSorted_eq_ok_iff (named : tree.Named) {paths : List Path} :
    listSorted tree directory keep = .ok paths ↔ Lists tree directory keep paths := by
  unfold listSorted Lists
  cases listed : tree.list directory with
  | error reason => simp
  | ok names =>
      obtain ⟨distinct, -⟩ := named.of_list listed
      have ascending : ((names.mergeSort nameLe).filter
          fun n => keep (directory.child n)).Pairwise (· < ·) :=
        (ascending_mergeSort distinct).filter _
      have mem (n : FileName) : n ∈ (names.mergeSort nameLe).filter
          (fun n => keep (directory.child n)) ↔ n ∈ names ∧ keep (directory.child n) = true := by
        rw [List.mem_filter, List.mem_mergeSort]
      -- sorting and keeping go by the names, the directory stands before all of them alike
      have mapped : ((names.mergeSort nameLe).map directory.child).filter keep
          = ((names.mergeSort nameLe).filter fun n => keep (directory.child n)).map
            directory.child := by
        rw [List.filter_map]
        rfl
      dsimp only
      rw [mapped]
      constructor
      · intro same
        cases same
        exact ⟨names, _, rfl, rfl, ascending, mem⟩
      · rintro ⟨names', kept, same, rfl, ascending', mem'⟩
        cases same
        -- a strictly ascending list is determined by its members
        rw [eq_of_ascending ascending ascending' fun n => (mem n).trans (mem' n).symm]

/-- Listing fails only where the directory cannot be listed. -/
theorem listSorted_eq_error_iff {e : HarnessError} :
    listSorted tree directory keep = .error e ↔
      ∃ reason, tree.list directory = .error reason ∧ e = .io directory reason := by
  unfold listSorted
  cases tree.list directory with
  | error reason => simp [eq_comm]
  | ok names => simp

/-- Sorting the paths that are kept in the order of paths, as the entries come. -/
theorem listSorted_eq_mergeSort (named : tree.Named) {names : List FileName}
    (listed : tree.list directory = .ok names) :
    listSorted tree directory keep
      = .ok (((names.map directory.child).filter keep).mergeSort Path.le) := by
  obtain ⟨distinct, proper⟩ := named.of_list listed
  have filled : directory.bytes ≠ [] := by
    intro empty
    simp [Tree.list, Tree.find, Tree.locate, Tree.place, empty] at listed
  let kept := names.filter fun n => keep (directory.child n)
  have mapped : (names.map directory.child).filter keep = kept.map directory.child := by
    rw [List.filter_map]
    rfl
  -- on the entries of one directory the two orders agree
  have sorted : (kept.map directory.child).mergeSort Path.le
      = (kept.mergeSort nameLe).map directory.child := by
    refine (List.map_mergeSort fun m hm n hn => ?_).symm
    exact (Path.child_le_child filled (proper m (List.mem_of_mem_filter hm))
      (proper n (List.mem_of_mem_filter hn))).symm
  refine (listSorted_eq_ok_iff named).mpr ⟨names, kept.mergeSort nameLe, listed, ?_,
    ascending_mergeSort (distinct.filter _), fun n => ?_⟩
  · rw [mapped, sorted]
  · rw [List.mem_mergeSort, List.mem_filter]

/-- **The order of enumeration does not matter.** -/
theorem listSorted_of_reordered (named : tree.Named) (reordered : tree.Reordered other)
    (directory : Path) {keep' : Path → Bool} (same : ∀ p, keep' p = keep p) :
    listSorted other directory keep' = listSorted tree directory keep := by
  cases funext same
  obtain ⟨e, here, there⟩ | ⟨names, names', here, there, perm⟩ := reordered.list directory
  · rw [listSorted, listSorted, here, there]
  · cases answer : listSorted tree directory keep with
    | error e =>
        obtain ⟨reason, fails, -⟩ := listSorted_eq_error_iff.mp answer
        cases here.symm.trans fails
    | ok paths =>
        -- the same members in ascending order: the listing is described without the order of
        -- entries
        obtain ⟨_, kept, listed, rfl, ascending, mem⟩ := (listSorted_eq_ok_iff named).mp answer
        cases here.symm.trans listed
        refine (listSorted_eq_ok_iff (named.of_reordered reordered)).mpr
          ⟨names', kept, there, rfl, ascending, fun n => ?_⟩
        rw [mem, perm.mem_iff]

/-- The files of a suite do not depend on the order of the entries. -/
theorem files_of_reordered (named : tree.Named) (reordered : tree.Reordered other)
    (suite : Path) : files other suite = files tree suite :=
  listSorted_of_reordered named reordered suite reordered.isFile

theorem resolve_of_reordered (named : tree.Named) (reordered : tree.Reordered other)
    (root : Path) (suite : Option String) : resolve other root suite = resolve tree root suite := by
  cases suite with
  | some name => simp only [resolve, reordered.isDirectory]
  | none =>
      simp only [resolve, reordered.isDirectory,
        listSorted_of_reordered named reordered root reordered.isDirectory]

end Suites

/-! ## Runs

From listings to whole runs, function by function.  Nothing but a listing and a walk sees
the order of entries.
-/

/-- The check of the native program does not depend on the order either. -/
theorem Gate.check_of_reordered {tree other : Tree} (named : tree.Named)
    (reordered : tree.Reordered other) (gate : Gate) : gate.check other = gate.check tree := by
  rw [check_eq_checkBy, check_eq_checkBy, reordered.modified?]
  refine checkBy_congr rfl (fun file => ?_) _
  simp only [reordered.mem_regularFiles named]

namespace Run

variable {σ : Type}

/-- Another host for the same world: the same programs, and trees in another order. -/
structure Reordered (host other : Host σ) : Prop where
  run : other.run = host.run
  named : ∀ world, (host.view world).Named
  trees : ∀ world, (host.view world).Reordered (other.view world)

namespace Reordered

variable {host other : Host σ}

theorem start (reordered : Reordered host other) :
    @Machine.start σ other = @Machine.start σ host := by
  funext s m
  rw [Machine.start, Machine.start, reordered.run]

theorem collect (reordered : Reordered host other) (plan : Plan) (command : Command)
    (file : Path) :
    Sampling.collect other plan command file = Sampling.collect host plan command file := by
  have invoked : Sampling.invoke other command file = Sampling.invoke host command file := by
    funext m
    unfold Sampling.invoke
    rw [reordered.start]
  -- one run goes by the host alone, and so does any number of them
  have repeated (n : Nat) : Sampling.repeated other command file n
      = Sampling.repeated host command file n := by
    induction n with
    | zero => rfl
    | succ n ih =>
        funext m
        rw [Sampling.repeated, Sampling.repeated, invoked, ih]
  funext m
  simp only [Sampling.collect, repeated]

theorem build (reordered : Reordered host other) (gate : Gate) (m : Machine σ) :
    gate.build other m = gate.build host m := by
  have verdict (m : Machine σ) : gate.verdict (m.tree other) = gate.verdict (m.tree host) := by
    funext ending
    unfold Gate.verdict Machine.tree
    rw [(reordered.trees m.world).isFile]
  unfold Gate.build
  simp only [reordered.start, verdict]

/-- A question about the tree that does not depend on the order has the same answer. -/
theorem demandTree (reordered : Reordered host other) {α : Type}
    (question : Tree → Except HarnessError α)
    (same : ∀ {tree tree' : Tree}, tree.Named → tree.Reordered tree' →
      question tree' = question tree) :
    demandTree other question = demandTree host question := by
  funext s
  have here := same (reordered.named s.machine.world) (reordered.trees s.machine.world)
  exact congrArg (·, s) here

theorem prepare (reordered : Reordered host other) (settings : Settings)
    (options : RunOptions) :
    prepare other settings options = prepare host settings options := by
  let gate := Gate.ofSettings settings.native options.root
  have asked : askTree other gate.check = askTree host gate.check := by
    funext s
    have here := gate.check_of_reordered (reordered.named s.machine.world)
      (reordered.trees s.machine.world)
    exact congrArg (fun answer => (Except.ok answer, s)) here
  -- of the tree only the answer of the check is used
  have applied (staleness : Staleness) :
      gate.apply other settings.registry staleness options.skipBuild
        = gate.apply host settings.registry staleness options.skipBuild := by
    funext m
    unfold Gate.apply
    rw [reordered.build]
  rw [Run.prepare, Run.prepare, asked]
  simp only [applied, gate]

theorem measureAll (reordered : Reordered host other) (registry : Registry) (plan : Plan)
    (suite : String) (files : List Path) :
    measureAll other registry plan suite files = measureAll host registry plan suite files := by
  induction files with
  | nil => rfl
  | cons file rest ih =>
      rw [Run.measureAll, Run.measureAll, ih]
      cases runnable? registry file with
      | none => rfl
      | some runner => simp only [measure, reordered.collect]

theorem runSuites (reordered : Reordered host other) (registry : Registry) (plan : Plan)
    (directories : List Path) :
    runSuites other registry plan directories = runSuites host registry plan directories := by
  have suite (directory : Path) : runSuite other registry plan directory
      = runSuite host registry plan directory := by
    have listed := reordered.demandTree (Suites.files · directory)
      fun named trees => Suites.files_of_reordered named trees directory
    simp only [runSuite, listed, reordered.measureAll]
  induction directories with
  | nil => rfl
  | cons directory rest ih => rw [Run.runSuites, Run.runSuites, suite, ih]

/-- **A run does not depend on the order** in which directories are enumerated: neither what
it starts nor what it reports, nor what it answers. -/
theorem benchmarks (reordered : Reordered host other) (settings : Settings)
    (options : RunOptions) :
    benchmarks other settings options = benchmarks host settings options := by
  have resolved := reordered.demandTree
    (Suites.resolve · (settings.benchmarksRoot options.root) options.suite)
    fun named trees => Suites.resolve_of_reordered named trees _ _
  simp only [Run.benchmarks, reordered.prepare, resolved, pin_bind, reordered.runSuites]

end Reordered

end Run

namespace Sample

/-- Names that a system could give are proper names all the way down. -/
theorem named_tree {suites : List String} (distinct : (suites.map Utf8.encode).Nodup)
    (proper : ∀ n ∈ suites.map Utf8.encode, FileName.Proper n) : (tree suites).Named := by
  have script := Node.Named.single (n := Utf8.encode "x.sh") (by decide) (.file 0) 0o755 default
  have names : (suites.map fun name => (Utf8.encode name,
      Node.directory [(Utf8.encode "x.sh", .file 0)] 0o755 default)).map Prod.fst
      = suites.map Utf8.encode := List.map_map
  refine .single (by decide) (.single (by decide) (.of_entries ?_ ?_ ?_) _ _) _ _
  · exact names.symm ▸ distinct
  · exact names.symm ▸ proper
  · intro n child listed
    obtain ⟨_, -, same⟩ := List.mem_map.mp listed
    cases same
    exact script

theorem reordered_tree {suites suites' : List String}
    (distinct : (suites.map Utf8.encode).Nodup) (same : suites.Perm suites') :
    (tree suites).Reordered (tree suites') := by
  refine ⟨.below _ _ (.cons ⟨rfl, .below _ _ (.cons ⟨rfl, .perm _ _ ?_ (same.map _)⟩ .nil)⟩
    .nil), rfl, rfl⟩
  rw [List.map_map]
  exact distinct

theorem named_outdated : outdated.Named := by
  have sources := Node.Named.single (n := Utf8.encode "x.zig") (by decide) (.file 1) 0o755 default
  refine .single (by decide) (.of_entries (by decide) (by decide) fun n child listed => ?_) _ _
  rcases List.mem_cons.mp listed with same | listed
  · cases same
    exact .file 0
  · cases List.mem_singleton.mp listed
    exact sources

end Sample

namespace Suites

/-- Without a name the suites are the subdirectories of the root, and there are none if there is
no root. -/
theorem resolve_none_eq_ok_iff {tree : Tree} (named : tree.Named) (root : Path)
    (paths : List Path) :
    resolve tree root none = .ok paths ↔
      if tree.isDirectory root then Lists tree root tree.isDirectory paths else paths = [] := by
  unfold resolve
  dsimp only
  split
  · exact listSorted_eq_ok_iff named
  · simp [eq_comm]

/-- Without a name the only error is that the root cannot be listed. -/
theorem resolve_none_eq_error_iff {tree : Tree} (root : Path) (e : HarnessError) :
    resolve tree root none = .error e ↔
      tree.isDirectory root = true ∧
        ∃ reason, tree.list root = .error reason ∧ e = .io root reason := by
  unfold resolve
  dsimp only
  split
  next directory => simp only [listSorted_eq_error_iff, directory, true_and]
  next other => simp [other]

/-- What becomes of an entry that is no link. -/
theorem entry_kept_iff {tree : Tree} (named : tree.Named) {directory : Path} {above node : Node}
    {n : FileName} (found : tree.find directory true = .ok above)
    (listed : (n, node) ∈ above.entries) (unlinked : node.isLink = false) :
    (tree.isFile (directory.child n) = true ↔
      node.isFile = true ∧ tree.Reachable above (directory.child n) n) ∧
    (tree.isDirectory (directory.child n) = true ↔
      node.isDirectory = true ∧ tree.Reachable above (directory.child n) n) := by
  have isDirectory : above.isDirectory = true := by
    cases above with
    | directory => rfl
    | _ => cases listed
  obtain ⟨location, -, there⟩ := Tree.find_eq_ok_iff.mp found
  obtain ⟨distinct, proper⟩ := named location above there
  have entry := (Node.entry?_eq_some_iff distinct).mpr listed
  have leads := Tree.find_entry found isDirectory
    (proper n (List.mem_map_of_mem (f := Prod.fst) listed)) entry unlinked
  unfold Tree.isFile Tree.isDirectory
  -- an entry out of reach answers with an error, and is dropped as if it were absent
  by_cases reachable : tree.Reachable above (directory.child n) n
  · rw [(leads node).mpr ⟨rfl, reachable⟩]
    exact ⟨(and_iff_left reachable).symm, (and_iff_left reachable).symm⟩
  · cases answer : tree.find (directory.child n) true with
    | ok other => exact absurd ((leads other).mp answer).2 reachable
    | error e => simp [reachable]

/-- **Listings are canonical.**  Let `other` be a tree in another order.

* The files of a directory and the suites of a benchmarks root are the same lists in both.
* These lists have the entries whose paths lead to regular files, or to directories, in
  ascending order of their names and each once.  A benchmarks root that is no directory has
  no suites.
* The errors are those of listing the directory, with its path.
* An entry that is no link is kept exactly if it is of the kind that is wanted and the system
  can look at it.
* To sort the kept paths in the order of paths is to sort them by their names.
* Two hosts with the same programs and with trees in another order have the same runs: the
  same starts, reports and answers.
-/
theorem canonical_listings {tree other : Tree} (named : tree.Named)
    (reordered : tree.Reordered other) :
    (∀ directory, files other directory = files tree directory) ∧
    (∀ root, resolve other root none = resolve tree root none) ∧
    (∀ directory paths, files tree directory = .ok paths ↔
      Lists tree directory tree.isFile paths) ∧
    (∀ root paths, resolve tree root none = .ok paths ↔
      if tree.isDirectory root then Lists tree root tree.isDirectory paths else paths = []) ∧
    (∀ directory e, files tree directory = .error e ↔
      ∃ reason, tree.list directory = .error reason ∧ e = .io directory reason) ∧
    (∀ root e, resolve tree root none = .error e ↔
      tree.isDirectory root = true ∧
        ∃ reason, tree.list root = .error reason ∧ e = .io root reason) ∧
    (∀ directory above n node, tree.find directory true = .ok above →
      (n, node) ∈ above.entries → node.isLink = false →
        (tree.isFile (directory.child n) = true ↔
          node.isFile = true ∧ tree.Reachable above (directory.child n) n) ∧
        (tree.isDirectory (directory.child n) = true ↔
          node.isDirectory = true ∧ tree.Reachable above (directory.child n) n)) ∧
    (∀ directory keep names, tree.list directory = .ok names →
      listSorted tree directory keep
        = .ok (((names.map directory.child).filter keep).mergeSort Path.le)) ∧
    (∀ (σ : Type) (host host' : Host σ), Run.Reordered host host' →
      ∀ settings options s,
        runBenchmarks host' settings options s = runBenchmarks host settings options s) := by
  refine ⟨files_of_reordered named reordered,
    fun root => resolve_of_reordered named reordered root none,
    fun _ _ => listSorted_eq_ok_iff named, resolve_none_eq_ok_iff named,
    fun _ _ => listSorted_eq_error_iff, resolve_none_eq_error_iff,
    fun _ _ _ _ => entry_kept_iff named, fun _ _ _ => listSorted_eq_mergeSort named,
    fun σ host host' hosts settings options s => ?_⟩
  -- a run asks its host for trees and for processes; the trees differ in order only
  rw [runBenchmarks, runBenchmarks, hosts.benchmarks]

/-- In a project with the suites `a` and `b` these are the suites, in this order, in
whichever order they are enumerated. -/
theorem canonical_listings_of_two_orders :
    (Sample.tree ["b", "a"]).Named ∧
      (Sample.tree ["b", "a"]).Reordered (Sample.tree ["a", "b"]) ∧
      resolve (Sample.tree ["a", "b"]) (.ofText "/p/benchmarks") none
        = .ok [Sample.suite "a", Sample.suite "b"] := by
  have named : (Sample.tree ["b", "a"]).Named := Sample.named_tree (by decide) (by decide)
  have reordered : (Sample.tree ["b", "a"]).Reordered (Sample.tree ["a", "b"]) :=
    Sample.reordered_tree (by decide) (List.Perm.swap ..)
  refine ⟨named, reordered, ?_⟩
  obtain ⟨-, suites, -⟩ := canonical_listings named reordered
  rw [suites]
  cbv

/-- **Not every regular file in a directory is listed.**  The directory can be listed, and has
a file; but the path of the file is longer than a path may be. -/
theorem not_every_regular_entry_is_listed :
    ¬ ∀ (tree : Tree) (directory : Path) (above : Node) (n : FileName) (number : Nat)
      (paths : List Path), tree.Named → tree.find directory true = .ok above →
      (n, .file number) ∈ above.entries → files tree directory = .ok paths →
      directory.child n ∈ paths := by
  intro always
  have named : Sample.outdated.Named := Sample.named_outdated
  have found := Sample.find_sourceRoot true
  have listed : (Utf8.encode "x.zig", Node.file 1) ∈ Sample.sources.entries := .head _
  have kept := (entry_kept_iff named found listed rfl).1
  -- the entry is enumerated, but its path is too long to be asked about
  have none : files Sample.outdated Sample.sourceRoot = .ok [] := by
    have names : Sample.outdated.list Sample.sourceRoot = .ok [Utf8.encode "x.zig"] := by
      rw [Tree.list, found]
      cbv
    refine (listSorted_eq_ok_iff named).mpr ⟨_, [], names, rfl, .nil, fun n => ?_⟩
    refine iff_of_false List.not_mem_nil ?_
    rintro ⟨mem, isFile⟩
    cases List.mem_singleton.mp mem
    exact absurd (kept.mp isFile).2.admissible.short (Nat.not_le.mpr Sample.long_source)
  cases always _ _ _ _ _ _ named found listed none

end Suites

end CrossBench
