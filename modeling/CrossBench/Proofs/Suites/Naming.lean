import CrossBench.Proofs.Files.Descent
import CrossBench.Proofs.Run.Endings

/-!
# Suites by name

A suite that is asked for by name is looked for in a way of its own: the name is put
behind the path of the benchmarks root, and whatever directory is there is run.  The list
of suites is not asked.

For a name that an entry of a directory can have, this gives the suite of that name in the
list.  Any other text, such as two dots, a text with slashes or no text at all, is the name
of no suite, and the directory that is found there is none of the list.

* `Suites.Agree` — what it is that the two ways should have in common.
* `Suites.agree_iff` — for which names they have it.
* `Suites.not_every_name_agrees` — a suite named by two dots.
-/

namespace CrossBench.Suites

variable {tree : Tree} {root : Path} {suites : List Path}

theorem join_ofText (root : Path) (name : String) :
    root.join (.ofText name) = root.child (Utf8.encode name) := rfl

theorem resolve_some (name : String) :
    resolve tree root (some name) =
      if tree.isDirectory (root.join (.ofText name)) then .ok [root.join (.ofText name)]
      else .error (.suiteNotFound name root) := rfl

/-- A suite that is asked for by name is the only one. -/
theorem eq_singleton_of_named {name : String}
    (resolved : resolve tree root (some name) = .ok suites) :
    suites = [root.join (.ofText name)] := by
  rw [resolve_some] at resolved
  split at resolved
  · cases resolved
    rfl
  · cases resolved

/-- A benchmarks root that can be listed has its subdirectories for suites. -/
theorem resolve_none_eq (resolved : resolve tree root none = .ok suites)
    (directory : tree.isDirectory root = true) :
    ∃ names, tree.list root = .ok names ∧
      suites = ((names.mergeSort nameLe).map root.child).filter tree.isDirectory := by
  simp only [resolve, directory, if_true, listSorted] at resolved
  split at resolved
  · cases resolved
  · next names listed =>
    cases resolved
    exact ⟨names, listed, rfl⟩

/-- A benchmarks root that is no directory has no suites, and the empty path is none. -/
theorem mem_root_isDirectory (resolved : resolve tree root none = .ok suites) {d : Path}
    (mem : d ∈ suites) : tree.isDirectory root = true ∧ root.bytes ≠ [] := by
  have directory : tree.isDirectory root = true := by
    by_contra other
    simp only [resolve, other] at resolved
    cases resolved
    cases mem
  refine ⟨directory, fun empty => ?_⟩
  simp [Tree.isDirectory, Tree.find, Tree.locate, Tree.place, empty] at directory

/-- **The suite of a name.**  With a name that can be that of an entry, the suite of this
name in the list is the directory to which the name leads, if it leads to one. -/
theorem mem_and_named_iff (resolved : resolve tree root none = .ok suites)
    (proper : ∀ names, tree.list root = .ok names → ∀ n ∈ names, FileName.Proper n)
    (filled : root.bytes ≠ []) {n : FileName} (named : n.Proper) (d : Path) :
    d ∈ suites ∧ d.fileName? = some n ↔
      d = root.child n ∧ tree.isDirectory d = true := by
  constructor
  · rintro ⟨mem, name⟩
    obtain ⟨directory, -⟩ := mem_root_isDirectory resolved mem
    obtain ⟨names, listed, rfl⟩ := resolve_none_eq resolved directory
    obtain ⟨entry, kept⟩ := List.mem_filter.mp mem
    obtain ⟨n', mem', rfl⟩ := List.mem_map.mp entry
    have proper' := proper names listed n' (List.mem_mergeSort.mp mem')
    rw [Path.fileName?_child filled proper'] at name
    -- the last name of an entry's path is the name of the entry
    cases name
    exact ⟨rfl, kept⟩
  · rintro ⟨rfl, kept⟩
    obtain ⟨directory, among⟩ := Tree.mem_list_of_isDirectory_child filled named kept
    obtain ⟨names, listed, rfl⟩ := resolve_none_eq resolved directory
    refine ⟨List.mem_filter.mpr ⟨List.mem_map_of_mem ?_, kept⟩,
      Path.fileName?_child filled named⟩
    exact List.mem_mergeSort.mpr (among names listed)

/-- That asking for a suite by its name gives the suite of this name in the list, and an
error with the name and the root if the list has none. -/
def Agree (tree : Tree) (root : Path) (suites : List Path) (name : String) : Prop :=
  (∀ d, resolve tree root (some name) = .ok [d] ↔
      d ∈ suites ∧ d.fileName? = some (Utf8.encode name)) ∧
    ((∀ d ∈ suites, d.fileName? ≠ some (Utf8.encode name)) →
      resolve tree root (some name) = .error (.suiteNotFound name root))

/-- **For which names the two ways agree.**  They do for every name that an entry of the
benchmarks root can have, and for every text that leads to no directory.  For no other
text they do: it leads to a directory, which is run, and the list of suites has no entry of
such a name.  The empty path is no benchmarks root, and whatever is asked for below it is
looked for in the current directory. -/
theorem agree_iff (resolved : resolve tree root none = .ok suites)
    (proper : ∀ names, tree.list root = .ok names → ∀ n ∈ names, FileName.Proper n)
    (name : String) :
    (Agree tree root suites name ↔
      root.bytes ≠ [] ∧ FileName.Proper (Utf8.encode name) ∨
        tree.isDirectory (root.join (.ofText name)) = false) ∧
    (¬ (root.bytes ≠ [] ∧ FileName.Proper (Utf8.encode name)) →
      ∀ d ∈ suites, d.fileName? ≠ some (Utf8.encode name)) := by
  have unlisted : ¬ (root.bytes ≠ [] ∧ FileName.Proper (Utf8.encode name)) →
      ∀ d ∈ suites, d.fileName? ≠ some (Utf8.encode name) :=
    fun other d mem named => other
      ⟨(mem_root_isDirectory resolved mem).2, Path.fileName?_proper named⟩
  refine ⟨⟨fun agree => ?_, ?_⟩, unlisted⟩
  · by_contra neither
    obtain ⟨other, directory⟩ := not_or.mp neither
    -- the name leads to a directory, but no suite of the listing is called so
    have found : resolve tree root (some name) = .ok [root.join (.ofText name)] := by
      rw [resolve_some, if_pos (Bool.eq_true_of_not_eq_false directory)]
    obtain ⟨mem, named⟩ := (agree.1 _).mp found
    exact unlisted other _ mem named
  · rintro (⟨filled, named⟩ | none)
    · -- with a proper name both sides ask for the same directory
      have suite := mem_and_named_iff resolved proper filled named
      simp only [← join_ofText] at suite
      refine ⟨fun d => ?_, fun missing => ?_⟩
      · rw [suite, resolve_some]
        split
        next directory =>
          simp only [Except.ok.injEq, List.cons.injEq, and_true]
          exact ⟨fun same => ⟨same.symm, same ▸ directory⟩, fun h => h.1.symm⟩
        next other => exact iff_of_false nofun fun h => other (h.1 ▸ h.2)
      · rw [resolve_some, if_neg]
        intro directory
        obtain ⟨mem, named⟩ := (suite _).mpr ⟨rfl, directory⟩
        exact missing _ mem named
    · have refused : resolve tree root (some name) = .error (.suiteNotFound name root) := by
        rw [resolve_some, if_neg (ne_true_of_eq_false none)]
      refine ⟨fun d => iff_of_false (by simp [refused]) ?_, fun _ => refused⟩
      rintro ⟨mem, named⟩
      obtain ⟨rfl, directory⟩ := (mem_and_named_iff resolved proper
        (mem_root_isDirectory resolved mem).2 (Path.fileName?_proper named) d).mp ⟨mem, named⟩
      rw [← join_ofText] at directory
      exact ne_true_of_eq_false none directory

/-- In a project with the suites `a` and `b` the name `b` is that of the second. -/
theorem agree_about_b :
    Agree (Sample.tree ["b", "a"]) (.ofText "/p/benchmarks")
      [Sample.suite "a", Sample.suite "b"] "b" := by
  have resolved : resolve (Sample.tree ["b", "a"]) (.ofText "/p/benchmarks") none
      = .ok [Sample.suite "a", Sample.suite "b"] := by
    cbv
  have listed : (Sample.tree ["b", "a"]).list (.ofText "/p/benchmarks")
      = .ok [[0x62], [0x61]] := by
    cbv
  have letter : Utf8.encode "b" = [0x62] := by cbv
  refine (agree_iff resolved (fun names found => ?_) "b").1.mpr (.inl ⟨?_, ?_⟩)
  · cases listed.symm.trans found
    decide
  · exact (mem_root_isDirectory resolved (List.mem_cons_self ..)).2
  · rw [letter]
    decide

/-- **Not every name of a suite that is run is the name of a suite.**  Two dots lead to
the directory above the benchmarks root, which is run although the list has only `a`. -/
theorem not_every_name_agrees :
    ¬ ∀ (tree : Tree) (root : Path) (suites : List Path) (name : String),
      resolve tree root none = .ok suites → Agree tree root suites name := by
  intro always
  obtain ⟨onlyListed, -⟩ := always (Sample.tree ["a"]) (.ofText "/p/benchmarks")
    [Sample.suite "a"] ".." (by cbv)
  have found : resolve (Sample.tree ["a"]) (.ofText "/p/benchmarks") (some "..")
      = .ok [.ofText "/p/benchmarks/.."] := by
    cbv
  have unnamed : (Path.ofText "/p/benchmarks/..").fileName? = none := by cbv
  obtain ⟨-, named⟩ := (onlyListed _).mp found
  cases unnamed.symm.trans named

end CrossBench.Suites
