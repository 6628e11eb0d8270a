import CrossBench.Proofs.Suites.Naming

/-!
# What a run can fail at in a benchmarks tree

A run looks for its suites and lists each of them.  Whether it gets through depends on a
few facts about the benchmarks tree, which do not change as long as the paths into the
tree lead to the directories that they led to.

* `Suites.Inside` and `Suites.Kept` — the paths into a benchmarks tree, and a tree in
  which it is what it was.
* `Suites.Obstructed` — what a run fails at, and `Suites.not_obstructed_iff`.
* `Suites.Kept.obstructed_iff` — a benchmarks tree that is what it was obstructs the runs
  that it obstructed.
-/

namespace CrossBench

/-- A relative path that never goes up. -/
def Path.Inward (p : Path) : Prop := p.isAbsolute = false ∧ .parent ∉ p.components

namespace Suites

/-! ## Benchmarks trees

The facts about a tree that a run depends on are listings of paths inside the benchmarks
root, so they are kept if those paths are.
-/

/-- The paths into a benchmarks root: the root itself, its entries, and whatever a
relative path leads to from there that never goes up. -/
inductive Inside (tree : Tree) (root : Path) : Path → Prop where
  | root : Inside tree root root
  | entry {names : List FileName} {n : FileName} (listed : tree.list root = .ok names)
      (mem : n ∈ names) : Inside tree root (root.child n)
  | below {p : Path} (inward : p.Inward) : Inside tree root (root.join p)

/-- Nothing outside a benchmarks root is asked for: either no suite is named, or its name
leads into the root. -/
def AskedInside (tree : Tree) (root : Path) (suite : Option String) : Prop :=
  ∀ name, suite = some name → Inside tree root (root.join (.ofText name))

/-- A later tree in which a benchmarks tree is what it was: the same paths into it are
directories, with the same entries. -/
def Kept (tree later : Tree) (root : Path) : Prop :=
  ∀ p, Inside tree root p →
    later.isDirectory p = tree.isDirectory p ∧ later.list p = tree.list p

/-- **What a run fails at.**  The suite that is asked for is no directory; or there is a
benchmarks root and it cannot be listed; or there is a suite and it cannot be listed.
Without a benchmarks root, or with one that has no subdirectories, there is nothing to
fail at. -/
def Obstructed (tree : Tree) (root : Path) (suite : Option String) : Prop :=
  (∃ name, suite = some name ∧ tree.isDirectory (root.join (.ofText name)) = false) ∨
    (suite = none ∧ tree.isDirectory root = true ∧ ∃ reason, tree.list root = .error reason) ∨
    ∃ suites, resolve tree root suite = .ok suites ∧
      ∃ directory ∈ suites, ∃ reason, tree.list directory = .error reason

variable {tree later : Tree} {root : Path} {suite : Option String}

theorem listSorted_isOk_iff (directory : Path) (keep : Path → Bool) :
    (∃ paths, listSorted tree directory keep = .ok paths) ↔
      ∃ names, tree.list directory = .ok names := by
  unfold listSorted
  cases tree.list directory <;> simp

/-- The suites are not found for two of the reasons. -/
theorem resolve_isError_iff :
    (∃ e, resolve tree root suite = .error e) ↔
      (∃ name, suite = some name ∧ tree.isDirectory (root.join (.ofText name)) = false) ∨
        (suite = none ∧ tree.isDirectory root = true ∧
          ∃ reason, tree.list root = .error reason) := by
  cases suite with
  | some name =>
      cases found : tree.isDirectory (root.join (.ofText name)) <;> simp [resolve, found]
  | none =>
      cases found : tree.isDirectory root with
      | false => simp [resolve, found]
      | true => cases listed : tree.list root <;> simp [resolve, found, listSorted, listed]

/-- A tree without obstruction has suites, all of which can be listed. -/
theorem not_obstructed_iff :
    ¬ Obstructed tree root suite ↔
      ∃ suites, resolve tree root suite = .ok suites ∧
        ∀ directory ∈ suites, ∃ names, tree.list directory = .ok names := by
  unfold Obstructed
  rw [← or_assoc, ← resolve_isError_iff]
  cases resolve tree root suite with
  | error e => simp
  | ok suites =>
      have listable : ∀ directory, (∃ names, tree.list directory = .ok names) ↔
          ¬ ∃ reason, tree.list directory = .error reason := by
        intro directory
        cases tree.list directory <;> simp
      simp [listable]

/-- The suites of a benchmarks tree that is what it was are what they were. -/
theorem Kept.resolve_eq (kept : Kept tree later root)
    (inside : AskedInside tree root suite) :
    resolve later root suite = resolve tree root suite := by
  cases suite with
  | some name => simp only [resolve, (kept _ (inside name rfl)).1]
  | none =>
      obtain ⟨directory, list⟩ := kept root .root
      simp only [resolve, listSorted, directory, list]
      cases listed : tree.list root with
      | error reason => rfl
      | ok names =>
          -- each entry is a path into the benchmarks tree, so it is a directory as before or as
          -- before it is not
          have keep : ((names.mergeSort nameLe).map root.child).filter later.isDirectory
              = ((names.mergeSort nameLe).map root.child).filter tree.isDirectory := by
            refine List.filter_congr fun p mem => ?_
            obtain ⟨n, among, rfl⟩ := List.mem_map.mp mem
            exact (kept _ (.entry listed (List.mem_mergeSort.mp among))).1
          simp only [keep]

/-- Every suite is a path into the benchmarks root. -/
theorem inside_of_mem {suites : List Path} (resolved : resolve tree root suite = .ok suites)
    (inside : AskedInside tree root suite)
    {directory : Path} (mem : directory ∈ suites) : Inside tree root directory := by
  cases suite with
  | some name =>
      rw [eq_singleton_of_named resolved] at mem
      exact List.mem_singleton.mp mem ▸ inside name rfl
  | none =>
      obtain ⟨found, -⟩ := mem_root_isDirectory resolved mem
      obtain ⟨names, listed, rfl⟩ := resolve_none_eq resolved found
      obtain ⟨n, among, rfl⟩ := List.mem_map.mp (List.mem_filter.mp mem).1
      exact .entry listed (List.mem_mergeSort.mp among)

/-- A benchmarks tree that is what it was has the obstructions that it had. -/
theorem Kept.obstructed_iff (kept : Kept tree later root)
    (inside : AskedInside tree root suite) :
    Obstructed later root suite ↔ Obstructed tree root suite := by
  rw [← not_iff_not, not_obstructed_iff, not_obstructed_iff, kept.resolve_eq inside]
  refine exists_congr fun suites => and_congr_right fun resolved => ?_
  refine forall₂_congr fun directory mem => ?_
  rw [(kept directory (inside_of_mem resolved inside mem)).2]

end Suites

end CrossBench
