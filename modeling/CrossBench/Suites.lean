import CrossBench.Error
import CrossBench.Files.Resolve

/-!
# Suites and their files

The suites of a project are the subdirectories of its benchmarks root, and the files of a suite are
the regular files in its directory; links are followed in both cases. Either list is in ascending
order of the names' bytes, whatever order the system enumerates them in.

A suite may also be named. It then has to be a directory below the benchmarks root; when no suite is
named, a benchmarks root that is no directory has no suites.
-/

namespace CrossBench.Suites

/-- The order of names: byte by byte, a name before its continuations. -/
def nameLe (a b : FileName) : Bool := a ≤ b

/-- The paths of those entries of a directory that `keep` accepts, in ascending order. -/
def listSorted (tree : Tree) (directory : Path) (keep : Path → Bool) :
    Except HarnessError (List Path) :=
  match tree.list directory with
  | .error reason => .error (.io directory reason)
  | .ok names => .ok (((names.mergeSort nameLe).map directory.child).filter keep)

/-- The suite directories to run. -/
def resolve (tree : Tree) (benchmarksRoot : Path) : Option String → Except HarnessError (List Path)
  | some name =>
    let directory := benchmarksRoot.join (.ofText name)
    if tree.isDirectory directory then .ok [directory]
    else .error (.suiteNotFound name benchmarksRoot)
  | none =>
    if tree.isDirectory benchmarksRoot then
      listSorted tree benchmarksRoot tree.isDirectory
    else .ok []

/-- The benchmark files of a suite. -/
def files (tree : Tree) (suite : Path) : Except HarnessError (List Path) :=
  listSorted tree suite tree.isFile

end CrossBench.Suites
