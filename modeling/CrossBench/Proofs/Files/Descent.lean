import CrossBench.Files.Walk
import Mathlib

/-!
# Below a directory

The path of a directory with one more name behind it leads through that directory: what
is there is the entry of this name, and whoever can reach the entry can reach the
directory.  This holds for the names that a directory can give to its entries, and not
for an arbitrary text: an empty one adds nothing to the path, two dots lead out of the
directory again, and a text with slashes has a way of its own.

* `FileName.Proper` — the names that a directory can give to its entries.
* `Path.steps_child` and `Path.fileName?_child` — the path of an entry.
* `Tree.placeFrom_append` — a way in two parts.
* `Tree.find_child` and `Tree.mem_list_of_isDirectory_child` — from an entry back to its
  directory.

A walk goes from each directory to all of its entries.  `Node.Within` is that way down as
a relation, and `Tree.mem_regularFiles` says that a walk finds whatever can be reached
entry by entry, and nothing else.
-/

namespace CrossBench

/-- A name that a directory can give to an entry: a text without slashes that is not
empty and none of the two that stand for a directory wherever they are used. -/
structure FileName.Proper (n : FileName) : Prop where
  filled : n ≠ []
  whole : Path.slash ∉ n
  notHere : n ≠ [Path.dot]
  notParent : n ≠ [Path.dot, Path.dot]

instance (n : FileName) : Decidable n.Proper :=
  decidable_of_iff (n ≠ [] ∧ Path.slash ∉ n ∧ n ≠ [Path.dot] ∧ n ≠ [Path.dot, Path.dot])
    ⟨fun ⟨filled, whole, notHere, notParent⟩ => ⟨filled, whole, notHere, notParent⟩,
      fun h => ⟨h.filled, h.whole, h.notHere, h.notParent⟩⟩

namespace Path

/-! ## Segments

A path is divided at its slashes, and this is the only place where bytes are looked at: what
follows speaks of segments, and then of steps.
-/

theorem segments_ne_nil (bytes : List UInt8) : segments bytes ≠ [] := by
  cases bytes with
  | nil => exact List.cons_ne_nil _ _
  | cons b rest =>
      unfold segments
      split
      · exact List.cons_ne_nil _ _
      · split <;> exact List.cons_ne_nil _ _

/-- A byte that is no slash stands in front of the first segment. -/
theorem segments_cons {b : UInt8} (other : b ≠ slash) (rest : List UInt8) :
    ∃ first more, segments rest = first :: more ∧
      segments (b :: rest) = (b :: first) :: more := by
  obtain ⟨first, more, found⟩ := List.exists_cons_of_ne_nil (segments_ne_nil rest)
  exact ⟨first, more, found, by rw [segments, if_neg other, found]⟩

theorem segments_of_whole {n : FileName} (whole : slash ∉ n) : segments n = [n] := by
  induction n with
  | nil => rfl
  | cons b rest ih =>
      obtain ⟨other, whole⟩ := List.ne_and_not_mem_of_not_mem_cons whole
      rw [segments, if_neg (Ne.symm other), ih whole]

/-- A slash parts the segments in front of it from those behind it. -/
theorem segments_append_slash (front rest : List UInt8) :
    segments (front ++ slash :: rest) = segments front ++ segments rest := by
  induction front with
  | nil => simp [segments]
  | cons b front ih =>
      by_cases same : b = slash
      · simp [segments, same, ih]
      · obtain ⟨first, more, found, grown⟩ := segments_cons same front
        rw [grown, List.cons_append, segments, if_neg same, ih, found]
        rfl

theorem segments_whole (bytes : List UInt8) : ∀ s ∈ segments bytes, slash ∉ s := by
  induction bytes with
  | nil => simp [segments]
  | cons b rest ih =>
      by_cases same : b = slash
      · simpa [segments, same] using ih
      · obtain ⟨first, more, found, grown⟩ := segments_cons same rest
        rw [found] at ih
        simpa [grown, Ne.symm same] using ih

/-- A path that does not end in a slash has a last segment. -/
theorem segments_getLast? {bytes : List UInt8} (filled : bytes ≠ [])
    (unclosed : bytes.getLast? ≠ some slash) : (segments bytes).getLast? ≠ some [] := by
  induction bytes with
  | nil => exact absurd rfl filled
  | cons b rest ih =>
      rcases eq_or_ne rest [] with rfl | more
      · have other : b ≠ slash := fun same => unclosed (by simp [same])
        simp [segments, other]
      · have inner := ih more (by rwa [List.getLast?_cons_of_ne_nil more] at unclosed)
        -- a slash begins a new segment, any other byte belongs to the first one
        by_cases same : b = slash
        · rwa [segments, if_pos same, List.getLast?_cons_of_ne_nil (segments_ne_nil rest)]
        · obtain ⟨first, others, found, grown⟩ := segments_cons same rest
          rw [found] at inner
          cases others with
          | nil => simp [grown]
          | cons next others => simpa [grown] using inner

/-! ## The path of an entry

A directory may be given with a slash at its end or without one.  In both cases the entry
has one step more.
-/

/-- The path of an entry is that of its directory, up to one slash at its end, a slash,
and the name. -/
theorem child_eq {directory : Path} {n : FileName} (filled : directory.bytes ≠ [])
    (proper : n.Proper) :
    ∃ front, directory.child n = ⟨front ++ slash :: n⟩ ∧
      (directory.bytes = front ++ [slash] ∨
        directory.bytes = front ∧ front.getLast? ≠ some slash) := by
  have relative : Path.isAbsolute ⟨n⟩ = false := by
    have first : n.head? ≠ some slash := fun h => proper.whole (List.mem_of_head? h)
    simpa [isAbsolute] using first
  obtain ⟨front, last, split⟩ := List.eq_nil_or_concat' directory.bytes |>.resolve_left filled
  rw [child, join, relative, split, List.getLast?_concat]
  by_cases closed : last = slash
  · exact ⟨front, by simp [closed], .inl (by rw [closed])⟩
  · exact ⟨front ++ [last], by simp [closed], .inr ⟨rfl, by simpa using closed⟩⟩

/-- The step that a segment is. -/
def stepOf? (s : FileName) : Option Step :=
  if s = [] then none
  else if s = [dot] then some .here
  else if s = [dot, dot] then some .up
  else some (.into s)

theorem steps_eq (p : Path) :
    p.steps =
      let steps := (segments p.bytes).filterMap stepOf?
      if (segments p.bytes).getLast? = some [] ∧ steps ≠ [] then steps ++ [.here]
      else steps := rfl

/-- **The way to an entry** is the way to its directory and one step more. -/
theorem steps_child {directory : Path} {n : FileName} (filled : directory.bytes ≠ [])
    (proper : n.Proper) :
    ∃ steps, (directory.child n).steps = steps ++ [.into n] ∧
      (directory.steps = steps ∨ directory.steps = steps ++ [.here]) := by
  obtain ⟨front, path, bytes⟩ := child_eq filled proper
  have step : stepOf? n = some (.into n) := by
    rw [stepOf?, if_neg proper.filled, if_neg proper.notHere, if_neg proper.notParent]
  refine ⟨(segments front).filterMap stepOf?, ?_, ?_⟩
  · rw [steps_eq, path]
    simp [segments_append_slash, segments_of_whole proper.whole, step, proper.filled]
  · rw [steps_eq]
    rcases bytes with bytes | ⟨bytes, unclosed⟩
    · have empty : stepOf? [] = none := rfl
      rw [bytes, segments_append_slash]
      -- a slash at the end asks for the directory, unless nothing but slashes stands in front of
      -- it
      by_cases any : (segments front).filterMap stepOf? = []
      · left
        simp [segments, empty, any]
      · right
        simp [segments, empty, any]
    · left
      rw [bytes] at filled ⊢
      rw [if_neg fun h => segments_getLast? filled unclosed h.1]

/-- The path of an entry is absolute if that of its directory is. -/
theorem child_isAbsolute {directory : Path} {n : FileName} (filled : directory.bytes ≠ [])
    (proper : n.Proper) : (directory.child n).isAbsolute = directory.isAbsolute := by
  obtain ⟨front, path, bytes | ⟨bytes, -⟩⟩ := child_eq filled proper
  · cases front <;> simp [path, isAbsolute, bytes]
  · cases front with
    | nil => exact absurd bytes filled
    | cons b front => simp [path, isAbsolute, bytes]

/-- The last name in the path of an entry is the name of the entry. -/
theorem fileName?_child {directory : Path} {n : FileName} (filled : directory.bytes ≠ [])
    (proper : n.Proper) : (directory.child n).fileName? = some n := by
  obtain ⟨front, path, -⟩ := child_eq filled proper
  have component : componentOf? n = some (.name n) := by
    rw [componentOf?, if_neg (not_or.mpr ⟨proper.filled, proper.notHere⟩),
      if_neg proper.notParent]
  have last : (directory.child n).components.getLast? = some (.name n) := by
    rw [components, path]
    simp [segments_append_slash, segments_of_whole proper.whole, component]
  rw [fileName?, last]

/-- **The file name of a path is a proper name**, whatever the path is. -/
theorem fileName?_proper {p : Path} {n : FileName} (named : p.fileName? = some n) :
    n.Proper := by
  have last : p.components.getLast? = some (.name n) := by
    unfold fileName? at named
    split at named
    · next last => cases named; exact last
    · cases named
  have mem := List.mem_of_getLast? last
  -- a component that is a name comes from a segment, never from the root or a dot in front
  have segment : .name n ∈ (segments p.bytes).filterMap componentOf? := by
    rcases List.mem_append.mp mem with start | rest
    · split at start
      · simp at start
      · split at start <;> simp at start
    · exact rest
  obtain ⟨s, listed, component⟩ := List.mem_filterMap.mp segment
  unfold componentOf? at component
  split at component
  · cases component
  next here =>
    split at component
    · cases component
    next up =>
      cases component
      obtain ⟨filled, notHere⟩ := not_or.mp here
      exact ⟨filled, segments_whole _ _ listed, notHere, up⟩

end Path

namespace Tree

/-! ## Ways in parts

A way that follows links is not a list of names, so it is not simply cut in two.  But how it
goes on depends only on where the first part has led, and on how many links may still be
followed.
-/

/-- **A way in two parts.**  The first part either leads to a directory from which any
rest is followed, or to an error that every rest has. -/
theorem placeFrom_append (tree : Tree) (links : Nat) (location : Location)
    (steps : List Step) :
    (∃ links' location', ∀ rest,
        tree.placeFrom true links location (steps ++ rest)
          = tree.placeFrom true links' location' rest) ∨
      ∃ e, ∀ rest ≠ [], tree.placeFrom true links location (steps ++ rest) = .error e := by
  -- along the recursion of the way, each step either fails or leaves the rest of the way
  fun_induction placeFrom tree true links location steps with
  | case1 links location => exact .inl ⟨links, location, fun _ => rfl⟩
  | case2 _ _ _ e blocked | case4 _ _ _ e blocked | case6 _ _ _ _ e blocked =>
      exact .inr ⟨e, fun _ _ => by simp [placeFrom, blocked]⟩
  | case3 _ _ _ _ entered ih | case5 _ _ _ _ entered ih =>
      simpa [placeFrom, entered] using ih
  | case7 _ _ _ _ _ entered long =>
      exact .inr ⟨.nameTooLong, fun _ _ => by simp [placeFrom, entered, long]⟩
  | case8 links location n _ entered short missing =>
      -- a free name can only be the end of a way
      exact .inr ⟨.notFound, fun _ more => by simp [placeFrom, entered, short, missing, more]⟩
  | case9 _ _ _ _ _ entered short missing =>
      exact .inr ⟨.notFound, fun _ more => by simp [placeFrom, entered, short, missing, more]⟩
  | case10 _ _ _ _ _ _ _ _ _ _ last => cases last.2
  | case11 _ _ _ _ entered short _ _ found =>
      exact .inr ⟨.linkLoop, fun _ _ => by simp [placeFrom, entered, short, found]⟩
  | case12 _ _ _ _ entered short _ _ found _ _ ih =>
      simpa [placeFrom, entered, short, found] using ih
  | case13 _ _ _ _ _ entered short node other found ih =>
      simpa [placeFrom, entered, short, found, other] using ih

/-- A node is reached by one more name only from a directory with an entry of this name. -/
theorem placeFrom_into {tree : Tree} {links : Nat} {location last : Location} {n : FileName}
    (reached : tree.placeFrom true links location [.into n] = .ok (.present last)) :
    ∃ directory, tree.directoryAt location = .ok directory ∧ directory.entry? n ≠ none := by
  unfold placeFrom at reached
  cases entered : tree.directoryAt location with
  | error e => simp [entered] at reached
  | ok directory =>
      refine ⟨directory, rfl, fun missing => ?_⟩
      simp only [entered, missing, if_true] at reached
      split at reached <;> cases reached

theorem directoryAt_eq_ok {tree : Tree} {location : Location} {node : Node}
    (entered : tree.directoryAt location = .ok node) :
    tree.at? location = some node ∧ node.isDirectory = true := by
  unfold directoryAt at entered
  split at entered
  · next found =>
    split at entered
    · cases entered
    next directory =>
      split at entered
      · cases entered
        exact ⟨found, by simpa using directory⟩
      · cases entered
  · cases entered

/-! ## From an entry to its directory

Whoever can ask for an entry could enter its directory.  This is why an entry that is found
tells something about what is above it.
-/

/-- The paths that the system takes. -/
structure Admissible (p : Path) : Prop where
  filled : p.bytes ≠ []
  nonzero : 0 ∉ p.bytes
  short : p.bytes.length ≤ lengthLimit

/-- A directory can be taken if one of its entries can. -/
theorem Admissible.of_child {directory : Path} {n : FileName} (filled : directory.bytes ≠ [])
    (proper : n.Proper) (taken : Admissible (directory.child n)) : Admissible directory := by
  obtain ⟨front, path, bytes⟩ := Path.child_eq filled proper
  have within : directory.bytes.length ≤ (directory.child n).bytes.length := by
    rcases bytes with bytes | ⟨bytes, -⟩ <;> simp [path, bytes]
  have among : directory.bytes ⊆ (directory.child n).bytes := by
    rcases bytes with bytes | ⟨bytes, -⟩ <;> simp [path, bytes]
  exact ⟨filled, fun zero => taken.nonzero (among zero), within.trans taken.short⟩

/-- Following a path is following its steps from where it starts. -/
theorem place_eq_ok_iff {tree : Tree} {p : Path} {reached : Place} :
    tree.place p true = .ok reached ↔
      Admissible p ∧
        tree.placeFrom true linkLimit (if p.isAbsolute then [] else tree.workdir) p.steps
          = .ok reached := by
  by_cases empty : p.bytes = []
  · exact iff_of_false (by simp [place, empty]) fun h => h.1.filled empty
  by_cases zero : 0 ∈ p.bytes
  · exact iff_of_false (by simp [place, empty, zero]) fun h => h.1.nonzero zero
  by_cases long : lengthLimit < p.bytes.length
  · exact iff_of_false (by simp [place, empty, zero, long])
      fun h => Nat.not_lt.mpr h.1.short long
  rw [place, if_neg empty, if_neg zero, if_neg long]
  exact (and_iff_right ⟨empty, zero, Nat.le_of_not_lt long⟩).symm

/-- What is found under a path is the node at the place that the path leads to. -/
theorem find_eq_ok_iff {tree : Tree} {p : Path} {node : Node} :
    tree.find p true = .ok node ↔
      ∃ location, tree.place p true = .ok (.present location) ∧
        tree.at? location = some node := by
  constructor
  · intro found
    unfold find locate at found
    split at found
    · cases found
    next location located =>
      split at found
      · next there =>
        cases found
        refine ⟨location, ?_, there⟩
        -- of the three answers of the way, only a location that is there is found
        split at located
        · cases located
        · next reached =>
          cases located
          exact reached
        · cases located
      · cases found
  · rintro ⟨location, reached, there⟩
    simp [find, locate, reached, there]

/-- **From an entry to its directory.**  Whoever reaches an entry of a directory by the
path of the directory and a proper name reaches the directory, which has an entry of
this name. -/
theorem find_child {tree : Tree} {directory : Path} {n : FileName} {node : Node}
    (filled : directory.bytes ≠ []) (proper : n.Proper)
    (found : tree.find (directory.child n) true = .ok node) :
    ∃ above, tree.find directory true = .ok above ∧ above.isDirectory = true ∧
      n ∈ above.entries.map Prod.fst := by
  obtain ⟨location, placed, -⟩ := find_eq_ok_iff.mp found
  obtain ⟨admissible, reached⟩ := place_eq_ok_iff.mp placed
  obtain ⟨steps, toEntry, toDirectory⟩ := Path.steps_child filled proper
  rw [toEntry, Path.child_isAbsolute filled proper] at reached
  -- the way to the entry cannot fail before its last step
  obtain ⟨links, above, onward⟩ | ⟨e, fails⟩ := placeFrom_append tree linkLimit
    (if directory.isAbsolute then [] else tree.workdir) steps
  case inr => exact absurd (reached.symm.trans (fails _ (List.cons_ne_nil _ _))) nofun
  rw [onward] at reached
  obtain ⟨at_, entered, listed⟩ := placeFrom_into reached
  obtain ⟨there, isDirectory⟩ := directoryAt_eq_ok entered
  have toAbove : tree.placeFrom true linkLimit
      (if directory.isAbsolute then [] else tree.workdir) directory.steps
        = .ok (.present above) := by
    rcases toDirectory with way | way
    · simpa [way, placeFrom] using onward []
    · simpa [way, placeFrom, entered] using onward [.here]
  have taken := admissible.of_child filled proper
  refine ⟨at_, find_eq_ok_iff.mpr ⟨above, place_eq_ok_iff.mpr ⟨taken, toAbove⟩, there⟩,
    isDirectory, ?_⟩
  obtain ⟨child, entry⟩ := Option.ne_none_iff_exists'.mp listed
  obtain ⟨pair, found, -⟩ := Option.map_eq_some_iff.mp entry
  have named : pair.1 = n := by simpa using List.find?_some found
  exact named ▸ List.mem_map_of_mem (List.mem_of_find?_eq_some found)

/-- A directory below another one is one of the names that the other one lists, if it
can be listed. -/
theorem mem_list_of_isDirectory_child {tree : Tree} {directory : Path} {n : FileName}
    (filled : directory.bytes ≠ []) (proper : n.Proper)
    (below : tree.isDirectory (directory.child n) = true) :
    tree.isDirectory directory = true ∧
      ∀ names, tree.list directory = .ok names → n ∈ names := by
  unfold isDirectory at below
  split at below
  next node found =>
    obtain ⟨above, there, isDirectory, listed⟩ := find_child filled proper found
    refine ⟨by simp [Tree.isDirectory, there, isDirectory], fun names given => ?_⟩
    simp only [list, there, isDirectory, Bool.not_true, Bool.false_eq_true, if_false] at given
    -- it is a directory, so the listing can only fail for want of permission
    split at given
    · cases given
      exact listed
    · cases given
  next => cases below

end Tree

/-! ## What a walk reaches

The walk is a recursion on the tree of nodes that carries a list; the relation is one way
down.  The two agree by induction, a file at a time.
-/

/-- A node at or below another one, each with its path.  Every directory that the way
down leads through is one that can be entered. -/
inductive Node.Within (entered : Path → Node → Prop) : Path → Node → Path → Node → Prop
  | here (p : Path) (node : Node) : Within entered p node p node
  | down {p q : Path} {es : List (FileName × Node)} {mode : Nat} {t : Instant}
      {n : FileName} {child node : Node} (enter : entered p (.directory es mode t))
      (listed : (n, child) ∈ es) (further : Within entered (p.child n) child q node) :
      Within entered p (.directory es mode t) q node

namespace Node

variable {entered entered' : Path → Node → Prop}

theorem Within.imp (more : ∀ p node, entered p node → entered' p node)
    {p q : Path} {node last : Node} (within : node.Within entered p q last) :
    node.Within entered' p q last := by
  induction within with
  | here p node => exact .here p node
  | down enter listed _ ih => exact .down (more _ _ enter) listed ih

/-- If every directory at or below a node can be entered, so can those on a way down. -/
theorem Within.of_open {p q : Path} {node last : Node}
    (within : node.Within (fun _ _ => True) p q last)
    (all : ∀ at_ directory, node.Within (fun _ _ => True) p at_ directory →
      directory.isDirectory = true → entered at_ directory) :
    node.Within entered p q last := by
  induction within with
  | here p node => exact .here p node
  | down _ listed _ ih =>
      exact .down (all _ _ (.here _ _) rfl) listed
        (ih fun at_ directory further => all at_ directory (.down trivial listed further))

theorem mem_regularFilesOf {enterable : Node → Bool} {p : Path} {file : Path × Nat}
    {es : List (FileName × Node)} :
    file ∈ regularFilesOf enterable p es ↔
      ∃ n child, (n, child) ∈ es ∧ file ∈ child.regularFiles enterable (p.child n) := by
  induction es with
  | nil => simp [regularFilesOf]
  | cons entry rest ih =>
      rw [regularFilesOf, List.mem_append, ih]
      constructor
      · rintro (first | ⟨n, child, listed, found⟩)
        · exact ⟨entry.1, entry.2, .head _, first⟩
        · exact ⟨n, child, .tail _ listed, found⟩
      · rintro ⟨n, child, listed, found⟩
        rcases List.mem_cons.mp listed with rfl | listed
        · exact .inl found
        · exact .inr ⟨n, child, listed, found⟩

/-- The directories that a walk enters: the system takes their paths, and their entries
can be listed and looked at. -/
def Entered (enterable : Node → Bool) (p : Path) (directory : Node) : Prop :=
  p.bytes.length ≤ Tree.lengthLimit ∧ enterable directory = true

instance (enterable : Node → Bool) (p : Path) (directory : Node) :
    Decidable (Entered enterable p directory) :=
  inferInstanceAs (Decidable (_ ∧ _))

theorem regularFiles_directory (enterable : Node → Bool) (p : Path)
    (es : List (FileName × Node)) (mode : Nat) (t : Instant) :
    (Node.directory es mode t).regularFiles enterable p =
      if Entered enterable p (.directory es mode t) then regularFilesOf enterable p es
      else [] := by
  rw [regularFiles]
  exact if_congr (by simp [Entered]) rfl rfl

/-- Every file of a walk has been reached through directories that the walk enters, on a path that
is not too long. -/
theorem within_of_mem_regularFiles {enterable : Node → Bool} {q : Path} {number : Nat} :
    ∀ (node : Node) (p : Path), (q, number) ∈ node.regularFiles enterable p →
      node.Within (Entered enterable) p q (.file number) ∧
        q.bytes.length ≤ Tree.lengthLimit
  | .file _, p, found => by
      rw [regularFiles] at found
      split at found
      next short =>
        obtain ⟨rfl, rfl⟩ := Prod.mk.inj (List.mem_singleton.mp found)
        exact ⟨.here _ _, short⟩
      next => cases found
  | .directory es mode t, p, found => by
      rw [regularFiles_directory] at found
      split at found
      next enter =>
        obtain ⟨n, child, listed, found⟩ := mem_regularFilesOf.mp found
        -- the recursion is on the entries as a list, so the bound has to be said
        have smaller : sizeOf child < sizeOf es := by
          have := List.sizeOf_lt_of_mem listed
          simp only [Prod.mk.sizeOf_spec] at this
          omega
        obtain ⟨further, short⟩ := within_of_mem_regularFiles child (p.child n) found
        exact ⟨.down enter listed further, short⟩
      next => cases found
  | .link .., _, found => by cases found
  | .fifo .., _, found => by cases found
  | .device .., _, found => by cases found
termination_by node => sizeOf node
decreasing_by simp only [directory.sizeOf_spec]; omega

/-- **The walk as a relation.**  The walk finds a regular file exactly if some way down
leads to it through directories that can be entered, and the system takes its path. -/
theorem mem_regularFiles {enterable : Node → Bool} {p q : Path} {node : Node} {number : Nat} :
    (q, number) ∈ node.regularFiles enterable p ↔
      node.Within (Entered enterable) p q (.file number) ∧
        q.bytes.length ≤ Tree.lengthLimit := by
  constructor
  · exact within_of_mem_regularFiles node p
  rintro ⟨within, short⟩
  -- the induction is on the way down, whose end is a file
  generalize target : Node.file number = last at within
  induction within with
  | here p node =>
      subst target
      rw [regularFiles, if_pos short]
      exact .head _
  | down enter listed _ ih =>
      rw [regularFiles_directory, if_pos enter]
      exact mem_regularFilesOf.mpr ⟨_, _, listed, ih short target⟩

end Node

namespace Tree

/-- What a walk from a path begins with.  A link is entered if it leads to a directory,
and is nothing otherwise. -/
def walkStart? (tree : Tree) (root : Path) : Option Node :=
  match tree.find root false with
  | .error _ => none
  | .ok (.link ..) =>
    match tree.find root true with
    | .ok (.directory es mode t) => some (.directory es mode t)
    | _ => none
  | .ok node => some node

/-- A node at or below a path, at any depth, whether a walk gets there or not. -/
def Beneath (tree : Tree) (root p : Path) (node : Node) : Prop :=
  ∃ start, tree.walkStart? root = some start ∧ start.Within (fun _ _ => True) root p node

/-- A node that a walk from a path gets to. -/
def Walked (tree : Tree) (root p : Path) (node : Node) : Prop :=
  ∃ start, tree.walkStart? root = some start ∧
    start.Within (Node.Entered tree.enterable) root p node

/-- Every directory at or below a path can be entered, so that a walk gets to each entry. -/
def Open (tree : Tree) (root : Path) : Prop :=
  ∀ p directory, tree.Beneath root p directory → directory.isDirectory = true →
    Node.Entered tree.enterable p directory

/-- The files below a root are those of the node that the walk starts from. -/
theorem filesBelow_eq (tree : Tree) (root : Path) :
    tree.filesBelow root =
      match tree.walkStart? root with
      | none => []
      | some start => start.regularFiles tree.enterable root := by
  unfold filesBelow walkStart?
  cases tree.find root false with
  | error e => rfl
  | ok node =>
      cases node with
      | link target t => dsimp only; cases tree.find root true with
        | error e => rfl
        | ok node => cases node <;> rfl
      | _ => rfl

theorem mem_regularFiles {tree : Tree} {root p : Path} {t : Instant} :
    (p, t) ∈ tree.regularFiles root ↔
      ∃ number, tree.Walked root p (.file number) ∧ p.bytes.length ≤ lengthLimit ∧
        (tree.disk.record number).modified = t := by
  rw [regularFiles, filesBelow_eq, List.mem_map]
  unfold Walked
  cases tree.walkStart? root with
  | none => simp
  | some start => simp [Node.mem_regularFiles, and_assoc]

/-- Where every directory can be entered, the walk reaches all that is beneath its root. -/
theorem Open.walked_iff {tree : Tree} {root p : Path} {node : Node} (all : tree.Open root) :
    tree.Walked root p node ↔ tree.Beneath root p node := by
  constructor
  · rintro ⟨start, begun, within⟩
    exact ⟨start, begun, within.imp fun _ _ _ => trivial⟩
  · rintro ⟨start, begun, within⟩
    exact ⟨start, begun, within.of_open fun at_ directory further =>
      all at_ directory ⟨start, begun, further⟩⟩

/-- A node that a walk from a path gets to and whose time can be asked for. -/
def Dated (tree : Tree) (root p : Path) (node : Node) : Prop :=
  tree.Walked root p node ∧ p.bytes.length ≤ lengthLimit

end Tree

end CrossBench
