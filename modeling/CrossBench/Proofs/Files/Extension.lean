import CrossBench.Proofs.Files.Descent
import CrossBench.Proofs.Text.Utf8
import CrossBench.Tag

/-!
# The tag of a path

A path ends in a name, or in a component that is no name, or it has no components at all.
What stands behind the last name does not count for the tag: slashes, and dots that are a
component of their own.

* `Path.Trailer` — what does not count.
* `Path.LastName` and `Path.Nameless` — the last name of a path, and the paths that have
  none, read off the bytes.
* `Path.fileName?_eq_some_iff` — the components say the same.
* `Path.extensionOf_eq_some_iff` — the extension of a name.
* `Tag.ofPath?_of_every_path` — which paths have which tag.

Both directions go through the segments of a path: a name between slashes is one segment
(`Path.segments_of_parts`), and the segments give the slashes back
(`Path.parts_of_segments`).
-/

namespace CrossBench

namespace Path

/-! ## The last name of a path

Everything is said of bytes: a front that ends in a slash or is empty, a name, and a trailer
that adds no component.
-/

/-- What may stand behind the last name of a path: slashes, and dots that are a component of
their own. -/
inductive Trailer : List UInt8 → Prop
  | nil : Trailer []
  | slash {rest : List UInt8} : Trailer rest → Trailer (slash :: rest)
  | here {rest : List UInt8} : Trailer rest → Trailer (Path.slash :: dot :: rest)

/-- A name begins where its path begins, or behind a slash. -/
def Fronts (front : List UInt8) : Prop := front = [] ∨ front.getLast? = some slash

/-- The last name of a path: only a trailer stands behind it. -/
def LastName (p : Path) (n : FileName) : Prop :=
  n.Proper ∧ ∃ front tail, p.bytes = front ++ n ++ tail ∧ Fronts front ∧ Trailer tail

/-- One segment more in front of what adds segments to any path. -/
theorem segments_append_segment {tail : List UInt8} {added : List FileName}
    (adds : ∀ front, segments (front ++ tail) = segments front ++ added) {s : FileName}
    (whole : slash ∉ s) (front : List UInt8) :
    segments (front ++ slash :: (s ++ tail)) = segments front ++ s :: added := by
  rw [segments_append_slash, adds, segments_of_whole whole, List.singleton_append]

/-- A trailer adds segments that are no components. -/
theorem Trailer.segments {tail : List UInt8} (trailer : Trailer tail) :
    ∃ blanks, (∀ s ∈ blanks, componentOf? s = none) ∧
      ∀ front, segments (front ++ tail) = segments front ++ blanks := by
  induction trailer with
  | nil =>
      refine ⟨[], nofun, fun front => ?_⟩
      rw [List.append_nil, List.append_nil]
  | slash _ ih =>
      obtain ⟨blanks, none, adds⟩ := ih
      exact ⟨[] :: blanks, List.forall_mem_cons.mpr ⟨rfl, none⟩,
        segments_append_segment (s := []) adds List.not_mem_nil⟩
  | here _ ih =>
      obtain ⟨blanks, none, adds⟩ := ih
      exact ⟨[dot] :: blanks, List.forall_mem_cons.mpr ⟨rfl, none⟩,
        segments_append_segment (s := [dot]) adds (by decide)⟩

/-- What stands in front of the last name does not change this name. -/
theorem Fronts.segments {front : List UInt8} (fronts : Fronts front) :
    ∃ before, ∀ n, slash ∉ n → segments (front ++ n) = before ++ [n] := by
  rcases fronts with rfl | last
  · exact ⟨[], fun n whole => segments_of_whole whole⟩
  · obtain ⟨front, rfl⟩ := List.getLast?_eq_some_iff.mp last
    refine ⟨Path.segments front, fun n whole => ?_⟩
    rw [List.append_assoc, List.singleton_append, segments_append_slash,
      segments_of_whole whole]

/-- A name between slashes is one of the segments. -/
theorem segments_of_parts {front n tail : List UInt8} (fronts : Fronts front)
    (trailer : Trailer tail) (whole : slash ∉ n) :
    ∃ before blanks, Path.segments (front ++ n ++ tail) = before ++ n :: blanks ∧
      ∀ s ∈ blanks, componentOf? s = none := by
  obtain ⟨blanks, none, behind⟩ := trailer.segments
  obtain ⟨before, split⟩ := fronts.segments
  refine ⟨before, blanks, ?_, none⟩
  rw [behind, split n whole, List.append_assoc, List.singleton_append]

theorem componentOf?_eq_none_iff {s : FileName} : componentOf? s = none ↔ s = [] ∨ s = [dot] := by
  unfold componentOf?
  split
  next blank => exact iff_of_true rfl blank
  next filled => split <;> exact iff_of_false nofun filled

/-- The first segment of a path and what is behind it. -/
theorem eq_of_segments_cons {bytes : List UInt8} {first : FileName} {more : List FileName}
    (split : segments bytes = first :: more) :
    bytes = first ∧ more = [] ∨ ∃ rest, bytes = first ++ slash :: rest ∧ segments rest = more := by
  induction bytes generalizing first with
  | nil =>
      cases split
      exact .inl ⟨rfl, rfl⟩
  | cons b rest ih =>
      by_cases same : b = slash
      · rw [segments, if_pos same] at split
        cases split
        exact .inr ⟨rest, by rw [same]; rfl, rfl⟩
      · obtain ⟨next, others, found, grown⟩ := segments_cons same rest
        rw [grown] at split
        cases split
        -- the byte goes in front of the first segment of the rest
        rcases ih found with ⟨rfl, rfl⟩ | ⟨behind, rfl, rfl⟩
        · exact .inl ⟨rfl, rfl⟩
        · exact .inr ⟨behind, rfl, rfl⟩

/-- Segments that are no components behind a slash are a trailer. -/
theorem trailer_of_segments {blanks : List FileName} {rest : List UInt8}
    (split : segments rest = blanks) (none : ∀ s ∈ blanks, componentOf? s = none) :
    Trailer (slash :: rest) := by
  induction blanks generalizing rest with
  | nil => exact absurd split (segments_ne_nil rest)
  | cons s blanks ih =>
      obtain ⟨here, later⟩ := List.forall_mem_cons.mp none
      -- a segment that is no component is empty or a dot
      have kind := componentOf?_eq_none_iff.mp here
      rcases eq_of_segments_cons split with ⟨rfl, -⟩ | ⟨behind, rfl, found⟩
      · rcases kind with rfl | rfl
        · exact .slash .nil
        · exact .here .nil
      · have trailer := ih found later
        rcases kind with rfl | rfl
        · exact .slash trailer
        · exact .here trailer

/-- A path whose segments end with a name and blanks is a front, the name and a trailer. -/
theorem parts_of_segments {bytes : List UInt8} {before blanks : List FileName} {n : FileName}
    (split : segments bytes = before ++ n :: blanks) (none : ∀ s ∈ blanks, componentOf? s = none) :
    ∃ front tail, bytes = front ++ n ++ tail ∧ Fronts front ∧ Trailer tail := by
  induction before generalizing bytes with
  | nil =>
      rcases eq_of_segments_cons split with ⟨rfl, -⟩ | ⟨rest, rfl, found⟩
      · exact ⟨[], [], by simp, .inl rfl, .nil⟩
      · exact ⟨[], slash :: rest, by simp, .inl rfl, trailer_of_segments found none⟩
  | cons s before ih =>
      rcases eq_of_segments_cons split with ⟨-, empty⟩ | ⟨rest, rfl, found⟩
      · simp at empty
      · obtain ⟨front, tail, rfl, fronts, trailer⟩ := ih found
        refine ⟨s ++ slash :: front, tail, by simp, .inr ?_, trailer⟩
        -- the slash behind the segment closes the front
        rcases fronts with rfl | last
        · simp
        · rw [List.getLast?_append, List.getLast?_cons_of_ne_nil, last]
          · rfl
          · rintro rfl
            cases last

theorem componentOf?_eq_name_iff {s n : FileName} :
    componentOf? s = some (.name n) ↔ s = n ∧ n ≠ [] ∧ n ≠ [dot] ∧ n ≠ [dot, dot] := by
  unfold componentOf?
  constructor
  · intro named
    split at named
    · cases named
    next visible =>
      split at named
      · cases named
      next notParent =>
        obtain ⟨filled, notHere⟩ := not_or.mp visible
        cases named
        exact ⟨rfl, filled, notHere, notParent⟩
  · rintro ⟨rfl, filled, notHere, notParent⟩
    rw [if_neg (not_or.mpr ⟨filled, notHere⟩), if_neg notParent]

/-- The last component that is not at the start of a path. -/
theorem fileName?_eq_some_iff_findSome? {p : Path} {n : FileName} :
    p.fileName? = some n ↔
      (segments p.bytes).reverse.findSome? componentOf? = some (.name n) := by
  unfold fileName? components
  rw [List.getLast?_append, List.getLast?_filterMap]
  cases found : (segments p.bytes).reverse.findSome? componentOf? with
  | none =>
      -- what a path can begin with is no name
      refine iff_of_false (fun named => ?_) nofun
      split_ifs at named <;> simp at named
  | some c => cases c <;> simp

/-- **The file name of a path is its last name.** -/
theorem fileName?_eq_some_iff {p : Path} {n : FileName} :
    p.fileName? = some n ↔ p.LastName n := by
  rw [fileName?_eq_some_iff_findSome?, List.findSome?_eq_some_iff]
  constructor
  · rintro ⟨after, s, before, split, component, none⟩
    obtain ⟨rfl, filled, notHere, notParent⟩ := componentOf?_eq_name_iff.mp component
    -- the search goes from the last segment to the first
    have forward : segments p.bytes = before.reverse ++ s :: after.reverse := by
      simpa using congrArg List.reverse split
    have whole : slash ∉ s := segments_whole p.bytes s (forward ▸ by simp)
    exact ⟨⟨filled, whole, notHere, notParent⟩, parts_of_segments forward fun s mem =>
      none s (List.mem_reverse.mp mem)⟩
  · rintro ⟨proper, front, tail, bytes, fronts, trailer⟩
    obtain ⟨before, blanks, split, none⟩ := segments_of_parts fronts trailer proper.whole
    refine ⟨blanks.reverse, n, before.reverse, ?_, ?_, ?_⟩
    · rw [bytes, split]
      simp
    · exact componentOf?_eq_name_iff.mpr ⟨rfl, proper.filled, proper.notHere, proper.notParent⟩
    · exact fun s mem => none s (List.mem_reverse.mp mem)

/-- The path of an entry ends in the name of the entry. -/
theorem lastName_child {directory : Path} {n : FileName} (proper : n.Proper) :
    (directory.child n).LastName n := by
  by_cases filled : directory.bytes = []
  · -- behind the empty path nothing is put in front of the name
    have same : directory.child n = ⟨n⟩ := by
      rw [child, join, filled]
      split <;> rfl
    rw [same]
    exact ⟨proper, [], [], by simp, .inl rfl, .nil⟩
  · exact fileName?_eq_some_iff.mp (fileName?_child filled proper)

/-! ## Extensions

The dot that counts is the last one in the name, and a name that only begins with one has no
extension.
-/

/-- A name is divided at its last dot. -/
theorem splitLastDot_append {stem ext : FileName} (undotted : dot ∉ ext) :
    splitLastDot (stem ++ dot :: ext) = some (stem, ext) := by
  have none : ∀ b ∈ ext.reverse, (b != dot) = true := fun b mem =>
    bne_iff_ne.mpr fun same => undotted (same ▸ List.mem_reverse.mp mem)
  have behind : ((stem ++ dot :: ext).reverse.takeWhile (· != dot)).reverse = ext := by
    rw [List.reverse_append, List.reverse_cons, List.append_assoc,
      List.takeWhile_append_of_pos none]
    simp
  have before : (stem ++ dot :: ext).length - ext.length - 1 = stem.length := by
    simp
    omega
  unfold splitLastDot
  rw [behind, if_pos (by simp), before, List.take_left]

/-- A name has what follows its last dot as its extension, unless nothing stands in front of the
dot. -/
theorem extensionOf_append {stem ext : FileName} (undotted : dot ∉ ext) :
    extensionOf (stem ++ dot :: ext) = if stem = [] then none else some ext := by
  rw [extensionOf, splitLastDot_append undotted]

theorem extensionOf_of_undotted {n : FileName} (undotted : dot ∉ n) : extensionOf n = none := by
  rw [extensionOf, splitLastDot, if_neg undotted]

theorem eq_of_dotted {n : FileName} (dotted : dot ∈ n) :
    ∃ stem ext, n = stem ++ dot :: ext ∧ dot ∉ ext := by
  obtain ⟨after, before, split, undotted⟩ :=
    List.eq_append_cons_of_mem (List.mem_reverse.mpr dotted)
  refine ⟨before.reverse, after.reverse, ?_, by simpa using undotted⟩
  simpa using congrArg List.reverse split

/-- **The extension of a name** is what is behind its last dot, if something is in front of it. -/
theorem extensionOf_eq_some_iff {n ext : FileName} :
    extensionOf n = some ext ↔ ∃ stem, stem ≠ [] ∧ n = stem ++ dot :: ext ∧ dot ∉ ext := by
  constructor
  · intro found
    -- without a dot there is no extension
    by_cases dotted : dot ∈ n
    · obtain ⟨stem, behind, rfl, undotted⟩ := eq_of_dotted dotted
      rw [extensionOf_append undotted] at found
      split at found
      · cases found
      next some =>
        cases found
        exact ⟨stem, some, rfl, undotted⟩
    · rw [extensionOf_of_undotted dotted] at found
      cases found
  · rintro ⟨stem, some, rfl, undotted⟩
    rw [extensionOf_append undotted, if_neg some]

/-- **The extension of a path**, read off its bytes. -/
theorem extension?_eq_some_iff {p : Path} {ext : FileName} :
    p.extension? = some ext ↔
      ∃ stem, stem ≠ [] ∧ p.LastName (stem ++ dot :: ext) ∧ dot ∉ ext := by
  simp only [extension?, Option.bind_eq_some_iff, fileName?_eq_some_iff, extensionOf_eq_some_iff]
  constructor
  · rintro ⟨n, last, stem, some, rfl, undotted⟩
    exact ⟨stem, some, last, undotted⟩
  · rintro ⟨stem, some, last, undotted⟩
    exact ⟨_, last, stem, some, rfl, undotted⟩

/-- A path without a last name.  It has no component but the one that it can begin with,
as the empty path and a root, or its last component leads to a parent. -/
def Nameless (p : Path) : Prop :=
  ∃ front tail, p.bytes = front ++ tail ∧ Trailer tail ∧
    (front = [] ∨ front = [dot] ∨ ∃ before, front = before ++ [dot, dot] ∧ Fronts before)

/-- A path that ends at a root, in two dots or nowhere has no last name. -/
theorem fileName?_of_nameless {p : Path} (nameless : p.Nameless) : p.fileName? = none := by
  obtain ⟨front, tail, bytes, trailer, kind⟩ := nameless
  refine Option.eq_none_iff_forall_ne_some.mpr fun n named => ?_
  rw [fileName?_eq_some_iff_findSome?, bytes] at named
  obtain ⟨blanks, none, split⟩ := trailer.segments
  have skip : blanks.reverse.findSome? componentOf? = .none := by
    simpa using none
  rw [split, List.reverse_append, List.findSome?_append, skip] at named
  rcases kind with rfl | rfl | ⟨before, rfl, fronts⟩
  · cases named
  · cases named
  · obtain ⟨before, split⟩ := fronts.segments
    rw [split _ (by decide)] at named
    simp at named
    cases named

end Path

/-- A directory can give an entry a name with an extension. -/
theorem FileName.proper_of_dotted {stem ext : FileName} (some : stem ≠ [])
    (whole : Path.slash ∉ stem) (filled : ext ≠ []) (undotted : Path.dot ∉ ext)
    (unslashed : Path.slash ∉ ext) : FileName.Proper (stem ++ Path.dot :: ext) := by
  obtain ⟨s, stem, rfl⟩ := List.exists_cons_of_ne_nil some
  obtain ⟨e, ext, rfl⟩ := List.exists_cons_of_ne_nil filled
  constructor
  · exact List.cons_ne_nil _ _
  · have other : Path.slash ≠ Path.dot := by decide
    simp only [List.mem_append, List.mem_cons, not_or] at whole unslashed ⊢
    exact ⟨whole, other, unslashed⟩
  -- there are three bytes at least
  all_goals
    intro same
    have length := congrArg List.length same
    simp only [List.length_append, List.length_cons, List.length_nil] at length
    omega

theorem Utf8.encode_eq_nil_iff {s : String} : Utf8.encode s = [] ↔ s = "" :=
  ⟨fun same => Utf8.encode_injective (same.trans Utf8.encode_empty.symm),
    fun same => same ▸ Utf8.encode_empty⟩

theorem dot_mem_encode_iff {s : String} : Path.dot ∈ Utf8.encode s ↔ '.' ∈ s.toList :=
  Utf8.mem_encode_iff (d := '.') (by decide)

theorem slash_mem_encode_iff {s : String} : Path.slash ∈ Utf8.encode s ↔ '/' ∈ s.toList :=
  Utf8.mem_encode_iff (d := '/') (by decide)

namespace Tag

/-- A text without dots is its own tag. -/
theorem text_ofExtension {ext : String} (undotted : '.' ∉ ext.toList) :
    (ofExtension ext).text = ext :=
  trimLeadingDots_of_undotted fun first => undotted (List.mem_of_head? first)

/-- **The tag of a path**, read off its bytes: it is a text, it is not empty, and a name stands in
front of its dot. -/
theorem ofPath?_eq_some_iff {p : Path} {t : Tag} :
    ofPath? p = some t ↔ ∃ stem, stem ≠ [] ∧ t.text ≠ "" ∧ '.' ∉ t.text.toList ∧
      p.LastName (stem ++ Path.dot :: Utf8.encode t.text) := by
  -- what stands behind the last dot, as far as it is text
  have read (s : String) : p.extension?.bind Utf8.decode? = some s ↔
      ∃ stem, stem ≠ [] ∧ p.LastName (stem ++ Path.dot :: Utf8.encode s) ∧ '.' ∉ s.toList := by
    simp only [Option.bind_eq_some_iff, Utf8.decode?_eq_some_iff, exists_eq_right,
      Path.extension?_eq_some_iff, dot_mem_encode_iff]
  unfold ofPath?
  constructor
  · intro tagged
    split at tagged
    next ext found =>
      obtain ⟨stem, some, last, undotted⟩ := (read ext).mp found
      split at tagged
      · cases tagged
      next filled =>
        cases tagged
        rw [text_ofExtension undotted]
        exact ⟨stem, some, filled, undotted, last⟩
    next => cases tagged
  · rintro ⟨stem, some, filled, undotted, last⟩
    rw [(read t.text).mpr ⟨stem, some, last, undotted⟩]
    dsimp only
    rw [if_neg filled]
    exact congrArg Option.some (ext_text (text_ofExtension undotted))

theorem ofPath?_of_fileName? {p : Path} (nameless : p.fileName? = none) : ofPath? p = none := by
  rw [ofPath?, Path.extension?, nameless]
  rfl

theorem ofPath?_of_extensionOf {p : Path} {n : FileName} (last : p.LastName n)
    (plain : Path.extensionOf n = none ∨ Path.extensionOf n = some []) : ofPath? p = none := by
  rw [ofPath?, Path.extension?, Path.fileName?_eq_some_iff.mpr last]
  rcases plain with plain | plain <;> rw [Option.bind_some, plain] <;> rfl

/-- **The tag of a path** is read off its last name: behind the last dot of this name
stands the text of the tag, and in front of the dot stands something.

The last name is described by bytes alone, so the law says what slashes and dots in the
middle and at the end of a path mean for its tag. -/
theorem ofPath?_of_every_path :
    (∀ (p : Path) (t : Tag), ofPath? p = some t ↔
      ∃ stem ext, stem ≠ [] ∧ ext ≠ [] ∧ Path.dot ∉ ext ∧ ext = Utf8.encode t.text ∧
        p.LastName (stem ++ Path.dot :: ext)) ∧
    (∀ p : Path, p.Nameless → ofPath? p = none) ∧
    (∀ (directory : Path) (stem : FileName) (ext : String), stem ≠ [] → Path.slash ∉ stem →
      ext ≠ "" → '.' ∉ ext.toList → '/' ∉ ext.toList →
        ofPath? (directory.join ⟨stem ++ Path.dot :: Utf8.encode ext⟩)
          = some (ofExtension ext)) ∧
    (∀ (p : Path) (n : FileName), p.LastName n →
      (Path.dot ∉ n ∨ n.getLast? = some Path.dot ∨
        ∃ rest, n = Path.dot :: rest ∧ Path.dot ∉ rest) → ofPath? p = none) ∧
    ∀ (p : Path) (t : Tag), ofPath? p = some t → '.' ∉ t.text.toList := by
  refine ⟨?_, ?_, ?_, ?_, ?_⟩
  · intro p t
    rw [ofPath?_eq_some_iff]
    constructor
    · rintro ⟨stem, some, filled, undotted, last⟩
      exact ⟨stem, _, some, mt Utf8.encode_eq_nil_iff.mp filled,
        mt dot_mem_encode_iff.mp undotted, rfl, last⟩
    · rintro ⟨stem, ext, some, filled, undotted, rfl, last⟩
      exact ⟨stem, some, mt Utf8.encode_eq_nil_iff.mpr filled,
        mt dot_mem_encode_iff.mpr undotted, last⟩
  · intro p nameless
    exact ofPath?_of_fileName? (Path.fileName?_of_nameless nameless)
  · intro directory stem ext some whole filled undotted unslashed
    rw [ofPath?_eq_some_iff, text_ofExtension undotted]
    refine ⟨stem, some, filled, undotted, Path.lastName_child ?_⟩
    exact FileName.proper_of_dotted some whole (mt Utf8.encode_eq_nil_iff.mp filled)
      (mt dot_mem_encode_iff.mp undotted) (mt slash_mem_encode_iff.mp unslashed)
  · intro p n last plain
    refine ofPath?_of_extensionOf last ?_
    -- no dot at all, nothing behind the last one, or nothing before it
    rcases plain with undotted | closed | ⟨rest, rfl, undotted⟩
    · exact .inl (Path.extensionOf_of_undotted undotted)
    · obtain ⟨stem, rfl⟩ := List.getLast?_eq_some_iff.mp closed
      rw [Path.extensionOf_append List.not_mem_nil]
      split
      · exact .inl rfl
      · exact .inr rfl
    · have hidden : Path.extensionOf ([] ++ Path.dot :: rest) = none :=
        Path.extensionOf_append undotted
      exact .inl hidden
  · intro p t tagged
    obtain ⟨-, -, -, undotted, -⟩ := ofPath?_eq_some_iff.mp tagged
    exact undotted

example : ofPath? (.ofText "src//a.tar.gz/./") = some (ofExtension "gz") := by decide

end Tag

end CrossBench
