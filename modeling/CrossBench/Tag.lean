import CrossBench.Path
import CrossBench.Text.Layout

/-!
# Runtime tags

A benchmark file belongs to the runtime that its extension names. A `Tag` is that extension without
leading dots; the absence of a leading dot is part of the type, so `.sh`, `..sh` and `sh` are one
tag. Tags are ordered by their text, code point by code point, which is also the order of their
bytes.
-/

namespace CrossBench

/-- A text without the dots it begins with. -/
def trimLeadingDots (s : String) : String := String.ofList (s.toList.dropWhile (· == '.'))

@[simp] theorem toList_trimLeadingDots (s : String) :
    (trimLeadingDots s).toList = s.toList.dropWhile (· == '.') := by
  simp [trimLeadingDots]

theorem head?_dropWhile_dot (cs : List Char) :
    (cs.dropWhile (· == '.')).head? ≠ some '.' := by
  induction cs with
  | nil => simp
  | cons c rest ih =>
    by_cases h : c = '.' <;> simp [h, ih]

theorem trimLeadingDots_of_undotted {s : String} (undotted : s.toList.head? ≠ some '.') :
    trimLeadingDots s = s := by
  have kept : s.toList.dropWhile (· == '.') = s.toList := by
    cases chars : s.toList with
    | nil => rfl
    | cons c rest =>
      have other : c ≠ '.' := by simpa [chars] using undotted
      simp [other]
  rw [trimLeadingDots, kept, String.ofList_toList]

/-- The runtime of a benchmark file. -/
structure Tag where
  text : String
  undotted : text.toList.head? ≠ some '.'
  deriving DecidableEq

namespace Tag

/-- The tag of an extension, written with or without its leading dots. -/
def ofExtension (ext : String) : Tag where
  text := trimLeadingDots ext
  undotted := by simpa using head?_dropWhile_dot ext.toList

instance : Inhabited Tag := ⟨ofExtension ""⟩

theorem ext_text {a b : Tag} (h : a.text = b.text) : a = b := by
  cases a; cases b; cases h; rfl

/-- The tag of a benchmark file: its extension, if that is not empty and well-formed text. -/
def ofPath? (p : Path) : Option Tag :=
  match p.extension?.bind Utf8.decode? with
  | some ext => if ext = "" then none else some (ofExtension ext)
  | none => none

instance : LT Tag := ⟨fun a b => a.text < b.text⟩

instance : LE Tag := ⟨fun a b => a.text ≤ b.text⟩

theorem lt_iff {a b : Tag} : a < b ↔ a.text < b.text := Iff.rfl

theorem le_iff {a b : Tag} : a ≤ b ↔ a.text ≤ b.text := Iff.rfl

instance : DecidableLT Tag := fun a b => inferInstanceAs (Decidable (a.text < b.text))

instance : Std.IsLinearOrder Tag where
  le_refl a := Std.le_refl a.text
  le_trans _ _ _ := Std.le_trans (α := String)
  le_antisymm _ _ h h' := ext_text (Std.le_antisymm (α := String) h h')
  le_total a b := Std.le_total (a := a.text) (b := b.text)

instance : Std.LawfulOrderLT Tag where
  lt_iff a b := Std.LawfulOrderLT.lt_iff a.text b.text

/-- The distinct tags of a list, in ascending order. -/
def sortDistinct (tags : List Tag) : List Tag :=
  tags.foldr insertDistinct []
where
  /-- `t` put into its place in an ascending list that may hold it already. -/
  insertDistinct (t : Tag) : List Tag → List Tag
    | [] => [t]
    | u :: rest =>
      if t < u then t :: u :: rest
      else if t = u then u :: rest
      else u :: insertDistinct t rest

end Tag

end CrossBench
