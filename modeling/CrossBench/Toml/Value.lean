/-!
# TOML documents as values

A document is a table. A table remembers how it came about, because that decides whether later lines
may still add to it:

* a `literal` table or array is written out in one place and closed;
* a `header` table was opened by a header line, and a `header` array by a header in double brackets;
* an `implied` table stands on the way to a header and may get a header of its own once;
* a `dotted` table stands on the way of a dotted key, and only dotted keys of the same table may add
  to it.

`Fields.openTable`, `Fields.openElement` and `Fields.assign` are the three ways in which a line adds
to a document; each answers nothing if the line is not allowed there.
-/

namespace CrossBench.Toml

/-- How a table or an array came about. -/
inductive Origin where
  | literal
  | header
  | implied
  | dotted
  deriving DecidableEq

/-- A value of a document. Floats and moments are kept as they were written. -/
inductive Value where
  | string (s : String)
  | integer (n : Int)
  | float (written : String)
  | boolean (b : Bool)
  | moment (written : String)
  | array (origin : Origin) (items : List Value)
  | table (origin : Origin) (fields : List (String × Value))
  deriving Inhabited

/-- The fields of a table, in the order in which they were written. Their keys are distinct. -/
abbrev Fields := List (String × Value)

namespace Fields

/-- What a key is bound to. -/
def get? (fields : Fields) (key : String) : Option Value :=
  (fields.find? fun f => f.1 = key).map (·.2)

/-- The fields with the value of `key` changed, or added behind the others. -/
def alter (key : String) (change : Option Value → Option Value) : Fields → Option Fields
  | [] => (change none).map fun v => [(key, v)]
  | (k, v) :: rest =>
    if k = key then (change (some v)).map fun v => (k, v) :: rest
    else (alter key change rest).map ((k, v) :: ·)

/-- Acts on the table that `path` leads to. Tables that are missing on the way are made; on the way
of a dotted key only tables without a header are entered. Of an array of tables the last one is
entered. -/
def within (dotted : Bool) (act : Origin → Fields → Option Fields) :
    List String → Origin → Fields → Option Fields
  | [], origin, fields => act origin fields
  | key :: path, _, fields =>
    fields.alter key fun
      | none =>
        let made := if dotted then Origin.dotted else .implied
        (within dotted act path made []).map (.table made)
      | some (.table origin inner) =>
        if origin = .literal ∨ (dotted ∧ origin = .header) then none
        else (within dotted act path origin inner).map (.table origin)
      | some (.array .header items) =>
        match items.getLast? with
        | some (.table origin inner) =>
          (within dotted act path origin inner).map fun inner =>
            .array .header (items.dropLast ++ [.table origin inner])
        | _ => none
      | some _ => none

/-- Opens the table of a header line. It may exist only as an implied table. -/
def openTable (path : List String) (key : String) (document : Fields) : Option Fields :=
  within false
    (fun _ fields => fields.alter key fun
      | none => some (.table .header [])
      | some (.table .implied inner) => some (.table .header inner)
      | some _ => none)
    path .header document

/-- Opens a further table of an array of tables. -/
def openElement (path : List String) (key : String) (document : Fields) : Option Fields :=
  within false
    (fun _ fields => fields.alter key fun
      | none => some (.array .header [.table .header []])
      | some (.array .header items) => some (.array .header (items ++ [.table .header []]))
      | some _ => none)
    path .header document

/-- Binds a dotted key in a table. The key must be free, and a dotted key may only end in a table
that dotted keys have made. -/
def bind (path : List String) (key : String) (value : Value) (origin : Origin) (table : Fields) :
    Option Fields :=
  within true
    (fun origin fields =>
      if origin = .dotted ↔ path = [] then none
      else fields.alter key fun
        | none => some value
        | some _ => none)
    path origin table

/-- Binds a dotted key in the table that `header` leads to. -/
def assign (header path : List String) (key : String) (value : Value) (document : Fields) :
    Option Fields :=
  within false (bind path key value) header .header document

end Fields

end CrossBench.Toml
