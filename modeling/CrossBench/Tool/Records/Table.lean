import Std.Data.HashMap

/-!
# Tables of values by key

A key of a table is a text or an integer, and an integer is the same key as the text that it is written
as. The order in which a loop goes through the keys can be observed. It is that of chains into which a
code of each key sorts them: in each chain the key that has been looked for last stands in front, and
when there are too many keys the number of chains doubles. Integers have chains of their own, and get
into those of the texts when a key is looked for as a text.
-/

namespace CrossBench.Tool.Records

/-- What a value is looked for by. -/
inductive Key where
  | number (n : Int)
  | text (s : String)
  deriving DecidableEq

namespace Key

/-- A key as a text. -/
def spelling : Key → String
  | number n => toString n
  | text s => s

end Key

/-- The code of a text. -/
def codeOf (s : String) : UInt32 :=
  s.foldl (fun h c => (h ^^^ UInt32.ofNat c.toNat) * 16777619) 2166136261

/-- The order of the keys of a table. -/
structure Chains where
  texts : Array (List String)
  numbers : Array (List Int)
  /-- Whether all keys are among the texts. -/
  spelt : Bool
  deriving Inhabited

namespace Chains

/-- How many chains there are at first. -/
def fewest : Nat := 64

/-- How many keys there may be for each chain. -/
def density : Nat := 12

/-- No keys. -/
def empty : Chains := ⟨.replicate fewest [], .replicate fewest [], false⟩

/-- The chain of a text among so many. -/
def textPlace (count : Nat) (s : String) : Nat := (codeOf s).toNat % count

/-- The chain of an integer among so many. -/
def numberPlace (count : Nat) (n : Int) : Nat := (n % count).toNat

/-- Chains in which a key stands in front of one. -/
def inFront {α : Type} [BEq α] (chains : Array (List α)) (place : Nat) (a : α) : Array (List α) :=
  chains.modify place fun chain =>
    match chain with
    | [] => [a]
    | b :: rest => if a == b then b :: rest else a :: b :: rest.erase a

/-- Chains without a key. -/
def without {α : Type} [BEq α] (chains : Array (List α)) (place : Nat) (a : α) : Array (List α) :=
  chains.modify place fun chain => chain.erase a

/-- Each chain divided into two. -/
def halved {α : Type} (chains : Array (List α)) (place : Nat → α → Nat) : Array (List α) :=
  let count := chains.size
  let parted (stays : Bool) : Array (List α) := chains.mapIdx fun i chain =>
    chain.filter fun a => (place (2 * count) a == i) == stays
  parted true ++ parted false

/-- The chains with room for so many keys. -/
def roomFor (c : Chains) (size : Nat) : Chains :=
  if size ≤ c.texts.size * density then c
  else { c with texts := halved c.texts textPlace, numbers := halved c.numbers numberPlace }

/-- All keys among the texts. -/
def spell (c : Chains) : Chains :=
  if c.spelt then c
  else
    let texts := c.numbers.foldl (fun texts chain =>
      chain.foldl (fun (texts : Array (List String)) n =>
        let s := toString n
        texts.modify (textPlace texts.size s) (s :: ·)) texts) c.texts
    { c with texts, spelt := true }

/-- The chains with a text in front of its own. -/
def putText (c : Chains) (s : String) : Chains :=
  { c with texts := inFront c.texts (textPlace c.texts.size s) s }

/-- The chains with an integer in front of its own. -/
def putNumber (c : Chains) (n : Int) : Chains :=
  { c with numbers := inFront c.numbers (numberPlace c.numbers.size n) n }

/-- Whether an integer has been looked for as such. -/
def hasNumber (c : Chains) (n : Int) : Bool :=
  (c.numbers.getD (numberPlace c.numbers.size n) []).contains n

/-- The chains when a key has been looked for; `present` says whether it is there, `size` is how many
keys there are with it. -/
def sought (c : Chains) (k : Key) (present : Bool) (size : Nat) : Chains :=
  match k with
  | .text s =>
    let c := c.spell
    (if present then c else c.roomFor size).putText s
  | .number n =>
    if present && c.hasNumber n then c.putNumber n
    else
      let c := if present then c else c.roomFor size
      (if c.spelt then c.putText (toString n) else c).putNumber n

/-- The chains without a key. -/
def removed (c : Chains) (k : Key) : Chains :=
  let s := k.spelling
  let numbers : Array (List Int) :=
    match k, s.toInt? with
    | .number n, _ => without c.numbers (numberPlace c.numbers.size n) n
    | .text s, some n =>
      if toString n = s then without c.numbers (numberPlace c.numbers.size n) n else c.numbers
    | .text _, none => c.numbers
  { c with texts := without c.texts (textPlace c.texts.size s) s, numbers }

/-- The texts in their order. -/
def keys (c : Chains) : List String := c.texts.toList.flatten

end Chains

/-- A table. -/
structure Table (α : Type) where
  values : Std.HashMap String α
  /-- The order of the keys. As long as it is not needed there is none, and the keys are integers in a
  row from 1 on. -/
  chains : Option Chains

namespace Table

variable {α : Type}

/-- The table without keys. -/
def empty : Table α := ⟨∅, none⟩

instance : Inhabited (Table α) := ⟨empty⟩

/-- The table of some values that are numbered from 1 on. -/
def ofList (values : List α) : Table α :=
  ⟨(values.foldl (fun ((n, t) : Nat × Std.HashMap String α) a => (n + 1, t.insert (toString n) a))
    (1, ∅)).2, none⟩

/-- The number of keys. -/
def size (t : Table α) : Nat := t.values.size

/-- The order of the keys, which is made if there is none. -/
def ordered (values : Std.HashMap String α) (chains : Option Chains) : Chains :=
  match chains with
  | some c => c
  | none =>
    (List.range values.size).foldl (fun c i => c.sought (.number ((i : Nat) + 1 : Nat)) false (i + 1)) .empty

/-- Whether a key is one of a row of keys whose order has not been needed. -/
def inRow (size : Nat) (chains : Option Chains) (k : Key) : Bool :=
  match chains, k with
  | none, .number n => 1 ≤ n && n ≤ size
  | _, _ => false

/-- The value of a key, if there is one, and the table when it has been looked for. -/
def get? (t : Table α) (k : Key) : Option α × Table α :=
  let ⟨values, chains⟩ := t
  if values.isEmpty then (none, ⟨values, chains⟩)
  else
    let value := values[k.spelling]?
    if inRow values.size chains k then (value, ⟨values, chains⟩)
    else
      let c := ordered values chains
      let c :=
        match value with
        | some _ => c.sought k true values.size
        | none =>
          match k with
          | .text _ => c.spell
          | .number _ => c
      (value, ⟨values, some c⟩)

/-- The table with a value for a key. -/
def insert (t : Table α) (k : Key) (a : α) : Table α :=
  let ⟨values, chains⟩ := t
  if inRow values.size chains k then ⟨values.insert k.spelling a, chains⟩
  else
    let c := ordered values chains
    let s := k.spelling
    let present := values.contains s
    let values := values.insert s a
    ⟨values, some (c.sought k present values.size)⟩

/-- The table without a key. -/
def erase (t : Table α) (k : Key) : Table α :=
  let s := k.spelling
  let ⟨values, chains⟩ := t
  if values.contains s then
    let c := ordered values chains
    let values := values.erase s
    if values.isEmpty then empty else ⟨values, some (c.removed k)⟩
  else ((Table.mk values chains).get? k).2

/-- The keys in their order, and the table when they have been asked for. -/
def keys (t : Table α) : List String × Table α :=
  let ⟨values, chains⟩ := t
  if values.isEmpty then ([], ⟨values, chains⟩)
  else
    let c := (ordered values chains).spell
    (c.keys, ⟨values, some c⟩)

end Table

end CrossBench.Tool.Records
