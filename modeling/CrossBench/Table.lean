/-!
# Tables in key order

A `Table` is a finite map that keeps its entries in strictly ascending order of their keys, so two
tables that answer every question alike are equal, and listing a table needs no sorting. The order
is a proof field: `insert` and `ofList` are the only ways in.

`get?` is the view through which the operations are described: `get?_insert` says that an insertion
changes the answer for its own key and for no other.
-/

namespace CrossBench

/-- A finite map, its entries in ascending order of their keys. -/
structure Table (α : Type) (β : Type) [LT α] where
  entries : List (α × β)
  ascending : entries.Pairwise fun a b => a.1 < b.1

namespace Table

variable {α β : Type} [LT α] [DecidableLT α] [DecidableEq α]

/-- The empty table. -/
def empty : Table α β := ⟨[], .nil⟩

instance : Inhabited (Table α β) := ⟨empty⟩

/-- An ascending list of entries with `k` bound to `v`. -/
def put (k : α) (v : β) : List (α × β) → List (α × β)
  | [] => [(k, v)]
  | e :: rest =>
    if k < e.1 then (k, v) :: e :: rest
    else if k = e.1 then (k, v) :: rest
    else e :: put k v rest

theorem mem_put {k : α} {v : β} {entries : List (α × β)} {e : α × β}
    (h : e ∈ put k v entries) : e = (k, v) ∨ e ∈ entries := by
  induction entries with
  | nil => simpa [put] using h
  | cons d rest ih =>
    unfold put at h
    split at h
    · simpa using h
    · split at h
      · rcases List.mem_cons.1 h with h | h
        · exact .inl h
        · exact .inr (List.mem_cons_of_mem _ h)
      · rcases List.mem_cons.1 h with h | h
        · exact .inr (h ▸ List.mem_cons_self)
        · exact (ih h).imp_right (List.mem_cons_of_mem _)

theorem pairwise_put [LE α] [Std.IsLinearOrder α] [Std.LawfulOrderLT α] {k : α} {v : β}
    {entries : List (α × β)} (h : entries.Pairwise fun a b => a.1 < b.1) :
    (put k v entries).Pairwise fun a b => a.1 < b.1 := by
  induction entries with
  | nil => simp [put]
  | cons d rest ih =>
    obtain ⟨hd, hrest⟩ := List.pairwise_cons.1 h
    unfold put
    split
    · rename_i hk
      refine List.pairwise_cons.2 ⟨fun e he => ?_, h⟩
      rcases List.mem_cons.1 he with rfl | he
      · exact hk
      · exact Std.lt_trans hk (hd e he)
    · rename_i hk
      split
      · rename_i hkd
        exact List.pairwise_cons.2 ⟨fun e he => hkd ▸ hd e he, hrest⟩
      · rename_i hkd
        refine List.pairwise_cons.2 ⟨fun e he => ?_, ih hrest⟩
        rcases mem_put he with rfl | he
        · exact Std.lt_of_le_of_ne (Std.not_lt.1 hk) (fun h => hkd h.symm)
        · exact hd e he

/-- The table with `k` bound to `v`, whatever it was bound to before. -/
def insert [LE α] [Std.IsLinearOrder α] [Std.LawfulOrderLT α] (t : Table α β) (k : α) (v : β) :
    Table α β :=
  ⟨put k v t.entries, pairwise_put t.ascending⟩

/-- What `k` is bound to. -/
def get? (t : Table α β) (k : α) : Option β :=
  (t.entries.find? fun e => e.1 = k).map (·.2)

/-- The bound keys, in ascending order. -/
def keys (t : Table α β) : List α := t.entries.map (·.1)

/-- The table of a list of bindings; of two bindings of one key the later one holds. -/
def ofList [LE α] [Std.IsLinearOrder α] [Std.LawfulOrderLT α] (bindings : List (α × β)) :
    Table α β :=
  bindings.foldl (fun t b => t.insert b.1 b.2) empty

omit [DecidableLT α] in
@[simp] theorem get?_empty (k : α) : (empty : Table α β).get? k = none := rfl

theorem find?_put {k : α} {v : β} {entries : List (α × β)} {k' : α} :
    ((put k v entries).find? fun e => e.1 = k').map (·.2)
      = if k = k' then some v else (entries.find? fun e => e.1 = k').map (·.2) := by
  induction entries with
  | nil => by_cases h : k = k' <;> simp [put, h]
  | cons d rest ih =>
    unfold put
    split
    · by_cases h : k = k' <;> simp [h]
    · split
      · rename_i hkd
        by_cases h : k = k'
        · simp [h]
        · have : d.1 ≠ k' := hkd ▸ h
          simp [h, this]
      · rename_i hkd
        by_cases h : d.1 = k'
        · have : k ≠ k' := fun hk => hkd (hk.trans h.symm)
          simp [h, this]
        · simpa [h] using ih

/-- An insertion decides the answer for its own key and leaves every other answer as it was. -/
theorem get?_insert [LE α] [Std.IsLinearOrder α] [Std.LawfulOrderLT α] (t : Table α β) (k k' : α)
    (v : β) : (t.insert k v).get? k' = if k = k' then some v else t.get? k' := find?_put

end Table

end CrossBench
