/-!
# Tables

A table lists keys with their values, each key once. A new value for a key takes the place of the
old one (`lookup_put_self`, `lookup_put_other`); a new key comes last (`put_of_absent`).
-/

namespace SmartFolder.Table

variable {α : Type}

/-- `table` with the value of `key` set. -/
def put (key : String) (value : α) : List (String × α) → List (String × α)
  | [] => [(key, value)]
  | (k, v) :: rest => if k = key then (k, value) :: rest else (k, v) :: put key value rest

/-- The table of pairs put in this order. -/
def ofPairs (pairs : List (String × α)) : List (String × α) :=
  pairs.foldl (fun table (k, v) => put k v table) []

theorem lookup_put_self (key : String) (value : α) (table : List (String × α)) :
    (put key value table).lookup key = some value := by
  induction table with
  | nil => simp [put]
  | cons pair rest ih =>
    obtain ⟨k, v⟩ := pair
    by_cases h : k = key
    · simp [put, h]
    · simp [put, h, List.lookup_cons, ih, beq_eq_false_iff_ne.mpr (Ne.symm h)]

theorem lookup_put_other {key other : String} (h : other ≠ key) (value : α)
    (table : List (String × α)) : (put key value table).lookup other = table.lookup other := by
  induction table with
  | nil => simp [put, List.lookup_cons, beq_eq_false_iff_ne.mpr h]
  | cons pair rest ih =>
    obtain ⟨k, v⟩ := pair
    by_cases same : k = key
    · subst same
      simp [put, List.lookup_cons, beq_eq_false_iff_ne.mpr h]
    · simp [put, same, List.lookup_cons, ih]

theorem put_of_absent {key : String} {table : List (String × α)}
    (absent : key ∉ table.map Prod.fst) (value : α) :
    put key value table = table ++ [(key, value)] := by
  induction table with
  | nil => rfl
  | cons pair rest ih =>
    rw [List.map_cons, List.mem_cons, not_or] at absent
    rw [put, if_neg (Ne.symm absent.1), ih absent.2, List.cons_append]

theorem foldl_put_of_distinct (table : List (String × α)) {pairs : List (String × α)}
    (distinct : ((table ++ pairs).map Prod.fst).Nodup) :
    pairs.foldl (fun table (k, v) => put k v table) table = table ++ pairs := by
  induction pairs generalizing table with
  | nil => simp
  | cons pair pairs ih =>
    obtain ⟨k, v⟩ := pair
    have absent : k ∉ table.map Prod.fst := by
      intro member
      rw [List.map_append, List.map_cons, List.nodup_append] at distinct
      exact distinct.2.2 k member k List.mem_cons_self rfl
    have others := ih (table ++ [(k, v)]) (by simpa using distinct)
    rw [← put_of_absent absent v] at others
    rw [List.foldl_cons, others, put_of_absent absent, List.append_assoc, List.singleton_append]

/-- Putting pairs with different keys lists them. -/
theorem ofPairs_of_distinct {pairs : List (String × α)}
    (distinct : (pairs.map Prod.fst).Nodup) : ofPairs pairs = pairs :=
  foldl_put_of_distinct [] distinct

end SmartFolder.Table
