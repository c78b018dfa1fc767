/-!
# Tables

A table maps texts to values and remembers the order in which its keys first appeared: writing a
key again replaces the value and keeps the place. Aliases, settings, registries and catalogs are
tables.

* `get?_insert`: a look-up after a write sees the write at its key and the old table elsewhere.
* `keys_insert`: a write adds its key at the end, unless the key is there already.
-/

namespace LevelForge

/-- An ordered table from texts to values. -/
structure Table (α : Type) where
  -- the entries in the order in which their keys first appeared
  entries : List (String × α)
  nodup_keys : (entries.map Prod.fst).Nodup

namespace Table

variable {α β : Type}

/-- The table without entries. -/
def empty : Table α := ⟨[], .nil⟩

instance : Inhabited (Table α) := ⟨empty⟩

instance [DecidableEq α] : DecidableEq (Table α) := fun a b =>
  if h : a.entries = b.entries then
    .isTrue (by cases a; cases b; simp_all)
  else
    .isFalse fun hab => h (congrArg entries hab)

/-- The keys in order. -/
def keys (t : Table α) : List String := t.entries.map Prod.fst

/-- The number of entries. -/
def size (t : Table α) : Nat := t.entries.length

/-- The value at a key. -/
def get? (t : Table α) (key : String) : Option α := t.entries.lookup key

/-- Whether a key has a value. -/
def contains (t : Table α) (key : String) : Bool := (t.get? key).isSome

/-- The entries after a write: the first entry of the key is replaced, and a key without one goes
to the end. -/
def put (key : String) (value : α) : List (String × α) → List (String × α)
  | [] => [(key, value)]
  | entry :: rest =>
    if entry.1 = key then (key, value) :: rest else entry :: put key value rest

/-- The keys after a write. -/
theorem map_fst_put (key : String) (value : α) (entries : List (String × α)) :
    (put key value entries).map Prod.fst =
      if key ∈ entries.map Prod.fst then entries.map Prod.fst
      else entries.map Prod.fst ++ [key] := by
  induction entries with
  | nil => simp [put]
  | cons entry rest ih =>
    by_cases h : entry.1 = key
    · simp [put, h]
    · have hne : key ≠ entry.1 := fun heq => h heq.symm
      by_cases hmem : key ∈ rest.map Prod.fst
      · simp only [put, h, if_false, List.map_cons, ih, hmem, if_true, List.mem_cons, or_true]
      · simp only [put, h, if_false, List.map_cons, ih, hmem, List.mem_cons, hne, or_self,
          List.cons_append]

/-- A write keeps the keys distinct. -/
theorem nodup_put {entries : List (String × α)} (h : (entries.map Prod.fst).Nodup)
    (key : String) (value : α) : ((put key value entries).map Prod.fst).Nodup := by
  rw [map_fst_put]
  split
  · exact h
  · next hmem =>
    rw [List.nodup_append]
    refine ⟨h, List.nodup_cons.mpr ⟨by simp, .nil⟩, ?_⟩
    intro a ha b hb
    rw [List.mem_singleton.mp hb]
    rintro rfl
    exact hmem ha

/-- Write a value at a key. The key keeps its place if it has one and goes to the end if not. -/
def insert (t : Table α) (key : String) (value : α) : Table α :=
  ⟨put key value t.entries, nodup_put t.nodup_keys key value⟩

/-- Write a value at a key that has none; a key with a value keeps it. -/
def insertNew (t : Table α) (key : String) (value : α) : Table α :=
  if t.contains key then t else t.insert key value

/-- Remove a key and its value. -/
def erase (t : Table α) (key : String) : Table α :=
  ⟨t.entries.filter (·.1 != key), t.nodup_keys.sublist (List.filter_sublist.map _)⟩

/-- The table that results from writing pairs in order. -/
def ofList (pairs : List (String × α)) : Table α :=
  pairs.foldl (fun t pair => t.insert pair.1 pair.2) empty

/-- The table with every value changed. -/
def map (f : α → β) (t : Table α) : Table β :=
  ⟨t.entries.map fun entry => (entry.1, f entry.2), by
    simpa [List.map_map, Function.comp_def] using t.nodup_keys⟩

/-- Whether two tables have the same value, or none, at every key, whatever their orders. -/
def agrees [BEq α] (a b : Table α) : Bool :=
  a.size == b.size && a.entries.all fun entry => b.get? entry.1 == some entry.2

/-- A look-up in a list that starts with an entry. -/
theorem lookup_cons_eq (k : String) (entry : String × α) (rest : List (String × α)) :
    (entry :: rest).lookup k = if k = entry.1 then some entry.2 else rest.lookup k := by
  obtain ⟨key, value⟩ := entry
  rw [List.lookup_cons]
  by_cases h : k = key
  · simp [h]
  · simp [h, beq_eq_false_iff_ne.mpr h]

/-- A look-up after a write. -/
theorem lookup_put (key k : String) (value : α) (entries : List (String × α)) :
    (put key value entries).lookup k = if k = key then some value else entries.lookup k := by
  induction entries with
  | nil => simp [put, lookup_cons_eq]
  | cons entry rest ih =>
    by_cases hentry : entry.1 = key
    · by_cases h : k = key <;> simp [put, hentry, lookup_cons_eq, h]
    · by_cases h : k = entry.1
      · simp [put, hentry, lookup_cons_eq, h]
      · simp [put, hentry, lookup_cons_eq, h, ih]

/-- What is found at a key is an entry of the table. -/
theorem mem_entries_of_get? {t : Table α} {key : String} {value : α}
    (h : t.get? key = some value) : (key, value) ∈ t.entries := by
  obtain ⟨before, after, hentries, -⟩ := List.lookup_eq_some_iff.mp h
  rw [hentries]
  exact List.mem_append_right _ List.mem_cons_self

@[simp]
theorem get?_empty (k : String) : (empty : Table α).get? k = none := rfl

/-- A look-up after a write sees the write at its key and the old table elsewhere. -/
@[simp]
theorem get?_insert (t : Table α) (key k : String) (value : α) :
    (t.insert key value).get? k = if k = key then some value else t.get? k :=
  lookup_put key k value t.entries

/-- A look-up after a write that keeps an existing value. -/
theorem get?_insertNew (t : Table α) (key k : String) (value : α) :
    (t.insertNew key value).get? k =
      if k = key then some ((t.get? key).getD value) else t.get? k := by
  unfold insertNew contains
  cases h : t.get? key with
  | none => simp
  | some old => by_cases hk : k = key <;> simp [hk, h]

/-- A key has a value after a write exactly when it is the written key or had one. -/
@[simp]
theorem contains_insert (t : Table α) (key k : String) (value : α) :
    (t.insert key value).contains k = (k == key || t.contains k) := by
  by_cases h : k = key <;> simp [contains, h]

/-- A key has a value after a write that keeps existing values exactly when it is the written key
or had one. -/
@[simp]
theorem contains_insertNew (t : Table α) (key k : String) (value : α) :
    (t.insertNew key value).contains k = (k == key || t.contains k) := by
  by_cases h : k = key <;> simp [contains, get?_insertNew, h]

/-- A write adds its key at the end, unless the key is there already. -/
theorem keys_insert (t : Table α) (key : String) (value : α) :
    (t.insert key value).keys = if key ∈ t.keys then t.keys else t.keys ++ [key] :=
  map_fst_put key value t.entries

end Table

end LevelForge
