/-!
# Tables

A table keeps its entries in the order in which their names first came in. Writing a name again
replaces the value and leaves the entry where it stands, so the first writing of a name fixes its
position and the last one its value.

Looking a name up finds the first entry of that name. Tables built by `insert` have one entry per
name (`nodup_keys_insert`).
-/

namespace Scaffold

/-- Entries by name, in order of first insertion. -/
abbrev Table (α : Type) := List (String × α)

namespace Table

variable {α β : Type}

/-- The value under a name. -/
def get? (t : Table α) (name : String) : Option α :=
  t.lookup name

/-- Whether the name has an entry. -/
def contains (t : Table α) (name : String) : Bool :=
  (t.get? name).isSome

/-- The names, in order. -/
def keys (t : Table α) : List String :=
  t.map Prod.fst

/-- Sets the value under a name: in place where the name has an entry, else at the end. -/
def insert : Table α → String → α → Table α
  | [], name, value => [(name, value)]
  | (name', value') :: t, name, value =>
      if name' = name then (name, value) :: t else (name', value') :: insert t name value

/-- Writes the pairs into `t` one after the other. -/
def insertAll (t : Table α) (pairs : List (String × α)) : Table α :=
  pairs.foldl (fun t p => insert t p.1 p.2) t

/-- The table of a list of pairs, written one after the other. -/
def ofPairs (pairs : List (String × α)) : Table α :=
  insertAll [] pairs

/-- Applies `f` to every value. -/
def mapValues (f : α → β) (t : Table α) : Table β :=
  t.map fun p => (p.1, f p.2)

@[simp] theorem get?_nil (name : String) : get? ([] : Table α) name = none := rfl

theorem get?_cons (name' : String) (value : α) (t : Table α) (name : String) :
    get? ((name', value) :: t) name = if name' = name then some value else get? t name := by
  by_cases h : name' = name
  · simp [get?, h]
  · simp [get?, List.lookup_cons, h, beq_false_of_ne (Ne.symm h)]

@[simp] theorem keys_nil : keys ([] : Table α) = [] := rfl

@[simp] theorem keys_cons (p : String × α) (t : Table α) : keys (p :: t) = p.1 :: keys t := rfl

theorem contains_eq_true_iff {t : Table α} {name : String} :
    t.contains name = true ↔ name ∈ t.keys := by
  induction t with
  | nil => simp [contains]
  | cons p t ih =>
      obtain ⟨name', value⟩ := p
      by_cases h : name' = name
      · simp [contains, get?_cons, h]
      · simp only [contains] at ih
        simp [contains, get?_cons, h, ih, Ne.symm h]

theorem get?_eq_none_iff {t : Table α} {name : String} :
    t.get? name = none ↔ name ∉ t.keys := by
  rw [← contains_eq_true_iff]
  simp [contains]

theorem mem_keys_of_get? {t : Table α} {name : String} {value : α} (h : t.get? name = some value) :
    name ∈ t.keys :=
  contains_eq_true_iff.1 (by simp [contains, h])

@[simp] theorem get?_insert_self (t : Table α) (name : String) (value : α) :
    (insert t name value).get? name = some value := by
  induction t with
  | nil => simp [insert, get?_cons]
  | cons p t ih =>
      obtain ⟨name', value'⟩ := p
      by_cases h : name' = name
      · simp [insert, h, get?_cons]
      · simp [insert, h, get?_cons, ih]

theorem get?_insert_of_ne {t : Table α} {name other : String} {value : α} (h : name ≠ other) :
    (insert t name value).get? other = t.get? other := by
  induction t with
  | nil => simp [insert, get?_cons, h]
  | cons p t ih =>
      obtain ⟨name', value'⟩ := p
      by_cases h' : name' = name
      · subst h'; simp [insert, get?_cons, h]
      · rw [insert, if_neg h', get?_cons, get?_cons, ih]

/-- Writing a known name keeps the names; a new name comes last. -/
theorem keys_insert (t : Table α) (name : String) (value : α) :
    (insert t name value).keys = if name ∈ t.keys then t.keys else t.keys ++ [name] := by
  induction t with
  | nil => simp [insert, keys]
  | cons p t ih =>
      obtain ⟨name', value'⟩ := p
      by_cases h : name' = name
      · subst h; simp [insert, keys]
      · by_cases h' : name ∈ keys t <;> simp [insert, h, ih, h', Ne.symm h]

theorem nodup_keys_insert {t : Table α} (h : t.keys.Nodup) (name : String) (value : α) :
    (insert t name value).keys.Nodup := by
  rw [keys_insert]
  by_cases h' : name ∈ t.keys
  · simpa [h'] using h
  · simp only [h', if_false]
    exact List.nodup_append.2 ⟨h, by simp, by
      intro a ha b hb hab
      simp only [List.mem_singleton] at hb
      subst hab
      exact h' (hb ▸ ha)⟩

theorem nodup_keys_insertAll {t : Table α} (h : t.keys.Nodup) (pairs : List (String × α)) :
    (insertAll t pairs).keys.Nodup := by
  induction pairs generalizing t with
  | nil => exact h
  | cons p pairs ih => exact ih (nodup_keys_insert h p.1 p.2)

theorem nodup_keys_ofPairs (pairs : List (String × α)) : (ofPairs pairs).keys.Nodup :=
  nodup_keys_insertAll (by simp) pairs

end Table

end Scaffold
