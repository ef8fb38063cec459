import Mathlib.Data.List.Forall2
import Mathlib.Data.List.Induction
import Scaffold.Table

/-!
# Tables written pair by pair

Of the pairs that are written into a table, the last one of a name fixes its value
(`get?_insertAll`) and the first one its position (`keys_insertAll`). If the names are distinct, the
table of pairs is the list of pairs itself (`ofPairs_eq_self`), so nothing is replaced.
-/

namespace Scaffold

namespace Table

variable {α β : Type}

@[simp] theorem insertAll_nil (t : Table α) : insertAll t [] = t := rfl

@[simp] theorem insertAll_cons (t : Table α) (p : String × α) (pairs : List (String × α)) :
    insertAll t (p :: pairs) = insertAll (insert t p.1 p.2) pairs := rfl

theorem insertAll_append (t : Table α) (pairs pairs' : List (String × α)) :
    insertAll t (pairs ++ pairs') = insertAll (insertAll t pairs) pairs' := by
  simp [insertAll]

theorem ofPairs_append_singleton (pairs : List (String × α)) (p : String × α) :
    ofPairs (pairs ++ [p]) = insert (ofPairs pairs) p.1 p.2 :=
  insertAll_append [] pairs [p]

theorem get?_insert (t : Table α) (name other : String) (value : α) :
    (insert t name value).get? other = if name = other then some value else t.get? other := by
  by_cases h : name = other
  · rw [if_pos h, ← h, get?_insert_self]
  · rw [if_neg h, get?_insert_of_ne h]

/-- The last pair of a name fixes its value; names that are not written keep theirs. -/
theorem get?_insertAll (t : Table α) (pairs : List (String × α)) (name : String) :
    (insertAll t pairs).get? name = (get? pairs.reverse name).or (t.get? name) := by
  -- from the end, since the pair that is written last decides
  induction pairs using List.reverseRecOn with
  | nil => simp
  | append_singleton pairs p ih =>
      rw [insertAll_append, insertAll_cons, insertAll_nil, get?_insert, ih, List.reverse_append,
        List.reverse_singleton, List.singleton_append, get?_cons]
      by_cases h : p.1 = name
      · rw [if_pos h, if_pos h, Option.some_or]
      · rw [if_neg h, if_neg h]

theorem get?_ofPairs (pairs : List (String × α)) (name : String) :
    (ofPairs pairs).get? name = get? pairs.reverse name := by
  rw [ofPairs, get?_insertAll, get?_nil, Option.or_none]

theorem mem_of_get? {t : Table α} {name : String} {value : α} (h : t.get? name = some value) :
    (name, value) ∈ t := by
  obtain ⟨before, after, rfl, -⟩ := List.lookup_eq_some_iff.1 h
  simp

theorem mem_insert {t : Table α} {name : String} {value : α} {p : String × α}
    (h : p ∈ insert t name value) : p ∈ t ∨ p = (name, value) := by
  induction t with
  | nil => exact Or.inr (List.mem_singleton.1 h)
  | cons q t ih =>
      obtain ⟨name', value'⟩ := q
      rw [insert] at h
      split at h
      · rcases List.mem_cons.1 h with rfl | h
        · exact Or.inr rfl
        · exact Or.inl (List.mem_cons_of_mem _ h)
      · rcases List.mem_cons.1 h with rfl | h
        · exact Or.inl List.mem_cons_self
        · exact (ih h).imp_left (List.mem_cons_of_mem _)

/-- What is in the table was there before, or it was written. -/
theorem mem_insertAll {t : Table α} {pairs : List (String × α)} {p : String × α}
    (h : p ∈ insertAll t pairs) : p ∈ t ∨ p ∈ pairs := by
  induction pairs generalizing t with
  | nil => exact Or.inl h
  | cons q pairs ih =>
      rcases ih h with hinsert | hpairs
      · rcases mem_insert hinsert with hold | rfl
        · exact Or.inl hold
        · exact Or.inr List.mem_cons_self
      · exact Or.inr (List.mem_cons_of_mem _ hpairs)

/-- A table that has each name once holds exactly the entries that are found in it. -/
theorem get?_eq_some_iff_mem {t : Table α} (h : t.keys.Nodup) {name : String} {value : α} :
    t.get? name = some value ↔ (name, value) ∈ t := by
  refine ⟨mem_of_get?, ?_⟩
  induction t with
  | nil => simp
  | cons p t ih =>
      intro hmem
      rw [keys_cons, List.nodup_cons] at h
      rw [get?_cons]
      rcases List.mem_cons.1 hmem with rfl | hmem
      · exact if_pos rfl
      · have hne : p.1 ≠ name := by
          rintro rfl
          exact h.1 (List.mem_map.2 ⟨_, hmem, rfl⟩)
        rw [if_neg hne]
        exact ih h.2 hmem

/-- In a table that has each name once, the order of the entries does not matter. -/
theorem get?_perm {t t' : Table α} (h : t.keys.Nodup) (hperm : t.Perm t') (name : String) :
    t.get? name = t'.get? name := by
  have h' : t'.keys.Nodup := (hperm.map Prod.fst).nodup_iff.1 h
  apply Option.ext
  intro value
  rw [get?_eq_some_iff_mem h, get?_eq_some_iff_mem h', hperm.mem_iff]

/-- An entry of the table is a pair after which its name is not written again. -/
theorem mem_ofPairs_iff {pairs : List (String × α)} {name : String} {value : α} :
    (name, value) ∈ ofPairs pairs ↔
      ∃ before after, pairs = before ++ (name, value) :: after ∧ name ∉ keys after := by
  rw [← get?_eq_some_iff_mem (nodup_keys_ofPairs pairs), get?_ofPairs, get?,
    List.lookup_eq_some_iff]
  constructor
  · rintro ⟨before, after, hpairs, hbefore⟩
    refine ⟨after.reverse, before.reverse, ?_, ?_⟩
    · rw [← List.reverse_reverse pairs, hpairs]
      simp
    · intro hmem
      obtain ⟨p, hp, hname⟩ := List.mem_map.1 hmem
      have hne := hbefore p (List.mem_reverse.1 hp)
      simp [hname] at hne
  · rintro ⟨before, after, rfl, hafter⟩
    refine ⟨after.reverse, before.reverse, by simp, ?_⟩
    intro p hp
    have hmem : p.1 ∈ keys after := List.mem_map_of_mem (List.mem_reverse.1 hp)
    have hne : name ≠ p.1 := fun h => hafter (h ▸ hmem)
    simp [hne]

theorem get?_ofPairs_of_last {before after : List (String × α)} {name : String} {value : α}
    (h : name ∉ keys after) : (ofPairs (before ++ (name, value) :: after)).get? name = some value :=
  (get?_eq_some_iff_mem (nodup_keys_ofPairs _)).2 (mem_ofPairs_iff.2 ⟨before, after, rfl, h⟩)

theorem mem_of_mem_ofPairs {pairs : List (String × α)} {p : String × α}
    (h : p ∈ ofPairs pairs) : p ∈ pairs := by
  obtain ⟨before, after, rfl, -⟩ := mem_ofPairs_iff.1 h
  simp

/-- The names that were there come first; new ones follow in order of their first writing. -/
theorem keys_insertAll (t : Table α) (pairs : List (String × α)) :
    (insertAll t pairs).keys = t.keys ++ (keys pairs).eraseDups.filter (· ∉ t.keys) := by
  induction pairs using List.reverseRecOn with
  | nil => simp
  | append_singleton pairs p ih =>
      have hkeys : keys (pairs ++ [p]) = keys pairs ++ [p.1] := by simp [keys]
      rw [insertAll_append, insertAll_cons, insertAll_nil, keys_insert, ih, hkeys,
        List.eraseDups_append, List.filter_append]
      by_cases ht : p.1 ∈ t.keys <;> by_cases h : p.1 ∈ keys pairs <;>
        simp [ht, h, List.removeAll, List.eraseDups_cons]

/-- The names of the table are those of the pairs, in order of their first writing. -/
theorem keys_ofPairs (pairs : List (String × α)) :
    (ofPairs pairs).keys = (keys pairs).eraseDups := by
  rw [ofPairs, keys_insertAll]
  simp

theorem get?_ofPairs_of_not_mem {pairs : List (String × α)} {name : String}
    (h : name ∉ keys pairs) : (ofPairs pairs).get? name = none := by
  rw [get?_eq_none_iff, keys_ofPairs]
  exact mt List.mem_eraseDups.1 h

theorem eraseDups_eq_self {names : List String} (h : names.Nodup) : names.eraseDups = names := by
  induction names with
  | nil => rfl
  | cons name names ih =>
      obtain ⟨hname, hnames⟩ := List.nodup_cons.1 h
      have hfilter : names.filter (fun other => !other == name) = names := by
        rw [List.filter_eq_self]
        intro other hother
        have hne : other ≠ name := fun heq => hname (heq ▸ hother)
        simp [hne]
      rw [List.eraseDups_cons, hfilter, ih hnames]

theorem insert_eq_append {t : Table α} {name : String} (h : name ∉ t.keys) (value : α) :
    insert t name value = t ++ [(name, value)] := by
  induction t with
  | nil => rfl
  | cons p t ih =>
      rw [keys_cons, List.mem_cons, not_or] at h
      obtain ⟨name', value'⟩ := p
      rw [insert, if_neg (Ne.symm h.1), ih h.2, List.cons_append]

theorem ofPairs_eq_self {pairs : List (String × α)} (h : (keys pairs).Nodup) :
    ofPairs pairs = pairs := by
  induction pairs using List.reverseRecOn with
  | nil => rfl
  | append_singleton pairs p ih =>
      have hkeys : keys (pairs ++ [p]) = keys pairs ++ [p.1] := by simp [keys]
      rw [hkeys, List.nodup_append] at h
      have hp : p.1 ∉ keys pairs := fun hmem => h.2.2 p.1 hmem p.1 (by simp) rfl
      rw [ofPairs_append_singleton, ih h.1, insert_eq_append hp]

theorem insert_eq_self {t : Table α} {name : String} {value : α}
    (h : t.get? name = some value) : insert t name value = t := by
  induction t with
  | nil => simp at h
  | cons p t ih =>
      obtain ⟨name', value'⟩ := p
      rw [get?_cons] at h
      by_cases hname : name' = name
      · rw [if_pos hname] at h
        cases h
        rw [insert, if_pos hname, hname]
      · rw [if_neg hname] at h
        rw [insert, if_neg hname, ih h]

theorem get?_map_of_mem (f : String → α) {names : List String} {name : String}
    (h : name ∈ names) : get? (names.map fun n => (n, f n)) name = some (f name) := by
  induction names with
  | nil => simp at h
  | cons n names ih =>
      rw [List.map_cons, get?_cons]
      by_cases hn : n = name
      · rw [if_pos hn, hn]
      · rw [if_neg hn]
        exact ih ((List.mem_cons.1 h).resolve_left (Ne.symm hn))

/-- If the value depends on the name only, writing a name again changes nothing. -/
theorem ofPairs_map (f : String → α) (names : List String) :
    ofPairs (names.map fun n => (n, f n)) = names.eraseDups.map fun n => (n, f n) := by
  induction names using List.reverseRecOn with
  | nil => rfl
  | append_singleton names n ih =>
      rw [List.map_append, List.map_singleton, ofPairs_append_singleton, ih, List.eraseDups_append,
        List.map_append]
      by_cases h : n ∈ names
      · rw [insert_eq_self (get?_map_of_mem f (List.mem_eraseDups.2 h))]
        simp [h, List.removeAll]
      · have hkeys : n ∉ keys (names.eraseDups.map fun n => (n, f n)) := by
          simpa [keys] using h
        rw [insert_eq_append hkeys]
        simp [h, List.removeAll, List.eraseDups_cons]

theorem keys_append (t t' : Table α) : keys (t ++ t') = keys t ++ keys t' := List.map_append

@[simp] theorem keys_mapValues (f : α → β) (t : Table α) : (mapValues f t).keys = t.keys := by
  simp [mapValues, keys]

theorem mapValues_insert (f : α → β) (t : Table α) (name : String) (value : α) :
    mapValues f (insert t name value) = insert (mapValues f t) name (f value) := by
  induction t with
  | nil => rfl
  | cons p t ih =>
      obtain ⟨name', value'⟩ := p
      by_cases h : name' = name
      · simp [insert, h, mapValues]
      · simp only [mapValues] at ih
        simp [insert, h, mapValues, ih]

theorem mapValues_ofPairs (f : α → β) (pairs : List (String × α)) :
    mapValues f (ofPairs pairs) = ofPairs (mapValues f pairs) := by
  induction pairs using List.reverseRecOn with
  | nil => rfl
  | append_singleton pairs p ih =>
      have hmap : mapValues f (pairs ++ [p]) = mapValues f pairs ++ [(p.1, f p.2)] := by
        simp [mapValues]
      rw [ofPairs_append_singleton, mapValues_insert, ih, hmap, ofPairs_append_singleton]

/-- Looking a name up among pairs made from a list is a search in the list. -/
theorem get?_map (f : β → String × α) (l : List β) (name : String) :
    get? (l.map f) name = (l.find? fun x => (f x).1 = name).map fun x => (f x).2 := by
  induction l with
  | nil => rfl
  | cons x l ih =>
      rw [List.map_cons, get?_cons, List.find?_cons]
      by_cases h : (f x).1 = name
      · simp [h]
      · simp [h, ih]

theorem get?_append (t t' : Table α) (name : String) :
    get? (t ++ t') name = (t.get? name).or (t'.get? name) :=
  List.lookup_append

section Forall

/-- If each entry has the name that belongs to what it is made from, so have all of them. -/
theorem keys_eq_map_of_forall₂ {γ : Type} {R : γ → String × β → Prop} {f : γ → String}
    (hname : ∀ x p, R x p → p.1 = f x) {l : List γ} {t : Table β} (h : List.Forall₂ R l t) :
    t.keys = l.map f := by
  induction h with
  | nil => rfl
  | cons hfirst _ ih => rw [keys_cons, hname _ _ hfirst, ih, List.map_cons]

theorem exists_mem_of_forall₂ {γ δ : Type} {R : γ → δ → Prop} {l : List γ} {l' : List δ}
    (h : List.Forall₂ R l l') {x : γ} (hx : x ∈ l) : ∃ y ∈ l', R x y := by
  induction h with
  | nil => simp at hx
  | @cons x' y _ _ hfirst _ ih =>
      rcases List.mem_cons.1 hx with rfl | hx
      · exact ⟨y, List.mem_cons_self, hfirst⟩
      · obtain ⟨y', hy', hR⟩ := ih hx
        exact ⟨y', List.mem_cons_of_mem y hy', hR⟩

theorem exists_split_of_forall₂ {γ δ : Type} {R : γ → δ → Prop} {before after : List γ} {x : γ}
    {l' : List δ} (h : List.Forall₂ R (before ++ x :: after) l') :
    ∃ before' y after', l' = before' ++ y :: after' ∧ R x y ∧ List.Forall₂ R after after' := by
  induction before generalizing l' with
  | nil =>
      cases h with
      | cons hx hafter => exact ⟨[], _, _, rfl, hx, hafter⟩
  | cons _ before ih =>
      cases h with
      | cons _ hrest =>
          obtain ⟨before', y, after', rfl, hx, hafter⟩ := ih hrest
          exact ⟨_ :: before', y, after', rfl, hx, hafter⟩

variable {R : String → α → β → Prop} {t : Table α} {t' : Table β}

/-- What is found in one of two tables corresponds to what is found in the other. -/
theorem exists_get?_of_forall₂
    (h : List.Forall₂ (fun p q => q.1 = p.1 ∧ R p.1 p.2 q.2) t t') {name : String} {value : α}
    (hget : t.get? name = some value) :
    ∃ value', t'.get? name = some value' ∧ R name value value' := by
  induction h with
  | nil => simp at hget
  | @cons p q _ _ hpq _ ih =>
      rw [get?_cons] at hget
      rw [get?_cons, hpq.1]
      by_cases hname : p.1 = name
      · rw [if_pos hname] at hget
        cases hget
        exact ⟨q.2, if_pos hname, hname ▸ hpq.2⟩
      · rw [if_neg hname] at hget ⊢
        exact ih hget

end Forall

end Table

end Scaffold
