import Mathlib.Algebra.Group.Int.Defs
import Mathlib.Data.List.Pairwise
import Scaffold.Yaml.Basic

/-!
# Proper and untagged values

A value is proper if no mapping in it has a key twice and every integer in it has a 64-bit form, and
untagged if there is no tag in it. In a proper mapping a text is the key of at most one entry
(`Proper.value_unique`), so looking the text up finds this entry (`Proper.textEntry?_eq_some_iff`).
-/

namespace Scaffold.Yaml.Value

/-- No mapping in the value has a key twice, and every integer in it has a 64-bit form. -/
inductive Proper : Value → Prop
  | null : Proper .null
  | bool (b : Bool) : Proper (.bool b)
  | int {n : Int} (hlow : -2 ^ 63 ≤ n) (hhigh : n < 2 ^ 64) : Proper (.int n)
  | float (x : Float) : Proper (.float x)
  | str (s : String) : Proper (.str s)
  | seq {items : List Value} (hitems : ∀ v ∈ items, Proper v) : Proper (.seq items)
  | map {entries : List (Value × Value)}
      (hdistinct : entries.Pairwise fun e e' => e.1.same e'.1 = false)
      (hkeys : ∀ e ∈ entries, Proper e.1) (hvalues : ∀ e ∈ entries, Proper e.2) :
      Proper (.map entries)
  | tagged (tag : String) {v : Value} (hv : Proper v) : Proper (.tagged tag v)

theorem Proper.untag {v : Value} (h : v.Proper) : v.untag.Proper := by
  induction h with
  | tagged tag _ ih => exact ih
  | null => exact .null
  | bool b => exact .bool b
  | int hlow hhigh => exact .int hlow hhigh
  | float x => exact .float x
  | str s => exact .str s
  | seq hitems _ => exact .seq hitems
  | map hdistinct hkeys hvalues => exact .map hdistinct hkeys hvalues

theorem Proper.value_of_mem {entries : List (Value × Value)} (h : (Value.map entries).Proper)
    {e : Value × Value} (he : e ∈ entries) : e.2.Proper := by
  cases h with
  | map _ _ hvalues => exact hvalues e he

theorem Proper.neg_two_pow_le {n : Int} (h : (Value.int n).Proper) : -2 ^ 63 ≤ n := by
  cases h with
  | int hlow _ => exact hlow

/-- There is no tag in the value. -/
inductive Untagged : Value → Prop
  | null : Untagged .null
  | bool (b : Bool) : Untagged (.bool b)
  | int (n : Int) : Untagged (.int n)
  | float (x : Float) : Untagged (.float x)
  | str (s : String) : Untagged (.str s)
  | seq {items : List Value} (hitems : ∀ v ∈ items, Untagged v) : Untagged (.seq items)
  | map {entries : List (Value × Value)} (hkeys : ∀ e ∈ entries, Untagged e.1)
      (hvalues : ∀ e ∈ entries, Untagged e.2) : Untagged (.map entries)

theorem Untagged.untag_eq {v : Value} (h : v.Untagged) : v.untag = v := by
  cases h <;> rfl

@[simp] theorem untagged_str (s : String) : (Value.str s).Untagged := .str s

@[simp] theorem untagged_null : Value.null.Untagged := .null

@[simp] theorem untagged_int (n : Int) : (Value.int n).Untagged := .int n

@[simp] theorem untagged_seq_iff {items : List Value} :
    (Value.seq items).Untagged ↔ ∀ v ∈ items, v.Untagged := by
  refine ⟨?_, .seq⟩
  intro h
  cases h with
  | seq hitems => exact hitems

@[simp] theorem untagged_map_iff {entries : List (Value × Value)} :
    (Value.map entries).Untagged ↔ ∀ e ∈ entries, e.1.Untagged ∧ e.2.Untagged := by
  constructor
  · intro h
    cases h with
    | map hkeys hvalues => exact fun e he => ⟨hkeys e he, hvalues e he⟩
  · intro h
    exact .map (fun e he => (h e he).1) fun e he => (h e he).2

/-- The value is proper, and there is no tag in it. -/
structure Clean (v : Value) : Prop where
  proper : v.Proper
  untagged : v.Untagged

section Entries

variable {entries : List (Value × Value)} {name : String} {v w : Value}

theorem Clean.item_of_mem {items : List Value} (h : (Value.seq items).Clean) (hv : v ∈ items) :
    v.Clean := by
  obtain ⟨hproper, huntagged⟩ := h
  cases hproper with
  | seq hproper =>
      cases huntagged with
      | seq huntagged => exact ⟨hproper v hv, huntagged v hv⟩

theorem Clean.key_of_mem (h : (Value.map entries).Clean) {e : Value × Value} (he : e ∈ entries) :
    e.1.Clean := by
  obtain ⟨hproper, huntagged⟩ := h
  cases hproper with
  | map _ hproper _ =>
      cases huntagged with
      | map huntagged _ => exact ⟨hproper e he, huntagged e he⟩

theorem Clean.value_of_mem (h : (Value.map entries).Clean) {e : Value × Value} (he : e ∈ entries) :
    e.2.Clean := by
  refine ⟨h.proper.value_of_mem he, ?_⟩
  cases h.untagged with
  | map _ huntagged => exact huntagged e he

/-- No text is the key of two entries. -/
theorem Proper.pairwise_keys (h : (Value.map entries).Proper) :
    entries.Pairwise fun e e' => ∀ s, ¬ (e.1 = .str s ∧ e'.1 = .str s) := by
  cases h with
  | map hdistinct _ _ =>
      refine hdistinct.imp ?_
      rintro e e' hdiffer s ⟨he, he'⟩
      simp [he, he', same] at hdiffer

theorem Proper.value_unique (h : (Value.map entries).Proper) (hv : (.str name, v) ∈ entries)
    (hw : (.str name, w) ∈ entries) : v = w := by
  have hsymm : Std.Symm fun e e' : Value × Value => ∀ s, ¬ (e.1 = .str s ∧ e'.1 = .str s) :=
    ⟨fun e e' h s hs => h s hs.symm⟩
  by_contra hne
  exact h.pairwise_keys.forall hv hw (by simp [hne]) name ⟨rfl, rfl⟩

theorem mem_of_textEntry?_eq_some (h : textEntry? entries name = some v) :
    (.str name, v) ∈ entries := by
  obtain ⟨⟨k, w⟩, hmem, hsome⟩ := List.exists_of_findSome?_eq_some h
  cases k with
  | str s =>
      obtain ⟨rfl, rfl⟩ : s = name ∧ w = v := by simpa using hsome
      exact hmem
  | _ => cases hsome

theorem textEntry?_eq_none_iff :
    textEntry? entries name = none ↔ ∀ v, (.str name, v) ∉ entries := by
  rw [ textEntry?, List.findSome?_eq_none_iff]
  constructor
  · intro h v hmem
    simpa using h _ hmem
  · rintro h ⟨k, v⟩ hmem
    cases k with
    | str s =>
        have hs : s ≠ name := by
          rintro rfl
          exact h v hmem
        simp [hs]
    | _ => rfl

theorem Proper.textEntry?_eq_some_iff (h : (Value.map entries).Proper) :
    textEntry? entries name = some v ↔ (.str name, v) ∈ entries := by
  refine ⟨mem_of_textEntry?_eq_some, ?_⟩
  intro hv
  cases hfound : textEntry? entries name with
  | none => exact absurd hv (textEntry?_eq_none_iff.1 hfound v)
  | some w => rw [h.value_unique hv (mem_of_textEntry?_eq_some hfound)]

end Entries

end Scaffold.Yaml.Value
