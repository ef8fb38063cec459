import Mathlib.Data.List.Induction
import Mathlib.Data.List.Nodup
import Scaffold.Files.Disk

/-!
# What is on a disk

The table of a disk is read with `node?` and written with `set`; later proofs use the two through
`node?_set` only. A disk is valid if its table is that of a file system: each location stands there
once, everything lies in a directory and has a name, and paths start from a directory. Setting
something in a directory keeps a disk valid, as long as no directory is replaced by a file. Which
files may not be written has no part in this.
-/

namespace Scaffold

instance decidableEqBytes : DecidableEq ByteArray := fun a b =>
  decidable_of_iff (a.data = b.data) ByteArray.ext_iff.symm

deriving instance DecidableEq for Node, Disk

namespace Disk

variable {d : Disk} {l l' : Location} {n : Node}

/-- The locations in the table of a disk. -/
def keys (d : Disk) : List Location := d.nodes.map Prod.fst

@[simp] theorem node?_nil (d : Disk) : d.node? [] = some .dir := rfl

theorem node?_of_ne_nil (h : l ≠ []) : d.node? l = d.nodes.lookup l := by
  simp [node?, h]

@[simp] theorem readOnly_set (d : Disk) (l : Location) (n : Node) :
    (d.set l n).readOnly = d.readOnly := rfl

theorem readOnly_mark (h : l ∉ d.readOnly) (readOnly : Bool) :
    (d.mark l readOnly).readOnly = if readOnly then l :: d.readOnly else d.readOnly := by
  cases readOnly with
  | true => simp [mark, h]
  | false =>
      have hfilter : d.readOnly.filter (· != l) = d.readOnly := by
        rw [List.filter_eq_self]
        intro l' hl'
        rw [bne_iff_ne]
        rintro rfl
        exact h hl'
      simp [mark, hfilter]

@[simp] theorem isDirAt_eq_true_iff : d.isDirAt l = true ↔ d.node? l = some .dir := by
  unfold isDirAt
  split <;> simp_all

theorem lookup_cons (l' : Location) (p : Location × Node) (nodes : List (Location × Node)) :
    (p :: nodes).lookup l' = if l' = p.1 then some p.2 else nodes.lookup l' := by
  rw [List.lookup_cons]
  by_cases h : l' = p.1
  · rw [if_pos h, beq_iff_eq.2 h]
  · rw [if_neg h, beq_eq_false_iff_ne.2 h]

theorem lookup_setNode (l l' : Location) (n : Node) (nodes : List (Location × Node)) :
    (setNode l n nodes).lookup l' = if l' = l then some n else nodes.lookup l' := by
  induction nodes with
  | nil => rw [setNode, lookup_cons]
  | cons p nodes ih =>
      obtain ⟨l₀, n₀⟩ := p
      rw [setNode]
      by_cases h : l₀ = l
      · rw [if_pos h, lookup_cons, lookup_cons]
        by_cases h' : l' = l <;> simp [h, h']
      · rw [if_neg h, lookup_cons, lookup_cons, ih]
        by_cases h' : l' = l₀
        · have hne : l' ≠ l := h' ▸ h
          rw [if_pos h', if_neg hne, if_pos h']
        · rw [if_neg h', if_neg h']

theorem keys_setNode (l : Location) (n : Node) (nodes : List (Location × Node)) :
    (setNode l n nodes).map Prod.fst =
      if l ∈ nodes.map Prod.fst then nodes.map Prod.fst else nodes.map Prod.fst ++ [l] := by
  induction nodes with
  | nil => simp [setNode]
  | cons p nodes ih =>
      obtain ⟨l₀, n₀⟩ := p
      by_cases h : l₀ = l
      · simp [setNode, h]
      · rw [setNode, if_neg h, List.map_cons, ih]
        by_cases hmem : l ∈ nodes.map Prod.fst
        · simp [hmem]
        · simp [hmem, Ne.symm h]

theorem node?_set (d : Disk) (hl : l ≠ []) (n : Node) (l' : Location) :
    (d.set l n).node? l' = if l' = l then some n else d.node? l' := by
  cases l' with
  | nil => simp [Ne.symm hl]
  | cons s l' =>
      rw [node?_of_ne_nil (by simp), node?_of_ne_nil (by simp)]
      exact lookup_setNode _ _ _ _

theorem keys_set (d : Disk) (l : Location) (n : Node) :
    (d.set l n).keys = if l ∈ d.keys then d.keys else d.keys ++ [l] :=
  keys_setNode l n d.nodes

theorem keys_prefix_set (d : Disk) (l : Location) (n : Node) : d.keys <+: (d.set l n).keys := by
  rw [keys_set]
  split
  · exact List.prefix_refl _
  · exact List.prefix_append _ _

/-- What is at a location of the table is at that location of the disk. -/
theorem mem_keys_iff (hl : l ≠ []) : l ∈ d.keys ↔ ∃ n, d.node? l = some n := by
  rw [node?_of_ne_nil hl, ← Option.ne_none_iff_exists', ne_eq, List.lookup_eq_none_iff]
  simp only [keys, List.mem_map, bne_iff_ne, not_forall, not_not]
  exact ⟨fun ⟨p, hp, h⟩ => ⟨p, hp, h.symm⟩, fun ⟨p, hp, h⟩ => ⟨p, hp, h.symm⟩⟩

theorem mem_names_iff {s : String} : s ∈ d.names l ↔ ∃ n, d.node? (l ++ [s]) = some n := by
  rw [← mem_keys_iff (by simp), keys, names]
  simp only [List.mem_filterMap, List.mem_map]
  constructor
  · rintro ⟨p, hp, hs⟩
    split at hs
    · rename_i hdrop
      refine ⟨p, hp, ?_⟩
      rw [← hdrop]
      exact (List.dropLast_append_getLast? s hs).symm
    · cases hs
  · rintro ⟨p, hp, hl⟩
    exact ⟨p, hp, by simp [hl]⟩

theorem nodup_names (h : d.keys.Nodup) : (d.names l).Nodup := by
  have hpairwise := List.pairwise_map.1 h
  refine List.pairwise_filterMap.2 (hpairwise.imp ?_)
  intro p q hne s hs s' hs' heq
  subst heq
  apply hne
  dsimp only at hs hs'
  split at hs
  · rename_i hp
    split at hs'
    · rename_i hq
      rw [← List.dropLast_append_getLast? s hs, ← List.dropLast_append_getLast? s hs', hp, hq]
    · cases hs'
  · cases hs

/-- In a table whose locations are distinct, what is found is what is there. -/
theorem lookup_eq_some_iff {nodes : List (Location × Node)} (h : (nodes.map Prod.fst).Nodup) :
    nodes.lookup l = some n ↔ (l, n) ∈ nodes := by
  induction nodes with
  | nil => simp
  | cons p nodes ih =>
      obtain ⟨hp, hnodup⟩ := List.nodup_cons.1 h
      rw [lookup_cons, List.mem_cons]
      by_cases heq : l = p.1
      · have hmem : (l, n) ∉ nodes := fun hmem => hp (List.mem_map.2 ⟨_, hmem, heq⟩)
        rw [if_pos heq, or_iff_left hmem, Option.some.injEq, Prod.ext_iff]
        exact ⟨fun hn => ⟨heq, hn.symm⟩, fun hl => hl.2.symm⟩
      · rw [if_neg heq, ih hnodup]
        simp [Prod.ext_iff, heq]

theorem lookup_eq_none {nodes : List (Location × Node)} (h : l ∉ nodes.map Prod.fst) :
    nodes.lookup l = none := by
  rw [List.lookup_eq_none_iff]
  intro p hp
  simpa using fun heq => h (List.mem_map.2 ⟨p, hp, heq.symm⟩)

/-- A table whose locations are distinct is given by its locations and by what is found there. -/
theorem nodes_eq_of_lookup_eq {nodes nodes' : List (Location × Node)}
    (hkeys : nodes.map Prod.fst = nodes'.map Prod.fst) (hnodup : (nodes.map Prod.fst).Nodup)
    (h : ∀ l, nodes.lookup l = nodes'.lookup l) : nodes = nodes' := by
  induction nodes generalizing nodes' with
  | nil => simpa using hkeys
  | cons p nodes ih =>
      cases nodes' with
      | nil => simp at hkeys
      | cons p' nodes' =>
          obtain ⟨hfirst, hrest⟩ := List.cons.inj hkeys
          obtain ⟨hp, hnodup⟩ := List.nodup_cons.1 hnodup
          have hvalue := h p.1
          rw [lookup_cons, lookup_cons, if_pos rfl, if_pos hfirst] at hvalue
          have hsame : p = p' := Prod.ext hfirst (Option.some.inj hvalue)
          rw [hsame, ih hrest hnodup]
          intro l
          have hl := h l
          rw [lookup_cons, lookup_cons] at hl
          by_cases heq : l = p.1
          · have hp' : p.1 ∉ nodes'.map Prod.fst := hrest ▸ hp
            rw [heq, lookup_eq_none hp, lookup_eq_none hp']
          · rwa [if_neg heq, ← hfirst, if_neg heq] at hl

/-- A text that can be the name of a file or of a directory. -/
@[mk_iff]
structure IsName (s : String) : Prop where
  ne_empty : s ≠ ""
  no_slash : '/' ∉ s.toList
  ne_dot : s ≠ "."
  ne_dots : s ≠ ".."

instance (s : String) : Decidable (IsName s) := decidable_of_iff _ (isName_iff s).symm

/-- The table of a disk is that of a file system. -/
structure Valid (d : Disk) : Prop where
  nodup : d.keys.Nodup
  inside : ∀ l s n, d.node? (l ++ [s]) = some n → IsName s ∧ d.node? l = some .dir
  cwd : d.node? d.cwd = some .dir
  /-- The root is a directory without being in the table. -/
  root : [] ∉ d.keys

theorem valid_iff : d.Valid ↔ d.keys.Nodup ∧
    (∀ l ∈ d.keys, l ≠ [] ∧ (∀ s ∈ l.getLast?, IsName s) ∧ d.node? l.dropLast = some .dir) ∧
      d.node? d.cwd = some .dir := by
  constructor
  · intro h
    refine ⟨h.nodup, fun l hl => ?_, h.cwd⟩
    cases l using List.reverseRecOn with
    | nil => exact absurd hl h.root
    | append_singleton l s =>
        obtain ⟨n, hn⟩ := (mem_keys_iff (by simp)).1 hl
        simpa using h.inside l s n hn
  · rintro ⟨hnodup, hinside, hcwd⟩
    refine ⟨hnodup, fun l s n hn => ?_, hcwd, fun hnil => (hinside [] hnil).1 rfl⟩
    simpa using (hinside (l ++ [s]) ((mem_keys_iff (by simp)).2 ⟨n, hn⟩)).2

instance (d : Disk) : Decidable d.Valid := decidable_of_iff _ valid_iff.symm

theorem Valid.withMarks (h : d.Valid) (marks : List Location) :
    Valid { d with readOnly := marks } :=
  ⟨h.nodup, h.inside, h.cwd, h.root⟩

/-- Whatever is somewhere below a location, there is a directory at that location. -/
theorem Valid.dir_of_append (h : d.Valid) {more : Location} (hne : more ≠ [])
    (hn : d.node? (l ++ more) = some n) : d.node? l = some .dir := by
  induction more using List.reverseRecOn generalizing n with
  | nil => exact absurd rfl hne
  | append_singleton more s ih =>
      rw [← List.append_assoc] at hn
      have hdir := (h.inside _ _ _ hn).2
      by_cases hmore : more = []
      · rwa [hmore, List.append_nil] at hdir
      · exact ih hmore hdir

/-- Nothing is below a file. -/
theorem Valid.eq_nil_of_file (h : d.Valid) {bytes : ByteArray} {more : Location}
    (hl : d.node? l = some (.file bytes)) (hn : d.node? (l ++ more) = some n) : more = [] := by
  by_contra hne
  cases hl.symm.trans (h.dir_of_append hne hn)

/-- Whatever is somewhere below a directory is below one of its entries. -/
theorem Valid.mem_names (h : d.Valid) {s : String} {more : Location}
    (hn : d.node? (l ++ [s] ++ more) = some n) : s ∈ d.names l := by
  refine mem_names_iff.2 ?_
  by_cases hmore : more = []
  · exact ⟨n, by rwa [hmore, List.append_nil] at hn⟩
  · exact ⟨.dir, h.dir_of_append hmore hn⟩

theorem Valid.isName (h : d.Valid) (hn : d.node? l = some n) : ∀ s ∈ l, IsName s := by
  intro s hs
  obtain ⟨front, more, rfl⟩ := List.append_of_mem hs
  rw [List.append_cons] at hn
  by_cases hmore : more = []
  · rw [hmore, List.append_nil] at hn
    exact (h.inside _ _ _ hn).1
  · exact (h.inside _ _ _ (h.dir_of_append hmore hn)).1

theorem Valid.set (h : d.Valid) {s : String} (hs : IsName s) (hl : d.node? l = some .dir)
    (hfree : n = .dir ∨ d.node? (l ++ [s]) ≠ some .dir) : (d.set (l ++ [s]) n).Valid := by
  have hdir : ∀ l', d.node? l' = some .dir → (d.set (l ++ [s]) n).node? l' = some .dir := by
    intro l' hl'
    rw [node?_set d (by simp)]
    split
    · rename_i heq
      rcases hfree with hn | hne
      · rw [hn]
      · exact absurd (heq ▸ hl') hne
    · exact hl'
  refine ⟨?_, ?_, hdir _ h.cwd, ?_⟩
  · rw [keys_set]
    split
    · exact h.nodup
    · rename_i hnew
      refine List.nodup_append.2 ⟨h.nodup, List.nodup_singleton _, ?_⟩
      intro a ha b hb hab
      rw [List.mem_singleton.1 hb] at hab
      exact hnew (hab ▸ ha)
  · intro l' s' n' hnode
    rw [node?_set d (by simp)] at hnode
    split at hnode
    · rename_i heq
      obtain ⟨rfl, hss⟩ := List.append_inj' heq rfl
      cases hss
      exact ⟨hs, hdir _ hl⟩
    · obtain ⟨hname, hparent⟩ := h.inside l' s' n' hnode
      exact ⟨hname, hdir _ hparent⟩
  · rw [keys_set]
    split
    · exact h.root
    · simp [h.root]

/-- A disk whose table goes on where that of another one ends is that disk if the same is found on
both, and the same may not be written. -/
theorem eq_of_node?_eq {e : Disk} (hd : d.Valid) (he : e.Valid) (hcwd : e.cwd = d.cwd)
    (hkeys : d.keys <+: e.keys) (hnode : ∀ l, e.node? l = d.node? l)
    (hmarks : e.readOnly = d.readOnly) : e = d := by
  have hsame : e.keys = d.keys := by
    obtain ⟨new, hnew⟩ := hkeys
    cases new with
    | nil => simpa using hnew.symm
    | cons l new =>
        have hmem : l ∈ e.keys := by simp [← hnew]
        have hne : l ≠ [] := fun hnil => he.root (hnil ▸ hmem)
        have hold : l ∈ d.keys := by
          rw [mem_keys_iff hne, ← hnode, ← mem_keys_iff hne]
          exact hmem
        have hnodup := he.nodup
        rw [← hnew] at hnodup
        exact absurd rfl ((List.nodup_append.1 hnodup).2.2 l hold l List.mem_cons_self)
  have hnodes : e.nodes = d.nodes := by
    refine nodes_eq_of_lookup_eq hsame he.nodup fun l => ?_
    cases l with
    | nil => rw [lookup_eq_none he.root, lookup_eq_none hd.root]
    | cons s l =>
        rw [← node?_of_ne_nil (by simp), ← node?_of_ne_nil (by simp)]
        exact hnode _
  cases d
  cases e
  dsimp only at hcwd hnodes hmarks
  rw [hcwd, hnodes, hmarks]

end Disk

end Scaffold
