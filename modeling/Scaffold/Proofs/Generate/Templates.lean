import Mathlib.Data.List.Sort
import Scaffold.Generate.Expand
import Scaffold.Proofs.Files.Written
import Scaffold.Proofs.Text.Bytes

/-!
# The files of a template tree

The files of a template tree are listed in the order in which a walk in depth meets them if it takes
the entries of each directory in the order of their names: two ways from the root are compared name
by name, and names are compared byte by byte. So the files of a directory are those of its first
entry, then those of its second one, and so on (`templateFiles_below`).

For each file it is said where it is written and what is written there.
-/

namespace Scaffold

/-- A file of a template tree: the directories on the way from the root of the tree, the name of the
file, and what it holds. -/
structure TemplateFile where
  dirs : List String
  name : String
  bytes : ByteArray

namespace TemplateFile

/-- The names on the way from the root. -/
def way (f : TemplateFile) : List String := f.dirs ++ [f.name]

theorem ext_way {f g : TemplateFile} (hway : f.way = g.way) (hbytes : f.bytes = g.bytes) :
    f = g := by
  obtain ⟨hdirs, hname⟩ := List.append_inj' hway rfl
  cases f
  cases g
  simp_all

/-- Whether the file is rendered; it is copied otherwise. -/
def isRendered (f : TemplateFile) : Bool := (Files.stem? Expand.ending f.name).isSome

/-- The directory that the entries of a directory are written to. -/
def outDir (texts : Table String) (output : String) (dirs : List String) : String :=
  dirs.foldl (fun out dir => Files.join out (Segment.substitute texts dir)) output

/-- The path that the file is written to. -/
def path (texts : Table String) (output : String) (f : TemplateFile) : String :=
  Files.join (outDir texts output f.dirs) ((Files.stem? Expand.ending f.name).getD f.name)

/-- What is written: the rendered text, or the file as it is. There is nothing to write if the file
is to be rendered and is no text or cannot be rendered. -/
def result (data : Json) (f : TemplateFile) : Option ByteArray :=
  if f.isRendered then
    (String.fromUTF8? f.bytes).bind fun text =>
      (Template.render text data).toOption.map String.toUTF8
  else some f.bytes

/-- The write that the file stands for. -/
def write? (fill : Filling) (output : String) (f : TemplateFile) : Option Write :=
  (f.result fill.data).map fun bytes => ⟨f.path fill.texts output, bytes⟩

theorem path_of_write? {fill : Filling} {output : String} {f : TemplateFile} {w : Write}
    (h : f.write? fill output = some w) : w.path = f.path fill.texts output := by
  obtain ⟨bytes, -, rfl⟩ := Option.map_eq_some_iff.1 h
  rfl

theorem exists_of_mem_writes {fill : Filling} {output : String} {files : List TemplateFile}
    {writes : List Write} (h : files.map (write? fill output) = writes.map some) {w : Write}
    (hw : w ∈ writes) : ∃ f ∈ files, f.write? fill output = some w := by
  have hmem : some w ∈ files.map (write? fill output) := by
    rw [h]
    exact List.mem_map_of_mem hw
  exact List.mem_map.1 hmem

end TemplateFile

/-! ## The order of a walk -/

namespace Expand

theorem sortNames_perm (names : List String) : (sortNames names).Perm names :=
  List.mergeSort_perm _ _

theorem sortNames_eq_insertionSort (names : List String) :
    sortNames names = names.insertionSort (· ≤ ·) :=
  List.mergeSort_eq_insertionSort _ names

theorem pairwise_le_sortNames (names : List String) : (sortNames names).Pairwise (· ≤ ·) :=
  List.pairwise_mergeSort' _ names

theorem pairwise_sortNames {names : List String} (h : names.Nodup) :
    (sortNames names).Pairwise (· < ·) := by
  have hnodup := (sortNames_perm names).nodup_iff.2 h
  exact ((pairwise_le_sortNames names).and hnodup).imp fun ⟨hle, hne⟩ => lt_of_le_of_ne hle hne

/-- What ways are compared by: the bytes of their names. -/
def wayKey (way : List String) : List (List Nat) := way.map Text.bytes

theorem wayKey_injective : Function.Injective wayKey :=
  List.map_injective_iff.2 Text.bytes_strictMono.injective

/-- The ways part, and where they do, the first one takes the name that comes first. -/
def Before (a b : List String) : Prop :=
  ∃ common s s' rest rest', a = common ++ s :: rest ∧ b = common ++ s' :: rest' ∧ s < s'

theorem before_siblings {s s' : String} (h : s < s') (way : List String) :
    Before (way ++ [s]) (way ++ [s']) :=
  ⟨way, s, s', [], [], rfl, rfl, h⟩

theorem Before.append_left {a b : List String} (h : Before a b) (more : List String) :
    Before (a ++ more) b := by
  obtain ⟨common, s, s', rest, rest', rfl, rfl, hlt⟩ := h
  exact ⟨common, s, s', rest ++ more, rest', by simp, rfl, hlt⟩

theorem Before.append_right {a b : List String} (h : Before a b) (more : List String) :
    Before a (b ++ more) := by
  obtain ⟨common, s, s', rest, rest', rfl, rfl, hlt⟩ := h
  exact ⟨common, s, s', rest, rest' ++ more, rfl, by simp, hlt⟩

theorem Before.wayKey_lt {a b : List String} (h : Before a b) : wayKey a < wayKey b := by
  obtain ⟨common, s, s', rest, rest', rfl, rfl, hlt⟩ := h
  rw [wayKey, wayKey, List.map_append, List.map_append, List.map_cons, List.map_cons]
  exact List.append_left_lt (.rel (Text.bytes_strictMono hlt))

/-- Lists in the order of a walk that have the same files are equal. -/
theorem eq_of_pairwise_wayKey {files files' : List TemplateFile}
    (h : files.Pairwise fun f g => wayKey f.way < wayKey g.way)
    (h' : files'.Pairwise fun f g => wayKey f.way < wayKey g.way)
    (hmem : ∀ f, f ∈ files ↔ f ∈ files') : files = files' := by
  have hnodup : ∀ files : List TemplateFile,
      (files.Pairwise fun f g => wayKey f.way < wayKey g.way) → files.Nodup := by
    intro files h
    refine h.imp ?_
    rintro f g hlt rfl
    exact lt_irrefl _ hlt
  refine List.Perm.eq_of_pairwise ?_ h h'
    ((List.perm_ext_iff_of_nodup (hnodup _ h) (hnodup _ h')).2 hmem)
  intro f g _ _ hfg hgf
  exact absurd hfg (lt_asymm hgf)

theorem wayKey_le_append (a more : List String) : wayKey a ≤ wayKey (a ++ more) := by
  rw [wayKey, wayKey, List.map_append]
  exact not_lt.1 (List.not_lt.2 List.le_append_left)

end Expand

namespace Disk

open Expand

variable {d : Disk} {root : Location} {f : TemplateFile}

/-- The file at an entry of the table, if it lies below the root of the tree. -/
def fileBelow? (root : Location) (entry : Location × Node) : Option TemplateFile :=
  match entry.2 with
  | .dir => none
  | .file bytes =>
      if root.isPrefixOf entry.1 then
        (entry.1.drop root.length).getLast?.map fun name =>
          ⟨(entry.1.drop root.length).dropLast, name, bytes⟩
      else none

/-- The files below a location, in the order of a walk. -/
def templateFiles (d : Disk) (root : Location) : List TemplateFile :=
  (d.nodes.filterMap (fileBelow? root)).insertionSort fun f g => wayKey f.way ≤ wayKey g.way

theorem fileBelow?_eq_some_iff {entry : Location × Node} :
    fileBelow? root entry = some f ↔ entry = (root ++ f.way, .file f.bytes) := by
  obtain ⟨l, n⟩ := entry
  constructor
  · intro h
    rw [fileBelow?] at h
    split at h
    · cases h
    · rename_i bytes hn
      split at h
      · rename_i hfront
        obtain ⟨rest, rfl⟩ := List.isPrefixOf_iff_prefix.1 hfront
        obtain ⟨name, hname, rfl⟩ := Option.map_eq_some_iff.1 h
        rw [List.drop_left] at hname ⊢
        have hway := List.dropLast_append_getLast? name hname
        simp only [TemplateFile.way, hway, Prod.mk.injEq, true_and]
        exact hn
      · cases h
  · intro h
    cases h
    simp [fileBelow?, TemplateFile.way, List.isPrefixOf_iff_prefix]

theorem mem_templateFiles_iff (h : d.keys.Nodup) :
    f ∈ d.templateFiles root ↔ d.node? (root ++ f.way) = some (.file f.bytes) := by
  have hne : root ++ f.way ≠ [] := by simp [TemplateFile.way]
  rw [templateFiles, List.mem_insertionSort, List.mem_filterMap, node?_of_ne_nil hne,
    lookup_eq_some_iff h]
  simp only [fileBelow?_eq_some_iff, exists_eq_right]

/-- There is one file at a location. -/
theorem templateFiles_eq_of_way_eq (h : d.keys.Nodup) {g : TemplateFile}
    (hf : f ∈ d.templateFiles root) (hg : g ∈ d.templateFiles root) (hway : f.way = g.way) :
    f = g := by
  have hbytes := (mem_templateFiles_iff h).1 hf
  rw [hway, (mem_templateFiles_iff h).1 hg] at hbytes
  exact TemplateFile.ext_way hway (by simpa using hbytes.symm)

theorem nodup_templateFiles (h : d.keys.Nodup) : (d.templateFiles root).Nodup := by
  refine (List.perm_insertionSort _ _).nodup_iff.2 (List.Nodup.filterMap ?_ (List.Nodup.of_map _ h))
  intro entry entry' f hf hf'
  rw [fileBelow?_eq_some_iff.1 hf, fileBelow?_eq_some_iff.1 hf']

theorem pairwise_templateFiles (h : d.keys.Nodup) :
    (d.templateFiles root).Pairwise fun f g => wayKey f.way < wayKey g.way := by
  have : Std.Total fun f g : TemplateFile => wayKey f.way ≤ wayKey g.way := ⟨fun _ _ => le_total _ _⟩
  have : IsTrans TemplateFile fun f g => wayKey f.way ≤ wayKey g.way := ⟨fun _ _ _ => le_trans⟩
  have hle := List.pairwise_insertionSort (fun f g : TemplateFile => wayKey f.way ≤ wayKey g.way)
    (d.nodes.filterMap (fileBelow? root))
  refine (hle.and (nodup_templateFiles h)).imp_of_mem ?_
  rintro f g hf hg ⟨hle, hne⟩
  refine lt_of_le_of_ne hle fun hkey => hne ?_
  exact templateFiles_eq_of_way_eq h hf hg (wayKey_injective hkey)

/-- Files that are the same on two disks are the same template files. -/
theorem templateFiles_eq {e : Disk} (hd : d.keys.Nodup) (he : e.keys.Nodup)
    (h : ∀ way bytes, e.node? (root ++ way) = some (.file bytes) ↔
      d.node? (root ++ way) = some (.file bytes)) :
    e.templateFiles root = d.templateFiles root := by
  refine eq_of_pairwise_wayKey (pairwise_templateFiles he) (pairwise_templateFiles hd) ?_
  intro f
  rw [mem_templateFiles_iff he, mem_templateFiles_iff hd, h]

/-- The files below a directory are those below its entries, entry by entry in the order of their
names. -/
theorem templateFiles_below (hd : d.Valid) {way : List String}
    (hdir : d.node? (root ++ way) = some .dir) :
    (d.templateFiles root).filter (way <+: ·.way) =
      (sortNames (d.names (root ++ way))).flatMap fun name =>
        (d.templateFiles root).filter (way ++ [name] <+: ·.way) := by
  have hsorted : (d.templateFiles root).Pairwise _ := pairwise_templateFiles hd.nodup
  have hnames : (d.names (root ++ way)).Nodup := nodup_names hd.nodup
  refine eq_of_pairwise_wayKey (hsorted.filter _) (List.pairwise_flatMap.2 ⟨?_, ?_⟩) ?_
  · exact fun name _ => hsorted.filter _
  · refine (pairwise_sortNames hnames).imp fun {name name'} hlt f hf g hg => ?_
    simp only [List.mem_filter, decide_eq_true_eq] at hf hg
    obtain ⟨more, hmore⟩ := hf.2
    obtain ⟨more', hmore'⟩ := hg.2
    rw [← hmore, ← hmore']
    exact (((before_siblings hlt way).append_left more).append_right more').wayKey_lt
  · intro f
    simp only [List.mem_flatMap, List.mem_filter, decide_eq_true_eq, (sortNames_perm _).mem_iff]
    constructor
    · rintro ⟨hf, more, hmore⟩
      have hfile := (mem_templateFiles_iff hd.nodup).1 hf
      cases more with
      | nil =>
          rw [← hmore, List.append_nil, hdir] at hfile
          cases hfile
      | cons name more =>
          refine ⟨name, ?_, hf, more, by simp [← hmore]⟩
          rw [← hmore, ← List.append_assoc, List.append_cons] at hfile
          exact hd.mem_names hfile
    · rintro ⟨name, -, hf, hfront⟩
      exact ⟨hf, (List.prefix_append _ _).trans hfront⟩

end Disk

end Scaffold
