import Mathlib.Data.List.Destutter
import Scaffold.Generate.Project
import Scaffold.Proofs.Files.Locate
import Scaffold.Proofs.Generate.Listing

/-!
# The plugins of a project

The plugins of a project are read off the names in its plugin directory, and nothing else: each name
counts up to its first dot, and what is left of it counts once, unless it is empty. The list that is
found is in the order of bytes, whatever order the system lists the directory in
(`discover_entries`), so a generation as a whole does not depend on that order either
(`generate_listing`).

Repeated names are removed only where they stand side by side. That is enough because the names are
put in order first: in a list in order, removing repeats that stand side by side removes all.
-/

namespace Scaffold

namespace Files

theorem not_mem_firstPart (name : String) : '.' ∉ (firstPart name).toList := by
  intro hdot
  rw [firstPart, String.toList_ofList] at hdot
  simpa using List.all_eq_true.1 List.all_takeWhile '.' hdot

/-- The first dot is looked for behind a text without dots. -/
theorem firstPart_append {p : String} (h : '.' ∉ p.toList) (rest : String) :
    firstPart (p ++ rest) = p ++ firstPart rest := by
  have htake : (p.toList ++ rest.toList).takeWhile (· != '.') =
      p.toList ++ rest.toList.takeWhile (· != '.') := by
    refine List.takeWhile_append_of_pos fun c hc => ?_
    rw [bne_iff_ne]
    rintro rfl
    exact h hc
  apply String.toList_injective
  simp [firstPart, htake]

/-- A text is what stands in a name before its first dot if it has no dot and is the whole name or
is followed by a dot. -/
theorem firstPart_eq_iff {name p : String} :
    firstPart name = p ↔ '.' ∉ p.toList ∧ (name = p ∨ ∃ rest, name = p ++ "." ++ rest) := by
  constructor
  · rintro rfl
    refine ⟨not_mem_firstPart name, ?_⟩
    have hsplit : name.toList = (firstPart name).toList ++ name.toList.dropWhile (· != '.') := by
      rw [firstPart, String.toList_ofList, List.takeWhile_append_dropWhile]
    -- nothing is left behind the text, or what is left starts at the first dot
    cases hrest : name.toList.dropWhile (· != '.') with
    | nil =>
        rw [hrest, List.append_nil] at hsplit
        exact Or.inl (String.toList_injective hsplit)
    | cons c rest =>
        have hc : c = '.' := by
          simpa [hrest] using List.head_dropWhile_not (· != '.') (l := name.toList) (by simp [hrest])
        refine Or.inr ⟨String.ofList rest, String.toList_injective ?_⟩
        rw [hsplit, hrest, hc]
        simp
  · rintro ⟨hdot, rfl | ⟨rest, rfl⟩⟩
    · simpa [firstPart] using firstPart_append hdot ""
    · have hnone : firstPart ("." ++ rest) = "" := by simp [firstPart]
      rw [String.append_assoc, firstPart_append hdot, hnone, String.append_empty]

end Files

namespace Disk

/-- There is a directory at the path, and something of this name in it. -/
def HasEntry (d : Disk) (p name : String) : Prop :=
  ∃ l, d.locate p = .ok l ∧ d.node? l = some .dir ∧ ∃ n, d.node? (l ++ [name]) = some n

theorem hasEntry_iff_of_list {d : Disk} {p name : String} {names : List String}
    (h : d.list p = .ok names) : d.HasEntry p name ↔ name ∈ names := by
  obtain ⟨l, hl, hdir, rfl⟩ := list_eq_ok_iff.1 h
  rw [mem_names_iff]
  constructor
  · rintro ⟨l', hl', -, hn⟩
    cases hl.symm.trans hl'
    exact hn
  · intro hn
    exact ⟨l, hl, hdir, hn⟩

end Disk

namespace Plugins

theorem eraseRepsLoop_eq_destutter' (first : String) (names kept : List String) :
    List.eraseRepsBy.loop (· == ·) first names kept =
      kept.reverse ++ names.destutter' (· ≠ ·) first := by
  -- the loop holds the last name that it has met, apart from those that it has kept before
  induction names generalizing first kept with
  | nil => simp [List.eraseRepsBy.loop]
  | cons name names ih =>
      rw [List.eraseRepsBy.loop]
      by_cases h : first = name
      · subst h
        simp [ih]
      · simp [h, ih, beq_eq_false_iff_ne.2 h]

theorem eraseReps_eq_destutter (names : List String) :
    names.eraseReps = names.destutter (· ≠ ·) := by
  cases names with
  | nil => rfl
  | cons name names => exact eraseRepsLoop_eq_destutter' name names []

theorem ordered_eq_dedup (names : List String) :
    ordered names = (Expand.sortNames names).dedup := by
  rw [ordered, eraseReps_eq_destutter]
  exact (Expand.pairwise_le_sortNames names).destutter_eq_dedup

theorem mem_ordered {p : String} {names : List String} : p ∈ ordered names ↔ p ∈ names := by
  rw [ordered_eq_dedup, List.mem_dedup, (Expand.sortNames_perm names).mem_iff]

theorem pairwise_ordered (names : List String) : (ordered names).Pairwise (· < ·) := by
  rw [ordered_eq_dedup]
  have hle := (Expand.pairwise_le_sortNames names).sublist (List.dedup_sublist _)
  exact (hle.and (List.nodup_dedup _)).imp fun ⟨hle, hne⟩ => lt_of_le_of_ne hle hne

theorem mem_ofNames {p : String} {names : List String} :
    p ∈ ofNames names ↔ p ≠ "" ∧ ∃ name ∈ names, Files.firstPart name = p := by
  rw [ofNames, mem_ordered, List.mem_filter, List.mem_map]
  simp [and_comm]

@[simp] theorem ofNames_nil : ofNames [] = [] := by
  simp [List.eq_nil_iff_forall_not_mem, mem_ofNames]

theorem ofNames_eq_of_perm {names names' : List String} (h : names.Perm names') :
    ofNames names = ofNames names' := by
  rw [ofNames, ofNames, ordered, ordered,
    Expand.sortNames_eq_of_perm ((h.map Files.firstPart).filter _)]

theorem discover_listing (listing : Listing) (root : String) :
    @discover (StateM Disk) _ listing.files root = discover root := by
  unfold discover
  refine congrArg (ExceptT.lift (StateT.lift (Files.existsDir _)) >>= ·) (funext fun found => ?_)
  cases found with
  | false => rfl
  | true =>
      apply listing.bind_list
      intro names names' hperm
      rw [ofNames_eq_of_perm hperm]

/-- Looking for plugins always succeeds and changes nothing. What is found depends on the names in
the directory; there are none if the directory is missing. -/
theorem discover_ends (root : String) (d : Disk) :
    ∃ names, (∀ name, name ∈ names ↔ d.HasEntry (Files.join root directory) name) ∧
      (discover root : Run (StateM Disk) GenerateError (List String)).Ends d
        (.ok (ofNames names)) d := by
  obtain ⟨found, d', hexists, hsame, htrue, hfalse⟩ :=
    Device.run_existsDir (Files.join root directory) d
  obtain rfl : d = d' := hsame.symm
  cases found with
  | false =>
      refine ⟨[], fun name => ?_, .bind_ok (.lift hexists) ?_⟩
      · refine iff_of_false List.not_mem_nil ?_
        rintro ⟨l, hl, hdir, -⟩
        refine (hfalse rfl).resolve_left Device.faulty_disk ?_
        exact Disk.isDir_eq_ok_iff.2 ⟨l, hl, Disk.isDirAt_eq_true_iff.2 hdir⟩
      · rw [ofNames_nil]
        exact .pure [] d
  | true =>
      obtain ⟨l, hl, hdir⟩ := Disk.isDir_eq_ok_iff.1 (htrue rfl)
      have hlist : d.list (Files.join root directory) = .ok (d.names l) :=
        Disk.list_eq_ok_iff.2 ⟨l, hl, Disk.isDirAt_eq_true_iff.1 hdir, rfl⟩
      have hrun : (Files.list (Files.join root directory) : StateM Disk _).run d =
          (d.list (Files.join root directory), d) := rfl
      rw [hlist] at hrun
      refine ⟨d.names l, fun name => (Disk.hasEntry_iff_of_list hlist).symm, ?_⟩
      refine .bind_ok (.lift hexists) (.bind_ok (.ofFiles hrun) ?_)
      exact .bind_ok (.leave _ d) (.pure _ d)

/-- **Plugins do not depend on how a directory is listed.** In whatever order the system lists the
names in the plugin directory, the same plugins are found. They are in strict order of their bytes,
none is empty, and they are the texts before the first dot of the entries, or the entries that have
no dot. -/
theorem discover_entries (root : String) (d : Disk) :
    ∃ plugins,
      (discover root).on d = (.ok plugins, d) ∧
      (∀ listing : Listing,
        Run.on (@discover (StateM Disk) _ listing.files root) d = (.ok plugins, d)) ∧
      plugins.Pairwise (fun p q => Text.bytes p < Text.bytes q) ∧
      "" ∉ plugins ∧
      ∀ p, p ∈ plugins ↔ p ≠ "" ∧ ∃ entry, d.HasEntry (Files.join root directory) entry ∧
        '.' ∉ p.toList ∧ (entry = p ∨ ∃ rest, entry = p ++ "." ++ rest) := by
  obtain ⟨names, hnames, hends⟩ := discover_ends root d
  refine ⟨ofNames names, hends.on_eq, fun listing => ?_, ?_, fun hmem => ?_, fun p => ?_⟩
  · rw [discover_listing, hends.on_eq]
  · exact (pairwise_ordered _).imp fun hlt => Text.bytes_strictMono hlt
  · exact (mem_ofNames.1 hmem).1 rfl
  · rw [mem_ofNames]
    simp only [hnames, Files.firstPart_eq_iff]

example : ofNames ["Card.tsx", "int.ts", "Card.test.tsx", ".hidden", "Board"] =
    ["Board", "Card", "int"] := by
  rw [ofNames, ordered, Expand.sortNames_eq_insertionSort]
  decide

end Plugins

namespace Project

theorem blueprint_listing (listing : Listing) (p : Project) :
    @blueprint (StateM Disk) _ listing.files p = p.blueprint := by
  unfold blueprint
  rw [Plugins.discover_listing]
  rfl

/-- The order in which a system lists names makes no difference to a generation. -/
theorem generate_listing (listing : Listing) (p : Project) :
    @generate (StateM Disk) _ listing.files p = p.generate := by
  unfold generate
  cases p.templates with
  | none => rfl
  | some templates =>
      dsimp only
      rw [blueprint_listing]
      refine congrArg (p.blueprint >>= ·) (funext fun b => ?_)
      exact Expand.expand_listing listing _ _ _

end Project

end Scaffold
