import Mathlib.Logic.Relation
import Scaffold.Proofs.Generate.File

/-!
# Walking a template tree

A walk through a template tree is taken as a sequence of steps over a list of what is left to do. So
what holds at every moment of an expansion can be said once (`Invariant`), and is shown step by
step: for a directory that is listed, for an entry that is a directory, and for one that is a file.
-/

namespace Scaffold

open Disk

namespace Expand

/-! ## The order of entries -/

/-- Entries in the order of their names take the place of their directory in a walk. -/
theorem pairwise_before_entries {ways ways' : List (List String)} {way names : List String}
    (h : (ways ++ way :: ways').Pairwise Before) (hnames : names.Pairwise (· < ·)) :
    (ways ++ (names.map (fun name => way ++ [name]) ++ ways')).Pairwise Before := by
  rw [List.pairwise_append, List.pairwise_cons] at h
  obtain ⟨hways, ⟨hway, hways'⟩, hbetween⟩ := h
  rw [List.pairwise_append, List.pairwise_append, List.pairwise_map]
  refine ⟨hways, ⟨hnames.imp fun hlt => before_siblings hlt way, hways', ?_⟩, ?_⟩
  · rintro a ha b hb
    obtain ⟨name, -, rfl⟩ := List.mem_map.1 ha
    exact (hway b hb).append_left [name]
  · intro a ha b hb
    rcases List.mem_append.1 hb with hb | hb
    · obtain ⟨name, -, rfl⟩ := List.mem_map.1 hb
      exact (hbetween a ha way List.mem_cons_self).append_right [name]
    · exact hbetween a ha b (List.mem_cons_of_mem _ hb)

/-! ## Paths -/

/-- The path of an entry of a template tree. -/
def sourcePath (templates : String) (way : List String) : String := way.foldl Files.join templates

theorem sourcePath_snoc (templates : String) (way : List String) (s : String) :
    sourcePath templates (way ++ [s]) = Files.join (sourcePath templates way) s := by
  simp [sourcePath]

theorem outDir_snoc (texts : Table String) (output : String) (dirs : List String) (s : String) :
    TemplateFile.outDir texts output (dirs ++ [s]) =
      Files.join (TemplateFile.outDir texts output dirs) (Segment.substitute texts s) := by
  simp [TemplateFile.outDir]

theorem target_sourcePath {way : List String} (h : ∀ s ∈ way, IsName s) (d : Disk)
    (templates : String) : d.target (sourcePath templates way) = d.target templates ++ way := by
  induction way using List.reverseRecOn with
  | nil => simp [sourcePath]
  | append_singleton way s ih =>
      rw [sourcePath_snoc, target_join (h s (by simp)), ih fun s' hs' => h s' (by simp [hs']),
        List.append_assoc]

/-- No file is written into the template tree. -/
def Outside (texts : Table String) (templates output : String) (d : Disk) : Prop :=
  ∀ f ∈ d.templateFiles (d.target templates), ¬ d.target templates <+: d.target (f.path texts output)

instance (texts : Table String) (templates output : String) (d : Disk) :
    Decidable (Outside texts templates output d) :=
  inferInstanceAs (Decidable (∀ f ∈ d.templateFiles (d.target templates), ¬ _ <+: _))

/-! ## Steps -/

/-- What is left to do: to list a directory, or to look at an entry of a directory. -/
inductive Task where
  | list (way : List String)
  | entry (dirs : List String) (name : String)

namespace Task

/-- The names on the way from the root of the tree. -/
def way : Task → List String
  | list way => way
  | entry dirs name => dirs ++ [name]

@[simp] theorem way_list (way : List String) : (list way).way = way := rfl

@[simp] theorem way_entry (dirs : List String) (name : String) :
    (entry dirs name).way = dirs ++ [name] := rfl

/-- What the task is about is below a location. -/
def IsAt (d : Disk) (root : Location) : Task → Prop
  | list way => d.node? (root ++ way) = some .dir
  | entry dirs name => ∃ n, d.node? (root ++ (dirs ++ [name])) = some n

theorem IsAt.node {d : Disk} {root : Location} {t : Task} (h : t.IsAt d root) :
    ∃ n, d.node? (root ++ t.way) = some n := by
  cases t with
  | list way => exact ⟨.dir, h⟩
  | entry dirs name => exact h

theorem IsAt.mono {d e : Disk} {root : Location} (h : d.Extends e) {t : Task}
    (ht : t.IsAt d root) : t.IsAt e root := by
  cases t with
  | list way => exact h.dir _ ht
  | entry dirs name =>
      obtain ⟨n, hn⟩ := ht
      exact h.node hn

end Task

/-- How far an expansion has come. -/
structure Progress where
  pending : List Task
  done : List TemplateFile
  report : Report
  disk : Disk

/-- The ways of what is done and of what is left to do. -/
def Progress.ways (s : Progress) : List (List String) :=
  s.done.map TemplateFile.way ++ s.pending.map Task.way

section

variable (faulty : Prop) (fill : Filling) (templates output : String)

/-- One step of an expansion. -/
inductive Step : Progress → Progress → Prop where
  | list {way names : List String} {rest : List Task} {done : List TemplateFile} {report : Report}
      {d : Disk} (h : d.list (sourcePath templates way) = .ok names) :
      Step ⟨.list way :: rest, done, report, d⟩
        ⟨(sortNames names).map (.entry way) ++ rest, done, report, d⟩
  | enter {dirs : List String} {name : String} {rest : List Task} {done : List TemplateFile}
      {report : Report} {d : Disk}
      (h : d.isDir (sourcePath templates (dirs ++ [name])) = .ok true) :
      Step ⟨.entry dirs name :: rest, done, report, d⟩
        ⟨.list (dirs ++ [name]) :: rest, done, report, d⟩
  | file {f : TemplateFile} {rest : List Task} {done : List TemplateFile} {report report' : Report}
      {d d' : Disk} (hread : d.read (sourcePath templates f.way) = .ok f.bytes)
      (h : FileEnds faulty fill (sourcePath templates f.way) output f report d (.ok report') d') :
      Step ⟨.entry f.dirs f.name :: rest, done, report, d⟩ ⟨rest, done ++ [f], report', d'⟩

/-- The expansion fails, and leaves the disk. -/
inductive Stops : Progress → GenerateError → Disk → Prop where
  | list {way : List String} {rest : List Task} {done : List TemplateFile} {report : Report}
      {d : Disk} {cause : IoError}
      (h : d.list (sourcePath templates way) = .error cause ∨ faulty) :
      Stops ⟨.list way :: rest, done, report, d⟩ (.io (sourcePath templates way) cause) d
  | entry {dirs : List String} {name : String} {rest : List Task} {done : List TemplateFile}
      {report : Report} {d : Disk} {cause : IoError}
      (h : d.isDir (sourcePath templates (dirs ++ [name])) = .error cause ∨ faulty) :
      Stops ⟨.entry dirs name :: rest, done, report, d⟩
        (.io (sourcePath templates (dirs ++ [name])) cause) d
  | file {f : TemplateFile} {rest : List Task} {done : List TemplateFile} {report : Report}
      {d d' : Disk} {e : GenerateError}
      (hread : d.read (sourcePath templates f.way) = .ok f.bytes)
      (h : FileEnds faulty fill (sourcePath templates f.way) output f report d (.error e) d') :
      Stops ⟨.entry f.dirs f.name :: rest, done, report, d⟩ e d'

/-- What an entry of the tree has come to once it is not left to do any more: it could be reached,
and is a directory or a file that is done. -/
def Handled (d : Disk) (s : Progress) (way : List String) : Prop :=
  s.disk.locate (sourcePath templates way) = .ok (d.target templates ++ way) ∧
    (s.disk.node? (d.target templates ++ way) = some .dir ∨ ∃ f ∈ s.done, f.way = way)

/-- What holds at every moment of an expansion that starts on a disk. -/
structure Invariant (d : Disk) (s : Progress) : Prop where
  valid : s.disk.Valid
  /-- The files that are done are files of the tree, -/
  mem : ∀ f ∈ s.done, f ∈ d.templateFiles (d.target templates)
  /-- and they, and nothing else, are written. -/
  written : ∃ writes, s.done.map (·.write? fill output) = writes.map some ∧
    d.Written writes (d.OnSomeWay writes) s.disk
  ready : ∀ f ∈ s.done, s.disk.Ready (f.path fill.texts output)
  report : s.report = s.done.foldl Report.count {}
  /-- Everything comes in the order of a walk. -/
  sorted : s.ways.Pairwise Before
  /-- What is left to do is there; only the root of the tree is not known to be. -/
  there : ∀ t ∈ s.pending, t = .list [] ∨ t.IsAt s.disk (d.target templates)
  /-- Nothing of the tree is left out. -/
  covered : ∀ way, (way = [] ∨ ∃ n, d.node? (d.target templates ++ way) = some n) →
    Handled templates d s way ∨ ∃ t ∈ s.pending, t.way <+: way

end

variable {faulty : Prop} {fill : Filling} {templates output : String} {d : Disk} {s s' : Progress}

namespace Invariant

theorem init (hd : d.Valid) : Invariant fill templates output d ⟨[.list []], [], {}, d⟩ where
  valid := hd
  mem := by simp
  written := ⟨[], rfl, .refl d _⟩
  ready := by simp
  report := rfl
  sorted := by simp [Progress.ways]
  there := by simp
  covered way _ := Or.inr ⟨.list [], by simp, List.nil_prefix⟩

theorem toExtends (h : Invariant fill templates output d s) : d.Extends s.disk := by
  obtain ⟨writes, -, hwritten⟩ := h.written
  exact hwritten.toExtends

theorem target (h : Invariant fill templates output d s) (p : String) :
    s.disk.target p = d.target p :=
  h.toExtends.target p

/-- Files of the tree stay as they are, and no file is added to it. -/
theorem file_iff (h : Invariant fill templates output d s)
    (hout : Outside fill.texts templates output d) (way : List String) (bytes : ByteArray) :
    s.disk.node? (d.target templates ++ way) = some (.file bytes) ↔
      d.node? (d.target templates ++ way) = some (.file bytes) := by
  obtain ⟨writes, hwrites, hwritten⟩ := h.written
  refine hwritten.file_iff fun w hw heq => ?_
  obtain ⟨f, hf, hfw⟩ := TemplateFile.exists_of_mem_writes hwrites hw
  refine hout f (h.mem f hf) ?_
  rw [← TemplateFile.path_of_write? hfw, heq]
  exact List.prefix_append _ _

/-- A file that is not left to do is done. -/
theorem mem_done (hd : d.Valid) (h : Invariant fill templates output d s)
    (hout : Outside fill.texts templates output d) {f : TemplateFile}
    (hf : f ∈ d.templateFiles (d.target templates)) (hhandled : Handled templates d s f.way) :
    f ∈ s.done := by
  rcases hhandled.2 with hdir | ⟨g, hg, hway⟩
  · have hfile := (h.file_iff hout _ _).2 ((mem_templateFiles_iff hd.nodup).1 hf)
    rw [hdir] at hfile
    cases hfile
  · rwa [templateFiles_eq_of_way_eq hd.nodup hf (h.mem g hg) hway.symm]

theorem isName (h : Invariant fill templates output d s) {t : Task} (ht : t ∈ s.pending) :
    ∀ name ∈ t.way, IsName name := by
  intro name hname
  rcases h.there t ht with rfl | hat
  · simp at hname
  · obtain ⟨n, hn⟩ := hat.node
    exact h.valid.isName hn name (List.mem_append_right _ hname)

/-- What is left to do is where its path leads. -/
theorem locate (h : Invariant fill templates output d s) {t : Task} (ht : t ∈ s.pending)
    {l : Location} (hl : s.disk.locate (sourcePath templates t.way) = .ok l) :
    l = d.target templates ++ t.way := by
  rw [(locate_eq_target h.valid.cwd hl).1, target_sourcePath (h.isName ht), h.target]

/-- The directory at the way of a task is reached, and all else that the task covers is below it. -/
theorem list {way names : List String} {rest : List Task} {done : List TemplateFile}
    {report : Report} {e : Disk}
    (h : Invariant fill templates output d ⟨.list way :: rest, done, report, e⟩)
    (hlist : e.list (sourcePath templates way) = .ok names) :
    Invariant fill templates output d
      ⟨(sortNames names).map (.entry way) ++ rest, done, report, e⟩ := by
  obtain ⟨l, hl, hdir, rfl⟩ := list_eq_ok_iff.1 hlist
  obtain rfl : l = d.target templates ++ way := h.locate List.mem_cons_self hl
  have hsort := sortNames_perm (e.names (d.target templates ++ way))
  refine ⟨h.valid, h.mem, h.written, h.ready, h.report, ?_, ?_, ?_⟩
  · have hnames : (e.names (d.target templates ++ way)).Nodup := nodup_names h.valid.nodup
    have hsorted := pairwise_before_entries h.sorted (pairwise_sortNames hnames)
    simpa [Progress.ways, Function.comp_def] using hsorted
  · intro t ht
    rcases List.mem_append.1 ht with ht | ht
    · obtain ⟨name, hname, rfl⟩ := List.mem_map.1 ht
      obtain ⟨n, hn⟩ := mem_names_iff.1 (hsort.mem_iff.1 hname)
      exact Or.inr ⟨n, by rwa [← List.append_assoc]⟩
    · exact h.there t (List.mem_cons_of_mem _ ht)
  · intro way' hthere
    rcases h.covered way' hthere with hhandled | ⟨t, ht, hfront⟩
    · exact Or.inl hhandled
    · rcases List.mem_cons.1 ht with rfl | ht
      · obtain ⟨more, rfl⟩ := hfront
        cases more with
        | nil => exact Or.inl ⟨by simpa using hl, Or.inl (by simpa using hdir)⟩
        | cons name more =>
            obtain ⟨n, hn⟩ := hthere.resolve_left (by simp)
            obtain ⟨n', hn'⟩ := h.toExtends.node hn
            refine Or.inr ⟨.entry way name, ?_, ⟨more, by simp⟩⟩
            rw [Task.way_list, ← List.append_assoc, List.append_cons] at hn'
            have hname := h.valid.mem_names hn'
            exact List.mem_append_left _ (List.mem_map_of_mem (hsort.mem_iff.2 hname))
      · exact Or.inr ⟨t, List.mem_append_right _ ht, hfront⟩

theorem enter {dirs : List String} {name : String} {rest : List Task} {done : List TemplateFile}
    {report : Report} {e : Disk}
    (h : Invariant fill templates output d ⟨.entry dirs name :: rest, done, report, e⟩)
    (hdir : e.isDir (sourcePath templates (dirs ++ [name])) = .ok true) :
    Invariant fill templates output d ⟨.list (dirs ++ [name]) :: rest, done, report, e⟩ := by
  obtain ⟨l, hl, hnode⟩ := isDir_eq_ok_iff.1 hdir
  obtain rfl : l = d.target templates ++ (dirs ++ [name]) := h.locate List.mem_cons_self hl
  refine ⟨h.valid, h.mem, h.written, h.ready, h.report, h.sorted, ?_, ?_⟩
  · intro t ht
    rcases List.mem_cons.1 ht with rfl | ht
    · exact Or.inr (isDirAt_eq_true_iff.1 hnode)
    · exact h.there t (List.mem_cons_of_mem _ ht)
  · intro way hthere
    refine (h.covered way hthere).imp_right ?_
    rintro ⟨t, ht, hfront⟩
    rcases List.mem_cons.1 ht with rfl | ht
    · exact ⟨.list (dirs ++ [name]), List.mem_cons_self, hfront⟩
    · exact ⟨t, List.mem_cons_of_mem _ ht, hfront⟩

/-- A file that is read is one of the files of the tree. -/
theorem mem_of_read (hd : d.Valid) (hout : Outside fill.texts templates output d) {f : TemplateFile}
    (h : Invariant fill templates output d s) (hf : .entry f.dirs f.name ∈ s.pending)
    (hread : s.disk.read (sourcePath templates f.way) = .ok f.bytes) :
    f ∈ d.templateFiles (d.target templates) ∧
      s.disk.locate (sourcePath templates f.way) = .ok (d.target templates ++ f.way) ∧
        s.disk.node? (d.target templates ++ f.way) = some (.file f.bytes) := by
  obtain ⟨l, hl, hnode⟩ := read_eq_ok_iff.1 hread
  obtain rfl : l = d.target templates ++ f.way := h.locate hf hl
  exact ⟨(mem_templateFiles_iff hd.nodup).2 ((h.file_iff hout _ _).1 hnode), hl, hnode⟩

theorem expandFile_ends {σ : Type} [Files (StateM σ)] [Device σ] {c : σ} (hd : d.Valid)
    (hout : Outside fill.texts templates output d) {f : TemplateFile}
    (h : Invariant fill templates output d s) (hs : s.disk = Device.disk c)
    (hf : .entry f.dirs f.name ∈ s.pending)
    (hread : s.disk.read (sourcePath templates f.way) = .ok f.bytes) :
    ∃ r c', (expandFile fill (sourcePath templates f.way)
        (TemplateFile.outDir fill.texts output f.dirs) f.name s.report).Ends c r c' ∧
      FileEnds (Device.faulty σ) fill (sourcePath templates f.way) output f s.report s.disk r
        (Device.disk c') := by
  have hne : s.disk.target (sourcePath templates f.way) ≠
      s.disk.target (f.path fill.texts output) := by
    intro heq
    obtain ⟨hmem, hl, -⟩ := h.mem_of_read hd hout hf hread
    refine hout f hmem ?_
    rw [← h.target (f.path fill.texts output), ← heq, ← (locate_eq_target h.valid.cwd hl).1]
    exact List.prefix_append _ _
  have hvalid := h.valid
  rw [hs] at hvalid hread hne ⊢
  exact Expand.expandFile_ends hvalid hread hne s.report

theorem file {f : TemplateFile} {rest : List Task} {done : List TemplateFile}
    {report report' : Report} {e e' : Disk} (hd : d.Valid)
    (hout : Outside fill.texts templates output d)
    (h : Invariant fill templates output d ⟨.entry f.dirs f.name :: rest, done, report, e⟩)
    (hread : e.read (sourcePath templates f.way) = .ok f.bytes)
    (hfile : FileEnds faulty fill (sourcePath templates f.way) output f report e (.ok report') e') :
    Invariant fill templates output d ⟨rest, done ++ [f], report', e'⟩ := by
  obtain ⟨hmem, hl, hnode⟩ := h.mem_of_read hd hout List.mem_cons_self hread
  obtain ⟨rfl, hvalid, w, hw, hwritten, hready⟩ := hfile.ok
  have hextends := hwritten.toExtends
  have hreport : report = done.foldl Report.count {} := h.report
  dsimp only at hl hnode
  refine ⟨hvalid, ?_, ?_, ?_, by simp [← hreport], ?_, ?_, ?_⟩
  · simpa [or_imp, forall_and] using And.intro h.mem hmem
  · obtain ⟨writes, hwrites, hall⟩ := h.written
    exact ⟨writes ++ [w], by simp [hwrites, hw], hall.snoc hwritten⟩
  · intro g hg
    rcases List.mem_append.1 hg with hg | hg
    · exact hextends.ready h.valid.cwd (h.ready g hg)
    · rw [List.mem_singleton.1 hg, ← TemplateFile.path_of_write? hw]
      exact hready
  · simpa [Progress.ways, TemplateFile.way] using h.sorted
  · intro t ht
    refine (h.there t (List.mem_cons_of_mem _ ht)).imp_right ?_
    exact fun hat => hat.mono hextends
  · intro way hthere
    rcases h.covered way hthere with ⟨hloc, hkind⟩ | ⟨t, ht, hfront⟩
    · refine Or.inl ⟨hextends.locate hloc, hkind.imp (hextends.dir _) ?_⟩
      rintro ⟨g, hg, hway⟩
      exact ⟨g, List.mem_append_left _ hg, hway⟩
    · rcases List.mem_cons.1 ht with rfl | ht
      · obtain ⟨more, rfl⟩ : f.way <+: way := hfront
        obtain ⟨n, hn⟩ := hthere.resolve_left (by simp [TemplateFile.way])
        obtain ⟨n', hn'⟩ := h.toExtends.node hn
        rw [← List.append_assoc] at hn'
        obtain rfl := h.valid.eq_nil_of_file hnode hn'
        rw [List.append_nil]
        exact Or.inl ⟨hextends.locate hl, Or.inr ⟨f, by simp, rfl⟩⟩
      · exact Or.inr ⟨t, ht, hfront⟩

theorem step (hd : d.Valid) (hout : Outside fill.texts templates output d)
    (h : Invariant fill templates output d s) (hstep : Step faulty fill templates output s s') :
    Invariant fill templates output d s' := by
  cases hstep with
  | list hlist => exact h.list hlist
  | enter hdir => exact h.enter hdir
  | file hread hfile => exact h.file hd hout hread hfile

theorem steps (hd : d.Valid) (hout : Outside fill.texts templates output d)
    (h : Invariant fill templates output d s)
    (hsteps : Relation.ReflTransGen (Step faulty fill templates output) s s') :
    Invariant fill templates output d s' := by
  induction hsteps with
  | refl => exact h
  | tail _ hstep ih => exact ih.step hd hout hstep

end Invariant

end Expand

end Scaffold
