import Scaffold.Proofs.Generate.Expand
import Scaffold.Proofs.Generate.Project

/-!
# What a failed generation leaves

A generation that fails before its expansion leaves the disk as it was. An expansion that fails does
so at one entry of the template tree: the files before it, in the order of a walk, are written, and
no file that comes later is touched. What fails at the entry, and what it leaves there, is told by
`FailsAt`. For a template that is rendered, nothing is made until it has been read and rendered. A
file that is copied is read only when its directories are there, so they stay if it cannot be read.
And if the device fails while it writes a file, a beginning of the bytes is in it (`generate_worn`).
-/

namespace Scaffold

open Disk
open Device (disk)

namespace Expand

variable {faulty : Prop} {fill : Filling} {templates output : String} {d d' : Disk}
  {e : GenerateError} {s : Progress}

/-- The files of a tree that come before an entry in the order of a walk. -/
def filesBefore (d : Disk) (root : Location) (way : List String) : List TemplateFile :=
  (d.templateFiles root).filter fun f => wayKey f.way < wayKey way

/-- How an expansion fails at an entry of the tree of `d`, with the disk `c` at that moment, and
which disk it leaves. -/
inductive FailsAt (faulty : Prop) (fill : Filling) (templates output : String) (d c : Disk)
    (way : List String) : GenerateError → Disk → Prop where
  /-- The directory cannot be listed. -/
  | list {cause : IoError} (h : c.list (sourcePath templates way) = .error cause ∨ faulty) :
      FailsAt faulty fill templates output d c way (.io (sourcePath templates way) cause) c
  /-- The entry cannot be looked at. -/
  | look {cause : IoError} (h : c.isDir (sourcePath templates way) = .error cause ∨ faulty) :
      FailsAt faulty fill templates output d c way (.io (sourcePath templates way) cause) c
  /-- The template is to be rendered and the device cannot read it. -/
  | read {f : TemplateFile} {cause : IoError} (hf : f ∈ d.templateFiles (d.target templates))
      (hway : f.way = way) (hrendered : f.isRendered = true) (hfaulty : faulty) :
      FailsAt faulty fill templates output d c way (.io (sourcePath templates way) cause) c
  /-- The template is to be rendered and is no text. -/
  | text {f : TemplateFile} (hf : f ∈ d.templateFiles (d.target templates)) (hway : f.way = way)
      (hrendered : f.isRendered = true) (htext : String.fromUTF8? f.bytes = none) :
      FailsAt faulty fill templates output d c way (.io (sourcePath templates way) .invalidData) c
  /-- The template cannot be rendered. -/
  | render {f : TemplateFile} {text : String} {cause : Template.Error}
      (hf : f ∈ d.templateFiles (d.target templates)) (hway : f.way = way)
      (hrendered : f.isRendered = true) (htext : String.fromUTF8? f.bytes = some text)
      (hresult : Template.render text fill.data = .error cause) :
      FailsAt faulty fill templates output d c way (.render (sourcePath templates way) cause) c
  /-- One of the directories for the file cannot be made; those above it may have been. -/
  | directory {f : TemplateFile} {w : Write} {above : String} {cause : IoError} {d' : Disk}
      (hf : f ∈ d.templateFiles (d.target templates)) (hway : f.way = way)
      (hw : f.write? fill output = some w) (habove : Files.parent? w.path = some above)
      (hdirs : c.Written [] (c.OnTheWay w.path) d')
      (h : (∃ q ∈ Files.ancestors above, d'.createDir q = .error cause ∧ d'.isDir q ≠ .ok true) ∨
        faulty) :
      FailsAt faulty fill templates output d c way (.io above cause) d'
  /-- There is no place for the file, or the device fails before anything is in it, as it does if a
  file that is copied cannot be read. The directories for the file are there. -/
  | file {f : TemplateFile} {w : Write} {cause : IoError} {d' : Disk}
      (hf : f ∈ d.templateFiles (d.target templates)) (hway : f.way = way)
      (hw : f.write? fill output = some w) (hdirs : c.Written [] (c.OnTheWay w.path) d')
      (hparent : d'.HasParent w.path) (h : d'.locateFile w.path = .error cause ∨ faulty) :
      FailsAt faulty fill templates output d c way (.io w.path cause) d'
  /-- The device fails while it writes the file, and leaves a beginning of the bytes in it. -/
  | cut {f : TemplateFile} {w : Write} {n : Nat} {cause : IoError} {d' : Disk}
      (hf : f ∈ d.templateFiles (d.target templates)) (hway : f.way = way)
      (hw : f.write? fill output = some w) (hfaulty : faulty)
      (hcut : c.Written [⟨w.path, w.bytes.extract 0 n⟩] (c.OnTheWay w.path) d') :
      FailsAt faulty fill templates output d c way (.io w.path cause) d'

/-- The files are the same on both disks. -/
def SameFiles (c d' : Disk) : Prop :=
  ∀ l bytes, d'.node? l = some (.file bytes) ↔ c.node? l = some (.file bytes)

/-- The files are the same but for the one that is written for an entry of the tree of `d`, which
holds a beginning of its bytes. -/
def SameFilesBut (fill : Filling) (templates output : String) (d c : Disk) (way : List String)
    (e : GenerateError) (d' : Disk) : Prop :=
  ∃ f ∈ d.templateFiles (d.target templates), f.way = way ∧
    ∃ w n cause, f.write? fill output = some w ∧ e = .io w.path cause ∧
      d'.node? (c.target w.path) = some (.file (w.bytes.extract 0 n)) ∧
      ∀ l bytes, l ≠ c.target w.path →
        (d'.node? l = some (.file bytes) ↔ c.node? l = some (.file bytes))

/-- At the entry where an expansion fails no file is touched, unless the device fails while it
writes the file. -/
theorem FailsAt.sameFiles {c : Disk} {way : List String}
    (h : FailsAt faulty fill templates output d c way e d') :
    SameFiles c d' ∨ faulty ∧ SameFilesBut fill templates output d c way e d' := by
  cases h with
  | list | look | read | text | render => exact Or.inl fun _ _ => Iff.rfl
  | directory _ _ _ _ hdirs _ => exact Or.inl fun _ _ => hdirs.file_iff (by simp)
  | file _ _ _ hdirs _ _ => exact Or.inl fun _ _ => hdirs.file_iff (by simp)
  | @cut f w n cause _ hf hway hw hfaulty hcut =>
      refine Or.inr ⟨hfaulty, f, hf, hway, w, n, cause, hw, rfl, ?_, fun l bytes hl => ?_⟩
      · exact hcut.last _ _ (lastTo_singleton c _ _)
      · exact hcut.file_iff (by simpa using hl.symm)

namespace Invariant

/-- The files that are done are those before the next entry. -/
theorem done_eq_filesBefore (hd : d.Valid) (hout : Outside fill.texts templates output d)
    (h : Invariant fill templates output d s) {t : Task} {rest : List Task}
    (hs : s.pending = t :: rest) :
    s.done = filesBefore d (d.target templates) t.way := by
  have hsorted := List.pairwise_append.1 h.sorted
  rw [hs, List.map_cons, List.pairwise_cons] at hsorted
  obtain ⟨-, ⟨hnext, -⟩, hbetween⟩ := hsorted
  refine eq_of_pairwise_wayKey h.done_sorted ((pairwise_templateFiles hd.nodup).filter _) ?_
  intro f
  rw [filesBefore, List.mem_filter, decide_eq_true_eq]
  constructor
  · intro hf
    exact ⟨h.mem f hf, (hbetween f.way (List.mem_map_of_mem hf) t.way List.mem_cons_self).wayKey_lt⟩
  · rintro ⟨hf, hlt⟩
    rcases h.covered f.way (Or.inr ⟨_, (mem_templateFiles_iff hd.nodup).1 hf⟩) with
      hhandled | ⟨t', ht', hfront⟩
    · exact h.mem_done hd hout hf hhandled
    · -- a file below something that is left to do does not come before the next entry
      obtain ⟨more, hmore⟩ := hfront
      have hle : wayKey t.way ≤ wayKey t'.way := by
        rw [hs] at ht'
        rcases List.mem_cons.1 ht' with rfl | ht'
        · exact le_rfl
        · exact (hnext t'.way (List.mem_map_of_mem ht')).wayKey_lt.le
      have hle' : wayKey t'.way ≤ wayKey f.way := hmore ▸ wayKey_le_append t'.way more
      exact absurd hlt (not_lt.2 (hle.trans hle'))

end Invariant

theorem FileEnds.failsAt {c : Disk} {f : TemplateFile} {report : Report}
    (hf : f ∈ d.templateFiles (d.target templates))
    (h : FileEnds faulty fill (sourcePath templates f.way) output f report c (.error e) d') :
    FailsAt faulty fill templates output d c f.way e d' := by
  cases h with
  | unread hrendered hfaulty => exact .read hf rfl hrendered hfaulty
  | noText hrendered htext => exact .text hf rfl hrendered htext
  | noResult hrendered htext hresult => exact .render hf rfl hrendered htext hresult
  | noParent hw hparent =>
      cases hparent with
      | error habove hmade h =>
          exact .directory hf rfl hw habove hmade.written (h.symm.imp_left And.right)
  | noPlace hw hmade hparent hplace => exact .file hf rfl hw hmade.written hparent hplace
  | cut hw hmade hfaulty hcut =>
      obtain ⟨n, hwritten⟩ := hcut.written hmade.valid (c.OnTheWay _)
      exact .cut hf rfl hw hfaulty (hmade.written.trans hwritten)

theorem Stops.failsAt (hd : d.Valid) (hout : Outside fill.texts templates output d)
    (hinv : Invariant fill templates output d s) (h : Stops faulty fill templates output s e d') :
    ∃ t rest, s.pending = t :: rest ∧ FailsAt faulty fill templates output d s.disk t.way e d' := by
  cases h with
  | list h => exact ⟨_, _, rfl, .list h⟩
  | entry h => exact ⟨_, _, rfl, .look h⟩
  | file hread h =>
      have hmem := (hinv.mem_of_read hd hout List.mem_cons_self hread).1
      exact ⟨_, _, rfl, h.failsAt hmem⟩

/-- What is left by an expansion that fails at an entry: the files before the entry have been
written, and no other file has changed, unless the device has failed while it wrote the file for the
entry. -/
def PartlyExpanded (faulty : Prop) (fill : Filling) (templates output : String) (d : Disk)
    (e : GenerateError) (d' : Disk) : Prop :=
  ∃ way writes c,
    (filesBefore d (d.target templates) way).map (·.write? fill output) = writes.map some ∧
    d.Written writes (d.OnSomeWay writes) c ∧
    (way = [] ∨ ∃ n, c.node? (d.target templates ++ way) = some n) ∧
    FailsAt faulty fill templates output d c way e d' ∧
    (SameFiles c d' ∨ faulty ∧ SameFilesBut fill templates output d c way e d')

theorem expand_error {σ : Type} [Files (StateM σ)] [Device σ] {c c' : σ} (hd : (disk c).Valid)
    (hout : Outside fill.texts templates output (disk c))
    (h : (expand fill templates output).on c = (.error e, c')) :
    PartlyExpanded (Device.faulty σ) fill templates output (disk c) e (disk c') := by
  obtain ⟨r, c'', hends, hfollows⟩ := expand_follows hd hout
  obtain ⟨rfl, rfl⟩ := Prod.mk.inj (hends.on_eq.symm.trans h)
  generalize disk c'' = d' at hfollows
  cases hfollows with
  | error hsteps hstop =>
      have hinv := (Invariant.init hd).steps hd hout hsteps
      obtain ⟨writes, hwrites, hwritten⟩ := hinv.written
      obtain ⟨t, rest, hpending, hfails⟩ := hstop.failsAt hd hout hinv
      rw [hinv.done_eq_filesBefore hd hout hpending] at hwrites
      refine ⟨t.way, writes, _, hwrites, hwritten, ?_, hfails, hfails.sameFiles⟩
      rcases hinv.there t (by simp [hpending]) with rfl | hat
      · exact Or.inl rfl
      · exact Or.inr hat.node

end Expand

namespace Project

/-- On any device, a generation that fails without a template directory, or because the blueprint
cannot be read, leaves the disk as it was. Otherwise the template tree is expanded up to the entry
that fails. -/
theorem generate_error {σ : Type} [Files (StateM σ)] [Device σ] {p : Project} {s s' : σ}
    {e : GenerateError} (hd : (disk s).Valid) (hout : p.Outside (disk s))
    (h : p.generate.on s = (.error e, s')) :
    (p.templates = none ∧ e = .noTemplates ∧ disk s' = disk s) ∨
    (p.blueprint.on s = (.error e, s') ∧ disk s' = disk s) ∨
    ∃ templates b s₁, p.templates = some templates ∧ p.blueprint.on s = (.ok b, s₁) ∧
      disk s₁ = disk s ∧
      Expand.PartlyExpanded (Device.faulty σ) (p.filling b) templates p.outputPath (disk s) e
        (disk s') := by
  rcases generate_cases hd hout h with ⟨htemplates, he, hdisk⟩ | ⟨cause, hblueprint, he, hdisk⟩ |
    ⟨templates, b, s₁, htemplates, hblueprint, hdisk, hout', hexpand⟩
  · exact Or.inl ⟨htemplates, by simpa using he, hdisk⟩
  · cases he
    exact Or.inr (Or.inl ⟨hblueprint.on_eq, hdisk⟩)
  · refine Or.inr (Or.inr ⟨templates, b, s₁, htemplates, hblueprint.on_eq, hdisk, ?_⟩)
    rw [← hdisk] at hd hout' ⊢
    exact Expand.expand_error hd hout' hexpand

/-- A file that is copied, a template that cannot be rendered, and another file. -/
def notes : Disk where
  cwd := []
  nodes := [(["app"], .dir), (["app", "protoforge.yml"], .file plainConfig), (["tpl"], .dir),
    (["tpl", "c.txt"], .file "last".toUTF8),
    (["tpl", "b.txt.hbs"], .file "\x7b\x7b#if\x7d\x7d".toUTF8),
    (["tpl", "a.txt"], .file "first".toUTF8)]

/-- The disk after a generation. -/
def notesAfter : Disk where
  cwd := []
  nodes := notes.nodes ++ [(["app", "a.txt"], .file "first".toUTF8)]

theorem generate_error_notes :
    notes.Valid ∧ plainProject.Outside notes ∧
      ∃ e, plainProject.generate.on notes = (.error e, notesAfter) ∧
        ∃ templates b, plainProject.templates = some templates ∧
          plainProject.blueprint.on notes = (.ok b, notes) ∧
          Expand.PartlyExpanded False (plainProject.filling b) templates "app" notes e
            notesAfter := by
  have hd : notes.Valid := by decide +kernel
  have hout : plainProject.Outside notes := by decide +kernel
  have h : ∃ e, plainProject.generate.on notes = (.error e, notesAfter) := by
    rw [generate_eq (p := plainProject) rfl]
    simp only [Expand.expand_eq]
    decide +kernel
  obtain ⟨e, he⟩ := h
  refine ⟨hd, hout, e, he, ?_⟩
  rcases generate_error (s := notes) hd hout he with ⟨hnone, -⟩ | ⟨-, hsame⟩ |
    ⟨templates, b, d₁, htemplates, hblueprint, hdisk, hpartly⟩
  · cases hnone
  · exact absurd hsame (by decide +kernel)
  · obtain rfl : d₁ = notes := hdisk
    exact ⟨templates, b, htemplates, hblueprint, hpartly⟩

/-- Two files that are copied. One goes to a directory that is not there yet, the other to a file
that is. -/
def shelf : Disk where
  cwd := []
  nodes := [(["app"], .dir), (["app", "protoforge.yml"], .file plainConfig), (["tpl"], .dir),
    (["tpl", "new"], .dir), (["tpl", "new", "a.txt"], .file "first".toUTF8),
    (["tpl", "b.txt"], .file "second".toUTF8), (["app", "b.txt"], .file "old".toUTF8)]

/-- If a file that is copied cannot be read, the directory for it is made all the same. If there is
no room for a file, what was there before is lost and a beginning of the file is in its place. -/
theorem generate_worn :
    plainProject.generate.on (⟨shelf, [["tpl", "new", "a.txt"]], 6⟩ : Worn) =
        (.error (.io "app/new/a.txt" .permissionDenied),
          ⟨(shelf.set ["app", "b.txt"] (.file "second".toUTF8)).set ["app", "new"] .dir,
            [["tpl", "new", "a.txt"]], 6⟩) ∧
      plainProject.generate.on (⟨shelf, [], 3⟩ : Worn) =
        (.error (.io "app/b.txt" (.other "File too large")),
          ⟨shelf.set ["app", "b.txt"] (.file "sec".toUTF8), [], 3⟩) := by
  rw [generate_eq (p := plainProject) rfl]
  simp only [Expand.expand_eq]
  decide +kernel

end Project

end Scaffold
