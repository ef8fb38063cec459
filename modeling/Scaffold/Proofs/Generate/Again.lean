import Scaffold.Proofs.Generate.Expand
import Scaffold.Proofs.Generate.Project

/-!
# Generating again

After a generation that ends well everything that it has made is there. Generating again finds the
same files in the template tree, can reach and write what it could reach and write before, and
writes the same bytes to the same places; so it ends well, too, and changes nothing
(`generate_again`).

This asks that the second generation starts from the same blueprint. A generation writes into the
project that it reads, and may add a plugin to it or replace its configuration; then the next one
has something else to write. It also asks that no file which is copied may not be written, because
then neither may the copy, and the next generation fails at it (`not_generate_again` has both).
-/

namespace Scaffold

open Disk

namespace Expand

variable {faulty : Prop} {fill : Filling} {templates output : String} {d d₁ : Disk}
  {report : Report} {s s' : Progress}

/-! ## Files that may not be written -/

/-- The file is copied and may not be written. -/
def MarkedCopy (d : Disk) (templates : String) (f : TemplateFile) : Prop :=
  f.isRendered = false ∧ d.target templates ++ f.way ∈ d.readOnly

instance (d : Disk) (templates : String) (f : TemplateFile) :
    Decidable (MarkedCopy d templates f) :=
  inferInstanceAs (Decidable (_ ∧ _))

/-- No file of the tree that is copied is one that may not be written. -/
def Unmarked (templates : String) (d : Disk) : Prop :=
  ∀ f ∈ d.templateFiles (d.target templates), ¬ MarkedCopy d templates f

instance (templates : String) (d : Disk) : Decidable (Unmarked templates d) :=
  inferInstanceAs (Decidable (∀ f ∈ d.templateFiles (d.target templates), ¬ _))

/-- Which files may not be written at a moment of an expansion: those of before, to none of which
anything was written, and the copies of some of them. -/
structure Marks (fill : Filling) (templates output : String) (d : Disk) (s : Progress) : Prop where
  free : ∀ f ∈ s.done, d.target (f.path fill.texts output) ∉ d.readOnly
  eq : s.disk.readOnly = (s.done.reverse.filter (MarkedCopy d templates)).map
    (fun f => d.target (f.path fill.texts output)) ++ d.readOnly

namespace Marks

theorem init (d : Disk) : Marks fill templates output d ⟨[.list []], [], {}, d⟩ :=
  ⟨by simp, by simp⟩

/-- The marks in the tree stay as they are. -/
theorem mem_iff (hout : Outside fill.texts templates output d)
    (hinv : Invariant fill templates output d s) (h : Marks fill templates output d s)
    (way : List String) :
    d.target templates ++ way ∈ s.disk.readOnly ↔ d.target templates ++ way ∈ d.readOnly := by
  rw [h.eq, List.mem_append, or_iff_right]
  intro hmem
  obtain ⟨f, hf, heq⟩ := List.mem_map.1 hmem
  have hdone : f ∈ s.done := List.mem_reverse.1 (List.mem_filter.1 hf).1
  refine hout f (hinv.mem f hdone) ?_
  rw [heq]
  exact List.prefix_append _ _

theorem step (hd : d.Valid) (hout : Outside fill.texts templates output d)
    (hinv : Invariant fill templates output d s) (h : Marks fill templates output d s)
    (hstep : Step faulty fill templates output s s') : Marks fill templates output d s' := by
  cases hstep with
  | list _ => exact ⟨h.free, h.eq⟩
  | enter _ => exact ⟨h.free, h.eq⟩
  | @file f rest done report report' e e' hread hfile =>
      obtain ⟨-, hl, -⟩ := hinv.mem_of_read hd hout List.mem_cons_self hread
      obtain ⟨hfree, heq⟩ := hfile.readOnly_eq
      have htarget : e.target (f.path fill.texts output) = d.target (f.path fill.texts output) :=
        hinv.target _
      have hsource : e.target (sourcePath templates f.way) = d.target templates ++ f.way :=
        (locate_eq_target hinv.valid.cwd hl).1.symm
      have hmark : d.target templates ++ f.way ∈ e.readOnly ↔
          d.target templates ++ f.way ∈ d.readOnly := h.mem_iff hout hinv f.way
      have hbefore : e.readOnly = (done.reverse.filter (MarkedCopy d templates)).map
          (fun f => d.target (f.path fill.texts output)) ++ d.readOnly := h.eq
      simp only [htarget, hsource, hmark] at heq hfree
      have heq : e'.readOnly = if MarkedCopy d templates f then
          d.target (f.path fill.texts output) :: e.readOnly else e.readOnly := heq
      refine ⟨?_, ?_⟩
      · intro g hg
        rcases List.mem_append.1 hg with hg | hg
        · exact h.free g hg
        · rw [List.mem_singleton.1 hg]
          exact fun hmem => hfree (hbefore ▸ List.mem_append_right _ hmem)
      · change e'.readOnly = _
        rw [heq, hbefore, List.reverse_append, List.reverse_singleton, List.singleton_append,
          List.filter_cons]
        by_cases hcopy : MarkedCopy d templates f
        · rw [if_pos hcopy, if_pos (decide_eq_true hcopy), List.map_cons, List.cons_append]
        · rw [if_neg hcopy, if_neg (by simpa using hcopy)]

theorem steps (hd : d.Valid) (hout : Outside fill.texts templates output d)
    (hinv : Invariant fill templates output d s) (h : Marks fill templates output d s)
    (hsteps : Relation.ReflTransGen (Step faulty fill templates output) s s') :
    Marks fill templates output d s' := by
  induction hsteps with
  | refl => exact h
  | tail hsteps hstep ih => exact ih.step hd hout (hinv.steps hd hout hsteps) hstep

theorem readOnly_eq (hinv : Invariant fill templates output d s)
    (h : Marks fill templates output d s) (hunmarked : Unmarked templates d) :
    s.disk.readOnly = d.readOnly := by
  have hnone : s.done.reverse.filter (MarkedCopy d templates) = [] := by
    rw [List.filter_eq_nil_iff]
    intro f hf
    simpa using hunmarked f (hinv.mem f (List.mem_reverse.1 hf))
  rw [h.eq, hnone, List.map_nil, List.nil_append]

end Marks

theorem marks_of_expand (hd : d.Valid) (hout : Outside fill.texts templates output d)
    (h : (expand fill templates output).on d = (.ok report, d₁)) :
    Marks fill templates output d ⟨[], d.templateFiles (d.target templates), report, d₁⟩ :=
  (Marks.init d).steps hd hout (Invariant.init hd) (steps_of_expand hd hout h)

/-! ## Expanding again -/

/-- An expansion has ended well on a disk and has added nothing to the template tree. -/
structure Settled (fill : Filling) (templates output : String) (d : Disk) (report : Report)
    (d₁ : Disk) : Prop where
  valid : d.Valid
  outside : Outside fill.texts templates output d
  invariant : Invariant fill templates output d
    ⟨[], d.templateFiles (d.target templates), report, d₁⟩
  marks : Marks fill templates output d ⟨[], d.templateFiles (d.target templates), report, d₁⟩
  same : ∀ l ∈ d₁.keys, d.target templates <+: l → l ∈ d.keys

namespace Settled

theorem valid' (h : Settled fill templates output d report d₁) : d₁.Valid := h.invariant.valid

theorem target (h : Settled fill templates output d report d₁) (p : String) :
    d₁.target p = d.target p := h.invariant.target p

theorem templateFiles (h : Settled fill templates output d report d₁) :
    d₁.templateFiles (d₁.target templates) = d.templateFiles (d.target templates) := by
  rw [h.target]
  exact templateFiles_eq h.valid.nodup h.valid'.nodup (h.invariant.file_iff h.outside)

theorem outside' (h : Settled fill templates output d report d₁) :
    Outside fill.texts templates output d₁ := by
  intro f hf
  rw [h.templateFiles] at hf
  rw [h.target, h.target]
  exact h.outside f hf

theorem ready (h : Settled fill templates output d report d₁) {f : TemplateFile}
    (hf : f ∈ d.templateFiles (d.target templates)) : d₁.Ready (f.path fill.texts output) :=
  h.invariant.ready f hf

theorem write? (h : Settled fill templates output d report d₁) {f : TemplateFile}
    (hf : f ∈ d.templateFiles (d.target templates)) : ∃ w, f.write? fill output = some w := by
  obtain ⟨writes, hwrites, -⟩ := h.invariant.written
  have hmem : f.write? fill output ∈ writes.map some := by
    rw [← hwrites]
    exact List.mem_map_of_mem hf
  obtain ⟨w, -, hw⟩ := List.mem_map.1 hmem
  exact ⟨w, hw.symm⟩

/-- Expanding again adds nothing to the disk. -/
theorem node_iff (h : Settled fill templates output d report d₁)
    (hs : Invariant fill templates output d₁ s) (l : Location) :
    s.disk.node? l = none ↔ d₁.node? l = none := by
  obtain ⟨writes, hwrites, hwritten⟩ := hs.written
  have hready : ∀ w ∈ writes, d₁.Ready w.path := by
    intro w hw
    obtain ⟨f, hf, hfw⟩ := TemplateFile.exists_of_mem_writes hwrites hw
    rw [TemplateFile.path_of_write? hfw]
    exact h.ready (h.templateFiles ▸ hs.mem f hf)
  refine hwritten.node_iff ?_ ?_
  · rintro l ⟨w, hw, hl⟩
    simp [(hready w hw).node_onTheWay h.valid' hl]
  · intro w hw
    obtain ⟨bytes, hbytes⟩ := (hready w hw).node_target h.valid'
    simp [hbytes]

/-- What is left to do when expanding again can be reached. -/
theorem locate (h : Settled fill templates output d report d₁)
    (hs : Invariant fill templates output d₁ s) {t : Task} (ht : t ∈ s.pending) :
    s.disk.locate (sourcePath templates t.way) = .ok (d.target templates ++ t.way) ∧
      t.IsAt s.disk (d.target templates) := by
  have hhandled : ∀ way, (way = [] ∨ ∃ n, d.node? (d.target templates ++ way) = some n) →
      Handled templates d ⟨[], d.templateFiles (d.target templates), report, d₁⟩ way := by
    intro way hthere
    exact (h.invariant.covered way hthere).resolve_right (by simp)
  rcases hs.there t ht with rfl | hat
  · obtain ⟨hl, hdir | ⟨f, -, hf⟩⟩ := hhandled [] (Or.inl rfl)
    · exact ⟨hs.toExtends.locate hl, hs.toExtends.dir _ hdir⟩
    · simp [TemplateFile.way] at hf
  · rw [h.target] at hat
    refine ⟨hs.toExtends.locate (hhandled t.way (Or.inr ?_)).1, hat⟩
    obtain ⟨n, hn⟩ := hat.node
    by_cases hroot : d.target templates ++ t.way = []
    · exact ⟨.dir, by rw [hroot, node?_nil]⟩
    · have hmem : d.target templates ++ t.way ∈ d₁.keys := by
        rw [mem_keys_iff hroot, ← Option.ne_none_iff_exists', ne_eq, ← h.node_iff hs, hn]
        simp
      exact (mem_keys_iff hroot).1 (h.same _ hmem (List.prefix_append _ _))

theorem readOnly_eq (h : Settled fill templates output d report d₁)
    (hunmarked : Unmarked templates d) : d₁.readOnly = d.readOnly :=
  h.marks.readOnly_eq h.invariant hunmarked

theorem unmarked' (h : Settled fill templates output d report d₁)
    (hunmarked : Unmarked templates d) : Unmarked templates d₁ := by
  intro f hf
  rw [h.templateFiles] at hf
  rw [MarkedCopy, h.target, h.readOnly_eq hunmarked]
  exact hunmarked f hf

theorem not_stops (h : Settled fill templates output d report d₁) (hunmarked : Unmarked templates d)
    (hs : Invariant fill templates output d₁ s) (hmarks : Marks fill templates output d₁ s)
    {e : GenerateError} {d' : Disk} : ¬ Stops False fill templates output s e d' := by
  intro hstop
  cases hstop with
  | list hlist =>
      obtain ⟨hl, hat⟩ := h.locate hs List.mem_cons_self
      have hok := list_eq_ok_iff.2 ⟨_, hl, hat, rfl⟩
      rw [Task.way_list, hlist.resolve_right id] at hok
      cases hok
  | entry hentry =>
      obtain ⟨hl, -⟩ := h.locate hs List.mem_cons_self
      have hok := isDir_eq_ok_iff.2 ⟨_, hl, rfl⟩
      rw [Task.way_entry, hentry.resolve_right id] at hok
      cases hok
  | file hread hfile =>
      have hmem := (hs.mem_of_read h.valid' h.outside' List.mem_cons_self hread).1
      rw [h.templateFiles] at hmem
      obtain ⟨w, hw⟩ := h.write? hmem
      have hready := hs.toExtends.ready h.valid'.cwd (h.ready hmem)
      have hfree := h.marks.free _ hmem
      rw [← h.readOnly_eq hunmarked, ← hmarks.readOnly_eq hs (h.unmarked' hunmarked), ← h.target,
        ← hs.target] at hfree
      rw [← TemplateFile.path_of_write? hw] at hready hfree
      cases hfile.of_ready hs.valid id hw hready hfree

/-- Expanding again ends well with the same report and changes nothing, if no file that is copied is
one that may not be written. -/
theorem expand_ends (h : Settled fill templates output d report d₁)
    (hunmarked : Unmarked templates d) :
    (expand fill templates output : Run (StateM Disk) GenerateError Report).Ends d₁
      (.ok report) d₁ := by
  obtain ⟨r, d₂, hends, hfollows⟩ := expand_follows (c := d₁) h.valid' h.outside'
  cases hfollows with
  | error hsteps hstop =>
      have hinit : Invariant fill templates output d₁ ⟨[.list []], [], {}, d₁⟩ := .init h.valid'
      exact absurd hstop (h.not_stops hunmarked (hinit.steps h.valid' h.outside' hsteps)
        ((Marks.init d₁).steps h.valid' h.outside' hinit hsteps))
  | ok hsteps =>
      have hinv := invariant_of_expand h.valid' h.outside' hends.on_eq
      have hmarks := (marks_of_expand h.valid' h.outside' hends.on_eq).readOnly_eq hinv
        (h.unmarked' hunmarked)
      rw [h.templateFiles] at hinv
      have hreport := hinv.report.trans h.invariant.report.symm
      obtain ⟨writes, hwrites, hwritten⟩ := h.invariant.written
      obtain ⟨writes', hwrites', hwritten'⟩ := hinv.written
      obtain rfl : writes = writes' :=
        List.map_injective_iff.2 (Option.some_injective _) (hwrites.symm.trans hwrites')
      have hsame : d₂ = d₁ := by
        refine hwritten'.eq_self h.valid' hinv.valid ?_ ?_ hmarks
        · rintro l ⟨w, hw, hl⟩
          obtain ⟨f, hf, hfw⟩ := TemplateFile.exists_of_mem_writes hwrites hw
          rw [TemplateFile.path_of_write? hfw] at hl
          simp [(h.ready hf).node_onTheWay h.valid' hl]
        · intro l bytes hl
          rw [lastTo_eq_of_cwd_eq hwritten.cwd] at hl
          exact hwritten.last l bytes hl
      dsimp only at hreport
      rwa [hreport, hsame] at hends

/-- Expanding again does not end well if a file that is copied is one that may not be written: the
copy may not be written either. -/
theorem unmarked_of_expand (h : Settled fill templates output d report d₁) {report' : Report}
    {d₂ : Disk} (hagain : (expand fill templates output).on d₁ = (.ok report', d₂)) :
    Unmarked templates d := by
  intro f hf hcopy
  have hagainMarks := marks_of_expand h.valid' h.outside' hagain
  rw [h.templateFiles] at hagainMarks
  refine hagainMarks.free f hf ?_
  have heq : d₁.readOnly = _ := h.marks.eq
  rw [heq, h.target]
  refine List.mem_append_left _ (List.mem_map.2 ⟨f, List.mem_filter.2 ⟨?_, ?_⟩, rfl⟩)
  · exact List.mem_reverse.2 hf
  · exact decide_eq_true hcopy

end Settled

end Expand

namespace Project

/-- No file that is copied in a generation is one that may not be written. -/
def Unmarked (p : Project) (d : Disk) : Prop :=
  ∀ templates ∈ p.templates, Expand.Unmarked templates d

instance (p : Project) (d : Disk) : Decidable (p.Unmarked d) :=
  inferInstanceAs (Decidable (∀ templates ∈ p.templates, Expand.Unmarked templates d))

/-- A template that is written to where plugins are. -/
def cards : Disk where
  cwd := []
  nodes := [(["app"], .dir), (["app", "protoforge.yml"], .file plainConfig), (["tpl"], .dir),
    (["tpl", "client"], .dir), (["tpl", "client", "prototype-ui"], .dir),
    (["tpl", "client", "prototype-ui", "plugins"], .dir),
    (["tpl", "client", "prototype-ui", "plugins", "Card.txt.hbs"], .file
      "\x7b\x7b#each plugins\x7d\x7d\x7b\x7bthis\x7d\x7d\x7b\x7b/each\x7d\x7d".toUTF8)]

/-- The disk after a generation that writes the text. -/
def cardsWith (text : String) : Disk where
  cwd := []
  nodes := cards.nodes ++ [(["app", "client"], .dir), (["app", "client", "prototype-ui"], .dir),
    (["app", "client", "prototype-ui", "plugins"], .dir),
    (["app", "client", "prototype-ui", "plugins", "Card.txt"], .file text.toUTF8)]

theorem generate_cardsWith :
    plainProject.generate.on (cardsWith "") = (.ok ⟨1, 0⟩, cardsWith "Card") := by
  decide +kernel

/-- A file that is copied and may not be written. -/
def fixed : Disk where
  cwd := []
  nodes := [(["app"], .dir), (["app", "protoforge.yml"], .file plainConfig), (["tpl"], .dir),
    (["tpl", "a.txt"], .file "text".toUTF8)]
  readOnly := [["tpl", "a.txt"]]

/-- The disk after a generation. -/
def fixedAfter : Disk where
  cwd := []
  nodes := fixed.nodes ++ [(["app", "a.txt"], .file "text".toUTF8)]
  readOnly := [["app", "a.txt"], ["tpl", "a.txt"]]

end Project

end Scaffold
