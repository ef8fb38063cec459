import Scaffold.Proofs.Generate.Listing
import Scaffold.Proofs.Generate.Loops

/-!
# What an expansion leaves

If an expansion ends well, every file of the template tree has been written once, in the order of a
walk, and nothing else has happened to the disk (`expand_written`).
-/

namespace Scaffold

open Disk

namespace Expand

variable {fill : Filling} {templates output : String} {d d' : Disk} {report : Report}
  {s : Progress}

namespace Invariant

theorem done_sorted (h : Invariant fill templates output d s) :
    s.done.Pairwise fun f g => wayKey f.way < wayKey g.way :=
  (List.pairwise_map.1 (List.pairwise_append.1 h.sorted).1).imp Before.wayKey_lt

/-- When nothing is left to do, the files that are done are the files of the tree. -/
theorem done_eq (hd : d.Valid) (hout : Outside fill.texts templates output d)
    (h : Invariant fill templates output d s) (hs : s.pending = []) :
    s.done = d.templateFiles (d.target templates) := by
  refine eq_of_pairwise_wayKey h.done_sorted (pairwise_templateFiles hd.nodup) fun f => ?_
  refine ⟨h.mem f, fun hf => ?_⟩
  rcases h.covered f.way (Or.inr ⟨_, (mem_templateFiles_iff hd.nodup).1 hf⟩) with
    hhandled | ⟨t, ht, -⟩
  · exact h.mem_done hd hout hf hhandled
  · simp [hs] at ht

end Invariant

theorem foldl_count (files : List TemplateFile) (report : Report) :
    files.foldl Report.count report =
      ⟨report.rendered + files.countP (·.isRendered),
        report.copied + files.countP (!·.isRendered)⟩ := by
  induction files generalizing report with
  | nil => simp
  | cons f files ih =>
      rw [List.foldl_cons, ih, Report.count]
      cases hf : f.isRendered <;> simp [hf] <;> omega

/-- An expansion that ends well takes steps until nothing is left to do. -/
theorem steps_of_expand (hd : d.Valid) (hout : Outside fill.texts templates output d)
    (h : (expand fill templates output).on d = (.ok report, d')) :
    Relation.ReflTransGen (Step (Device.faulty Disk) fill templates output)
      ⟨[.list []], [], {}, d⟩ ⟨[], d.templateFiles (d.target templates), report, d'⟩ := by
  obtain ⟨r, e, hends, hfollows⟩ := expand_follows (c := d) hd hout
  obtain ⟨rfl, rfl⟩ := Prod.mk.inj (hends.on_eq.symm.trans h)
  cases hfollows with
  | ok hsteps =>
      have hinv := (Invariant.init hd).steps hd hout hsteps
      rwa [← hinv.done_eq hd hout rfl]

theorem invariant_of_expand (hd : d.Valid) (hout : Outside fill.texts templates output d)
    (h : (expand fill templates output).on d = (.ok report, d')) :
    Invariant fill templates output d ⟨[], d.templateFiles (d.target templates), report, d'⟩ :=
  (Invariant.init hd).steps hd hout (steps_of_expand hd hout h)

/-- An expansion that ends well writes each file of the template tree, in the order of a walk, and
makes directories on the way to them; nothing else changes. The report counts the files. In which
order the names in a directory are listed makes no difference. -/
theorem expand_written (hd : d.Valid) (hout : Outside fill.texts templates output d)
    (h : (expand fill templates output).on d = (.ok report, d')) :
    ∃ writes,
      (d.templateFiles (d.target templates)).map (·.write? fill output) = writes.map some ∧
      d.Written writes (d.OnSomeWay writes) d' ∧
      report.rendered = (d.templateFiles (d.target templates)).countP (·.isRendered) ∧
      report.copied = (d.templateFiles (d.target templates)).countP (!·.isRendered) ∧
      ∀ listing : Listing, Run.on (@expand _ _ listing.files fill templates output) d =
        (.ok report, d') := by
  have hinv := invariant_of_expand hd hout h
  obtain ⟨writes, hwrites, hwritten⟩ := hinv.written
  have hreport : report = _ := hinv.report
  rw [foldl_count] at hreport
  refine ⟨writes, hwrites, hwritten, by simp [hreport], by simp [hreport], fun listing => ?_⟩
  rw [expand_listing, h]

/-- Two templates for the same file, and one in a directory with a token in its name. -/
def pages : Disk where
  cwd := []
  nodes := [(["tpl"], .dir), (["tpl", "\x7b\x7bkind\x7d\x7d"], .dir),
    (["tpl", "\x7b\x7bkind\x7d\x7d", "index.md"], .file "index".toUTF8),
    (["tpl", "note.md.hbs"], .file "# \x7b\x7btitle\x7d\x7d".toUTF8),
    (["tpl", "note.md"], .file "note".toUTF8)]

def pageFilling : Filling := ⟨.obj [("title", .str "Home")], [("kind", "page")]⟩

/-- The disk after an expansion. -/
def pagesAfter : Disk where
  cwd := []
  nodes := pages.nodes ++ [(["out"], .dir), (["out", "note.md"], .file "# Home".toUTF8),
    (["out", "page"], .dir), (["out", "page", "index.md"], .file "index".toUTF8)]

theorem expand_written_pages :
    pages.Valid ∧ Outside pageFilling.texts "tpl" "out" pages ∧
      (expand pageFilling "tpl" "out").on pages = (.ok ⟨1, 2⟩, pagesAfter) ∧
      ∃ writes, (pages.templateFiles (pages.target "tpl")).map (·.write? pageFilling "out") =
          writes.map some ∧
        pages.Written writes (pages.OnSomeWay writes) pagesAfter := by
  have hd : pages.Valid := by decide +kernel
  have hout : Outside pageFilling.texts "tpl" "out" pages := by decide +kernel
  have h : (expand pageFilling "tpl" "out").on pages = (.ok ⟨1, 2⟩, pagesAfter) := by
    rw [expand_eq]
    decide +kernel
  obtain ⟨writes, hwrites, hwritten, -⟩ := expand_written hd hout h
  exact ⟨hd, hout, h, writes, hwrites, hwritten⟩

end Expand

end Scaffold
