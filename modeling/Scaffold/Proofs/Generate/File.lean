import Scaffold.Proofs.Generate.Run
import Scaffold.Proofs.Generate.Templates

/-!
# Expanding one file

A template file that is rendered is read first, then its directory is made, then it is written. A
file that is copied is read last, when its directory is there already. `FileEnds` lists how that can
end on a device: nothing is made for a file that is rendered until there is a text to write, and a
beginning of the bytes is left behind if the device fails while it writes.
-/

namespace Scaffold

variable {d d' d₁ : Disk} {p : String} {fill : Filling} {output source : String}
  {f : TemplateFile} {report : Report} {faulty : Prop}

namespace Disk

/-- The directory that a file is to be in is there. -/
def HasParent (d : Disk) (p : String) : Prop :=
  ∀ above, Files.parent? p = some above → above.isEmpty = true ∨ d.isDir above = .ok true

/-- Directories have been made for a file, and nothing else. -/
structure Made (d : Disk) (p : String) (d' : Disk) : Prop where
  valid : d'.Valid
  written : d.Written [] (d.OnTheWay p) d'
  marks : d'.readOnly = d.readOnly

/-- A file is at the path, and can be written again if it may be. -/
structure Ready (d : Disk) (p : String) : Prop where
  parent : d.HasParent p
  file : ∃ l bytes, d.locateNew p = .ok (some l) ∧ endsInSlash p = false ∧
    d.node? l = some (.file bytes)

theorem Extends.hasParent {e : Disk} (h : d.Extends e) (hcwd : d.node? d.cwd = some .dir)
    (hp : d.HasParent p) : e.HasParent p :=
  fun above habove => (hp above habove).imp_right (h.isDir hcwd)

theorem Extends.ready {e : Disk} (h : d.Extends e) (hcwd : d.node? d.cwd = some .dir)
    (hp : d.Ready p) : e.Ready p := by
  obtain ⟨l, bytes, hplace, hslash, hnode⟩ := hp.file
  obtain ⟨bytes', hnode'⟩ := h.file l bytes hnode
  exact ⟨h.hasParent hcwd hp.parent, l, bytes', h.locateNew hplace, hslash, hnode'⟩

theorem Ready.locateFile (hd : d.Valid) (h : d.Ready p) (hmark : d.target p ∉ d.readOnly) :
    d.locateFile p = .ok (d.target p) := by
  obtain ⟨l, bytes, hplace, hslash, hnode⟩ := h.file
  obtain ⟨rfl, -⟩ := locateNew_eq_target hd.cwd hplace
  exact locateFile_eq_ok_iff.2 ⟨hplace, hslash, by simp [hnode], hmark⟩

theorem Ready.node_target (hd : d.Valid) (h : d.Ready p) :
    ∃ bytes, d.node? (d.target p) = some (.file bytes) := by
  obtain ⟨l, bytes, hplace, -, hnode⟩ := h.file
  rw [← (locateNew_eq_target hd.cwd hplace).1]
  exact ⟨bytes, hnode⟩

/-- The directories on the way to a file are there. -/
theorem Ready.node_onTheWay (hd : d.Valid) (h : d.Ready p) {l : Location} (hl : d.OnTheWay p l) :
    d.node? l = some .dir := by
  obtain ⟨place, -, hplace, -⟩ := h.file
  obtain ⟨-, front, last, l₀, hsteps, hwalk, -⟩ := locateNew_eq_ok_iff.1 hplace
  obtain ⟨first, hfirst, hlt, rfl⟩ := hl
  rw [hsteps] at hfirst hlt
  obtain ⟨rest, rfl⟩ : first <+: front := by
    refine List.prefix_of_prefix_length_le hfirst (List.prefix_append _ _) ?_
    simpa using Nat.lt_succ_iff.1 (by simpa using hlt)
  obtain ⟨next, hnext⟩ := walk_front hwalk
  obtain ⟨rfl, hdir⟩ := walk_eq_ok hnext (node?_start hd.cwd p)
  exact hdir

theorem Made.target (h : d.Made p d') (q : String) : d'.target q = d.target q :=
  h.written.toExtends.target q

/-- The text of a file. -/
def text (d : Disk) (p : String) : Except IoError String :=
  match d.read p with
  | .error cause => .error cause
  | .ok bytes =>
      match String.fromUTF8? bytes with
      | some text => .ok text
      | none => .error .invalidData

end Disk

/-- The report with one more file. -/
def Report.count (report : Report) (f : TemplateFile) : Report :=
  if f.isRendered then { report with rendered := report.rendered + 1 }
  else { report with copied := report.copied + 1 }

namespace TemplateFile

variable {w : Write} {l : Location}

/-- The disk with what is written for a file at its place. A file that is copied is marked as its
source is. -/
def placed (f : TemplateFile) (source : String) (w : Write) (l : Location) (d : Disk) : Disk :=
  if f.isRendered then d.set l (.file w.bytes)
  else (d.set l (.file w.bytes)).mark l (d.readOnly.contains (d.target source))

theorem placed_eq_withMarks (f : TemplateFile) (source : String) (w : Write) (l : Location)
    (d : Disk) :
    ∃ marks, f.placed source w l d = { d.set l (.file w.bytes) with readOnly := marks } := by
  unfold placed
  split
  · exact ⟨d.readOnly, rfl⟩
  · exact ⟨_, rfl⟩

/-- A file that is copied is marked if its source is. -/
theorem readOnly_placed (hl : l ∉ d.readOnly) :
    (f.placed source w l d).readOnly =
      if f.isRendered = false ∧ d.target source ∈ d.readOnly then l :: d.readOnly
      else d.readOnly := by
  unfold placed
  cases f.isRendered with
  | true => simp
  | false =>
      rw [if_neg (by simp), Disk.readOnly_mark (by simpa using hl), Disk.readOnly_set]
      simp

/-- A file that is rendered is put in its place by being written. -/
theorem write_eq_placed (h : f.isRendered = true) (source : String) (w : Write) (d : Disk) :
    d.write w.path w.bytes = (d.locateFile w.path).map fun l => f.placed source w l d := by
  simp only [Disk.write_eq, placed, h, if_true]

theorem write?_of_render {rendered text : String} (h : f.isRendered = true)
    (htext : String.fromUTF8? f.bytes = some text)
    (hresult : Template.render text fill.data = .ok rendered) :
    f.write? fill output = some ⟨f.path fill.texts output, rendered.toUTF8⟩ := by
  simp [write?, result, h, htext, hresult, Except.toOption]

end TemplateFile

namespace Expand

open Run Run.Ends
open Device (disk)

theorem expandFile_eq {σ : Type} [Files (StateM σ)] (fill : Filling) (source output : String)
    (f : TemplateFile) (report : Report) :
    (expandFile fill source (TemplateFile.outDir fill.texts output f.dirs) f.name report :
        Run (StateM σ) GenerateError Report) =
      if f.isRendered then do
        renderFile fill source (f.path fill.texts output)
        return report.count f
      else do
        copyFile source (f.path fill.texts output)
        return report.count f := by
  rw [expandFile]
  cases hstem : Files.stem? ending f.name <;>
    simp [TemplateFile.isRendered, TemplateFile.path, Report.count, hstem]

variable {σ : Type} [Files (StateM σ)] [Device σ] {s : σ}

/-! ## The directory of a file -/

/-- How making the directory of a file ends. -/
inductive ParentEnds (faulty : Prop) (p : String) (d : Disk) :
    Except GenerateError Unit → Disk → Prop where
  | ok {d₁ : Disk} (hmade : d.Made p d₁) (hparent : d₁.HasParent p) :
      ParentEnds faulty p d (.ok ()) d₁
  | error {above : String} {cause : IoError} {d₁ : Disk} (habove : Files.parent? p = some above)
      (hmade : d.Made p d₁) (h : faulty ∨ ¬ d.HasParent p ∧ ∃ q ∈ Files.ancestors above,
        d₁.createDir q = .error cause ∧ d₁.isDir q ≠ .ok true) :
      ParentEnds faulty p d (.error (.io above cause)) d₁

theorem createParent_ends (hd : (disk s).Valid) (p : String) :
    ∃ r s₁, (createParent p : Run (StateM σ) GenerateError Unit).Ends s r s₁ ∧
      ParentEnds (Device.faulty σ) p (disk s) r (disk s₁) := by
  unfold createParent
  cases habove : Files.parent? p with
  | none =>
      refine ⟨_, s, Ends.pure () s, .ok ⟨hd, .refl _ _, rfl⟩ ?_⟩
      intro above habove'
      simp [habove] at habove'
  | some above =>
      obtain ⟨r, s₁, hrun, hends⟩ := Device.createFirst_ends hd (Files.ancestors above)
      have hmade : (disk s).Made p (disk s₁) := by
        refine ⟨hends.valid, hends.written.mono ?_, hends.marks⟩
        rintro l ⟨q, hq, rfl⟩
        exact Disk.onTheWay_parent habove hq _
      have hhead : (Files.ancestors above).head? = some above := rfl
      refine ⟨_, s₁, ofFiles hrun, ?_⟩
      cases r with
      | ok u =>
          refine .ok hmade fun above' habove' => ?_
          rw [habove] at habove'
          cases habove'
          exact hends.ok rfl above hhead
      | error cause =>
          refine .error habove hmade ?_
          rcases hends.missing cause rfl with hfaulty | hmissing
          · exact Or.inl hfaulty
          refine (hends.error cause rfl).imp_right fun hblocked => ⟨fun hparent => ?_, ?_⟩
          · obtain ⟨hne, hdir⟩ := hmissing above hhead
            rcases hparent above habove with hempty | hthere
            · simp [hempty] at hne
            · exact hdir hthere
          · refine hblocked.resolve_right fun hnone => ?_
            obtain ⟨q, hq, hfirst⟩ := Disk.exists_first_ancestor above
            obtain ⟨hne, hnotFound⟩ := hnone q hq
            exact Disk.createDir_ne_notFound hfirst hne _ hnotFound

/-! ## The file -/

/-- How the expansion of a file ends: there is no text, the text cannot be rendered, there is no
directory or no place for the file, the device fails while it writes, or the file is written. -/
inductive FileEnds (faulty : Prop) (fill : Filling) (source output : String) (f : TemplateFile)
    (report : Report) (d : Disk) : Except GenerateError Report → Disk → Prop where
  | unread {cause : IoError} (hrendered : f.isRendered = true) (hfaulty : faulty) :
      FileEnds faulty fill source output f report d (.error (.io source cause)) d
  | noText (hrendered : f.isRendered = true) (htext : String.fromUTF8? f.bytes = none) :
      FileEnds faulty fill source output f report d (.error (.io source .invalidData)) d
  | noResult {text : String} {cause : Template.Error} (hrendered : f.isRendered = true)
      (htext : String.fromUTF8? f.bytes = some text)
      (hresult : Template.render text fill.data = .error cause) :
      FileEnds faulty fill source output f report d (.error (.render source cause)) d
  | noParent {w : Write} {e : GenerateError} {d₁ : Disk} (hw : f.write? fill output = some w)
      (hparent : ParentEnds faulty w.path d (.error e) d₁) :
      FileEnds faulty fill source output f report d (.error e) d₁
  | noPlace {w : Write} {cause : IoError} {d₁ : Disk} (hw : f.write? fill output = some w)
      (hmade : d.Made w.path d₁) (hparent : d₁.HasParent w.path)
      (hplace : d₁.locateFile w.path = .error cause ∨ faulty) :
      FileEnds faulty fill source output f report d (.error (.io w.path cause)) d₁
  | cut {w : Write} {cause : IoError} {d₁ d₂ : Disk} (hw : f.write? fill output = some w)
      (hmade : d.Made w.path d₁) (hfaulty : faulty) (hcut : d₁.Begun w.path w.bytes d₂) :
      FileEnds faulty fill source output f report d (.error (.io w.path cause)) d₂
  | written {w : Write} {l : Location} {d₁ : Disk} (hw : f.write? fill output = some w)
      (hmade : d.Made w.path d₁) (hparent : d₁.HasParent w.path)
      (hplace : d₁.locateFile w.path = .ok l) :
      FileEnds faulty fill source output f report d (.ok (report.count f)) (f.placed source w l d₁)

/-- Once there is something to write, the directory is made and the file is written, by an operation
that puts it in its place. -/
theorem place_ends {w : Write} {op : StateM σ (Except IoError Unit)} (hd : (disk s).Valid)
    (hw : f.write? fill output = some w)
    (hop : ∀ s₁ : σ, (disk s).Made w.path (disk s₁) → Changed disk (Device.faulty σ) s₁
      (((disk s₁).locateFile w.path).map fun l => f.placed source w l (disk s₁))
      ((disk s₁).Begun w.path w.bytes) (op.run s₁))
    (report : Report) (text : String) :
    ∃ r s', (do
      createParent w.path
      Run.ofFiles (.io w.path) op
      Run.tell .debug .expanding text
      return report.count f : Run (StateM σ) GenerateError Report).Ends s r s' ∧
        FileEnds (Device.faulty σ) fill source output f report (disk s) r (disk s') := by
  obtain ⟨r, s₁, hends, hparent⟩ := createParent_ends hd w.path
  generalize hd₁ : disk s₁ = d₁ at hparent
  cases hparent with
  | error habove hmade h =>
      subst hd₁
      exact ⟨_, s₁, hends.bind_error, .noParent hw (.error habove hmade h)⟩
  | ok hmade hhas =>
      subst hd₁
      have hchanged := hop s₁ hmade
      generalize hrun : op.run s₁ = outcome at hchanged
      cases hchanged with
      | @ok s₂ hput =>
          obtain ⟨l, hplace, hput⟩ := Outcome.map_eq_ok_iff.1 hput
          refine ⟨_, s₂, hends.bind_ok ((ofFiles hrun).bind_ok
            ((leave _ s₂).bind_ok (Ends.pure _ s₂))), ?_⟩
          rw [← hput]
          exact .written hw hmade hhas hplace
      | @error cause s₂ hdisk hput =>
          refine ⟨_, s₂, hends.bind_ok (ofFiles hrun).bind_error, ?_⟩
          rw [hdisk]
          exact .noPlace hw hmade hhas (hput.imp_left Outcome.map_eq_error_iff.1)
      | @cut cause s₂ hfaulty hcut =>
          exact ⟨_, s₂, hends.bind_ok (ofFiles hrun).bind_error, .cut hw hmade hfaulty hcut⟩

theorem readText_looked (p : String) (s : σ) :
    Looked disk (Device.faulty σ) s ((disk s).text p) ((readText p : StateM σ _).run s) := by
  have hlooked := Device.read p s
  generalize hrun : (Files.read p : StateM σ (Except IoError ByteArray)).run s = outcome at hlooked
  rw [readText, Disk.text]
  cases hlooked with
  | fault hdisk hfaulty =>
      rw [Device.run_bind_eq hrun]
      exact .fault hdisk hfaulty
  | same hdisk =>
      rw [Device.run_bind_eq hrun]
      cases (disk s).read p with
      | error cause => exact .same hdisk
      | ok bytes =>
          dsimp only
          cases String.fromUTF8? bytes with
          | none => exact .same hdisk
          | some text => exact .same hdisk

theorem renderFile_ends (hd : (disk s).Valid) (hread : (disk s).read source = .ok f.bytes)
    (hrendered : f.isRendered = true) (report : Report) :
    ∃ r s', (do
      renderFile fill source (f.path fill.texts output)
      return report.count f : Run (StateM σ) GenerateError Report).Ends s r s' ∧
        FileEnds (Device.faulty σ) fill source output f report (disk s) r (disk s') := by
  have hlooked := readText_looked source s
  generalize hrun : (readText source : StateM σ (Except IoError String)).run s = outcome
    at hlooked
  rw [renderFile, bind_assoc]
  cases hlooked with
  | @fault cause s₁ hdisk hfaulty =>
      refine ⟨_, s₁, (ofFiles hrun).bind_error, ?_⟩
      rw [hdisk]
      exact .unread hrendered hfaulty
  | @same s₁ hdisk =>
      rw [Disk.text, hread] at hrun
      cases hutf : String.fromUTF8? f.bytes with
      | none =>
          simp only [hutf] at hrun
          refine ⟨_, s₁, (ofFiles hrun).bind_error, ?_⟩
          rw [hdisk]
          exact .noText hrendered hutf
      | some text =>
          simp only [hutf] at hrun
          cases hresult : Template.render text fill.data with
          | error cause =>
              refine ⟨.error (.render source cause), s₁, (ofFiles hrun).bind_ok ?_, ?_⟩
              · rw [hresult]
                exact (Ends.throw _ s₁).bind_error
              · rw [hdisk]
                exact .noResult hrendered hutf hresult
          | ok rendered =>
              have hwrite (s₂ : σ) := Device.write (f.path fill.texts output) rendered.toUTF8 s₂
              have hplaced (s₂ : σ) := TemplateFile.write_eq_placed hrendered source
                ⟨f.path fill.texts output, rendered.toUTF8⟩ (disk s₂)
              obtain ⟨r, s', hplace, hends⟩ := place_ends (hdisk ▸ hd)
                (TemplateFile.write?_of_render hrendered hutf hresult)
                (fun s₂ _ => hplaced s₂ ▸ hwrite s₂) report _
              refine ⟨r, s', (ofFiles hrun).bind_ok ?_, hdisk ▸ hends⟩
              simp only [hresult, bind_assoc]
              exact hplace

theorem copyFile_ends (hd : (disk s).Valid) (hread : (disk s).read source = .ok f.bytes)
    (hne : (disk s).target source ≠ (disk s).target (f.path fill.texts output))
    (hcopied : f.isRendered = false) (report : Report) :
    ∃ r s', (do
      copyFile source (f.path fill.texts output)
      return report.count f : Run (StateM σ) GenerateError Report).Ends s r s' ∧
        FileEnds (Device.faulty σ) fill source output f report (disk s) r (disk s') := by
  have hw : f.write? fill output = some ⟨f.path fill.texts output, f.bytes⟩ := by
    simp [TemplateFile.write?, TemplateFile.result, hcopied]
  have hcopy (s₁ : σ) (hmade : (disk s).Made (f.path fill.texts output) (disk s₁)) :
      Changed disk (Device.faulty σ) s₁
        (((disk s₁).locateFile (f.path fill.texts output)).map fun l =>
          f.placed source ⟨f.path fill.texts output, f.bytes⟩ l (disk s₁))
        ((disk s₁).Begun (f.path fill.texts output) f.bytes)
        ((Files.copy source (f.path fill.texts output) : StateM σ _).run s₁) := by
    have hread' := hmade.written.read hd.cwd hread (by simp)
    have hne' : (disk s₁).target source ≠ (disk s₁).target (f.path fill.texts output) := by
      rwa [hmade.target, hmade.target]
    have hchanged := Device.copy source (f.path fill.texts output) s₁
    rw [Disk.copy_eq hmade.valid hread' hne'] at hchanged
    simp only [TemplateFile.placed, hcopied, Bool.false_eq_true, if_false]
    refine hchanged.imp ?_
    rintro d' ⟨bytes, hbytes, hbegun⟩
    rw [hread'] at hbytes
    cases hbytes
    exact hbegun
  obtain ⟨r, s', hplace, hends⟩ := place_ends hd hw hcopy report _
  refine ⟨r, s', ?_, hends⟩
  simp only [copyFile, bind_assoc]
  exact hplace

theorem expandFile_ends (hd : (disk s).Valid) (hread : (disk s).read source = .ok f.bytes)
    (hne : (disk s).target source ≠ (disk s).target (f.path fill.texts output)) (report : Report) :
    ∃ r s', (expandFile fill source (TemplateFile.outDir fill.texts output f.dirs) f.name report :
        Run (StateM σ) GenerateError Report).Ends s r s' ∧
      FileEnds (Device.faulty σ) fill source output f report (disk s) r (disk s') := by
  rw [expandFile_eq]
  cases hrendered : f.isRendered with
  | true => exact renderFile_ends hd hread hrendered report
  | false => exact copyFile_ends hd hread hne hrendered report

/-- A file that is expanded is written, and is there then. -/
theorem FileEnds.ok {report' : Report}
    (h : FileEnds faulty fill source output f report d (.ok report') d') :
    report' = report.count f ∧ d'.Valid ∧ ∃ w, f.write? fill output = some w ∧
      d.Written [w] (d.OnTheWay w.path) d' ∧ d'.Ready w.path := by
  cases h with
  | @written w l d₁ hw hmade hparent hplace =>
      obtain ⟨rfl, hvalid, hwritten⟩ := Disk.set_file_written hmade.valid hplace w.bytes
        (d.OnTheWay w.path)
      obtain ⟨marks, hplaced⟩ := f.placed_eq_withMarks source w (d₁.target w.path) d₁
      rw [hplaced]
      have hwritten' := hwritten.withMarks marks
      refine ⟨rfl, hvalid.withMarks marks, w, hw, hmade.written.trans hwritten', ?_⟩
      obtain ⟨hnew, hslash, -⟩ := Disk.locateFile_eq_ok_iff.1 hplace
      have hextends := hwritten'.toExtends
      exact ⟨hextends.hasParent hmade.valid.cwd hparent, d₁.target w.path, w.bytes,
        hextends.locateNew hnew, hslash,
        hwritten'.last _ _ (Disk.lastTo_singleton d₁ w.path w.bytes)⟩

/-- A file is written only where no mark is, and is marked then if it is copied from one that is. -/
theorem FileEnds.readOnly_eq {report' : Report}
    (h : FileEnds faulty fill source output f report d (.ok report') d') :
    d.target (f.path fill.texts output) ∉ d.readOnly ∧ d'.readOnly =
      if f.isRendered = false ∧ d.target source ∈ d.readOnly then
        d.target (f.path fill.texts output) :: d.readOnly
      else d.readOnly := by
  cases h with
  | @written w l d₁ hw hmade hparent hplace =>
      obtain ⟨hnew, -, -, hmark⟩ := Disk.locateFile_eq_ok_iff.1 hplace
      obtain rfl := (Disk.locateNew_eq_target hmade.valid.cwd hnew).1
      rw [TemplateFile.readOnly_placed hmark, ← TemplateFile.path_of_write? hw, ← hmade.marks,
        ← hmade.target, ← hmade.target]
      exact ⟨hmark, rfl⟩

/-- A file that is there already is written again if it may be, unless the device fails. -/
theorem FileEnds.of_ready {r : Except GenerateError Report} {w : Write} (hd : d.Valid)
    (hfaulty : ¬ faulty) (hw : f.write? fill output = some w) (hready : d.Ready w.path)
    (hmark : d.target w.path ∉ d.readOnly)
    (h : FileEnds faulty fill source output f report d r d') : r = .ok (report.count f) := by
  cases h with
  | unread _ hfaulty' => exact absurd hfaulty' hfaulty
  | noText hrendered htext =>
      simp [TemplateFile.write?, TemplateFile.result, hrendered, htext] at hw
  | noResult hrendered htext hresult =>
      simp [TemplateFile.write?, TemplateFile.result, hrendered, htext, hresult,
        Except.toOption] at hw
  | noParent hw' hparent =>
      rw [hw] at hw'
      cases hw'
      cases hparent with
      | error habove hmade h => exact absurd hready.parent (h.resolve_left hfaulty).1
  | noPlace hw' hmade _ hplace =>
      rw [hw] at hw'
      cases hw'
      have hready' := hmade.written.toExtends.ready hd.cwd hready
      rw [← hmade.target, ← hmade.marks] at hmark
      have hlocate := hready'.locateFile hmade.valid hmark
      rw [hplace.resolve_right hfaulty] at hlocate
      cases hlocate
  | cut _ _ hfaulty' => exact absurd hfaulty' hfaulty
  | written => rfl

end Expand

end Scaffold
