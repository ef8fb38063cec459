import Scaffold.Proofs.Files.Trail
import Scaffold.Proofs.Generate.Project

/-!
# The trail of a generation

On a disk with a trail, an expansion and a generation do what they do on the disk. They list
directories, write files into the directories that belong to the template directories which have
been listed, and make the directories on the way to these files; they do nothing else (`rule`).
-/

namespace Scaffold

open Disk

/-! ## Runs in step -/

namespace Run

variable {ε α β : Type} {rule : Rule} {s : Traced}

/-- What a run comes to on a disk, with the trail that it leaves. -/
def traced (x : Run (StateM Traced) ε α) (d : Disk) : Except ε α × Traced :=
  let end' := (x.run.run []).run ⟨d, []⟩
  (end'.1.1, end'.2)

/-- The runs are in step, whatever log there is at the start. -/
def InStep (rule : Rule) (s : Traced) (x : Run (StateM Traced) ε α) (y : Run (StateM Disk) ε α)
    (Q : α → Traced → Prop) : Prop :=
  ∀ log, Traced.InStep rule s (x.run.run log) (y.run.run log) fun end' s' =>
    ∀ a, end'.1 = .ok a → Q a s'

namespace InStep

variable {x : Run (StateM Traced) ε α} {y : Run (StateM Disk) ε α}
  {f : α → Run (StateM Traced) ε β} {g : α → Run (StateM Disk) ε β}
  {Q : α → Traced → Prop} {Q' : β → Traced → Prop}

theorem pure {a : α} (h : Q a s) :
    InStep rule s (Pure.pure a : Run (StateM Traced) ε α) (Pure.pure a) Q := by
  intro log
  refine ⟨(.ok a, log), s, rfl, rfl, .refl s, ?_⟩
  intro b hb
  cases hb
  exact h

theorem throw (e : ε) :
    InStep rule s (MonadExcept.throw e : Run (StateM Traced) ε α) (MonadExcept.throw e) Q :=
  fun log => ⟨(.error e, log), s, rfl, rfl, .refl s, nofun⟩

theorem leave (events : List Event) :
    InStep rule s (Run.leave events : Run (StateM Traced) ε Unit) (Run.leave events)
      fun _ _ => True :=
  fun log => ⟨(.ok (), log ++ events), s, rfl, rfl, .refl s, fun _ _ => trivial⟩

theorem bind (hx : InStep rule s x y Q)
    (hf : ∀ a s', Traced.Steps rule s s' → Q a s' → InStep rule s' (f a) (g a) Q') :
    InStep rule s (x >>= f) (y >>= g) Q' := by
  intro log
  change Traced.InStep rule s
    (x.run.run log >>= fun end' => StateT.run (ExceptT.bindCont f end'.1) end'.2)
    (y.run.run log >>= fun end' => StateT.run (ExceptT.bindCont g end'.1) end'.2) _
  apply (hx log).bind
  rintro ⟨r, log'⟩ s' hsteps hQ
  cases r with
  | error e => exact ⟨(.error e, log'), s', rfl, rfl, .refl s', nofun⟩
  | ok a => exact hf a s' hsteps (hQ a rfl) log'

theorem ofFiles {h : IoError → ε} {x : StateM Traced (Except IoError α)}
    {y : StateM Disk (Except IoError α)} {Q : Except IoError α → Traced → Prop}
    (hx : Traced.InStep rule s x y Q) :
    InStep rule s (Run.ofFiles h x) (Run.ofFiles h y) fun a s' => Q (.ok a) s' := by
  intro log
  obtain ⟨r, s', hxs, hys, hsteps, hQ⟩ := hx
  refine ⟨(r.mapError h, log), s', ?_, ?_, hsteps, ?_⟩
  · change (((x.run s).1.mapError h, log), (x.run s).2) = _
    rw [hxs]
  · change (((y.run s.disk).1.mapError h, log), (y.run s.disk).2) = _
    rw [hys]
  · intro a ha
    rw [Outcome.mapError_eq_ok_iff] at ha
    rw [← ha]
    exact hQ

theorem lift {x : StateM Traced α} {y : StateM Disk α} (hx : Traced.InStep rule s x y Q) :
    @InStep ε α rule s (ExceptT.lift (StateT.lift x)) (ExceptT.lift (StateT.lift y)) Q := by
  intro log
  obtain ⟨a, s', hxs, hys, hsteps, hQ⟩ := hx
  refine ⟨(.ok a, log), s', ?_, ?_, hsteps, ?_⟩
  · change ((Except.ok (x.run s).1, log), (x.run s).2) = _
    rw [hxs]
  · change ((Except.ok (y.run s.disk).1, log), (y.run s.disk).2) = _
    rw [hys]
  · intro b hb
    cases hb
    exact hQ

theorem mapError {ε' : Type} (h : ε → ε') (hx : InStep rule s x y Q) :
    InStep rule s (x.mapError h) (y.mapError h) Q := by
  intro log
  obtain ⟨⟨r, log'⟩, s', hxs, hys, hsteps, hQ⟩ := hx log
  refine ⟨(r.mapError h, log'), s', ?_, ?_, hsteps, ?_⟩
  · change ((((x.run.run log).run s).1.1.mapError h, ((x.run.run log).run s).1.2),
      ((x.run.run log).run s).2) = _
    rw [hxs]
  · change ((((y.run.run log).run s.disk).1.1.mapError h, ((y.run.run log).run s.disk).1.2),
      ((y.run.run log).run s.disk).2) = _
    rw [hys]
  · intro a ha
    exact hQ a (Outcome.mapError_eq_ok_iff.1 ha)

theorem ofLogged (z : Logged ε α) :
    InStep rule s (Run.ofLogged z : Run (StateM Traced) ε α) (Run.ofLogged z) fun _ _ => True := by
  apply (leave z.log).bind
  intro _ s' _ _ log
  exact ⟨(z.result, log), s', rfl, rfl, .refl s', fun _ _ => trivial⟩

theorem foldlM {γ : Type} {f : β → γ → Run (StateM Traced) ε β}
    {g : β → γ → Run (StateM Disk) ε β} {l : List γ} {b : β}
    (h : ∀ c ∈ l, ∀ b s', Traced.Steps rule s s' →
      InStep rule s' (f b c) (g b c) fun _ _ => True) :
    InStep rule s (l.foldlM f b) (l.foldlM g b) fun _ _ => True := by
  induction l generalizing s b with
  | nil => exact .pure trivial
  | cons c l ih =>
      rw [List.foldlM_cons, List.foldlM_cons]
      apply (h c List.mem_cons_self b s (.refl s)).bind
      intro b' s₁ hsteps₁ _
      apply ih
      intro c' hc' b s₂ hsteps₂
      exact h c' (List.mem_cons_of_mem c hc') b s₂ (hsteps₁.trans hsteps₂)

theorem traced_eq {d : Disk} (h : InStep rule ⟨d, []⟩ x y Q) :
    ∃ r s', x.traced d = (r, s') ∧ y.on d = (r, s'.disk) ∧ Traced.Steps rule ⟨d, []⟩ s' := by
  obtain ⟨⟨r, log⟩, s', hxs, hys, hsteps, -⟩ := h []
  refine ⟨r, s', ?_, ?_, hsteps⟩
  · simp only [traced, hxs]
  · have hon : (y.run.run []).run d = ((r, log), s'.disk) := hys
    simp only [on, hon]

end InStep

end Run

namespace Expand

variable {fill : Filling} {templates output p : String} {d : Disk} {s : Traced}
  {trail : List Touch}

/-! ## What an expansion may do -/

/-- The path of a file in the directory that belongs to a template directory which has been listed.
The name need not be one that a file can have. -/
def Place (d : Disk) (texts : Table String) (templates output : String) (trail : List Touch)
    (p : String) : Prop :=
  ∃ way name, .listed (d.target templates ++ way) ∈ trail ∧ '/' ∉ name.toList ∧
    p = Files.join (TemplateFile.outDir texts output way) name

theorem Place.append {texts : Table String} (h : Place d texts templates output trail p)
    (more : List Touch) : Place d texts templates output (trail ++ more) p := by
  obtain ⟨way, name, hlisted, hrest⟩ := h
  exact ⟨way, name, List.mem_append_left _ hlisted, hrest⟩

/-- Directories may be made on the way to the path of a file, and a file may be written there. -/
def rule (d : Disk) (texts : Table String) (templates output : String) : Rule where
  may trail t :=
    match t with
    | .listed _ => True
    | .made l => ∃ p, Place d texts templates output trail p ∧ d.OnTheWay p l
    | .wrote l => ∃ p, Place d texts templates output trail p ∧
        (steps p).getLast? ≠ some ".." ∧ l = d.target p
  mono trail more t h := by
    cases t with
    | listed l => trivial
    | made l =>
        obtain ⟨p, hp, hl⟩ := h
        exact ⟨p, hp.append more, hl⟩
    | wrote l =>
        obtain ⟨p, hp, hl⟩ := h
        exact ⟨p, hp.append more, hl⟩

/-- A state that an expansion may come to. -/
def Reached (fill : Filling) (templates output : String) (d : Disk) (s : Traced) : Prop :=
  Traced.Steps (rule d fill.texts templates output) ⟨d, []⟩ s

theorem Place.of_steps {rule : Rule} {s' : Traced}
    (h : Place d fill.texts templates output s.trail p) (hsteps : Traced.Steps rule s s') :
    Place d fill.texts templates output s'.trail p := by
  obtain ⟨more, hmore⟩ := hsteps.trail
  rw [← hmore]
  exact h.append more

theorem createParent_inStep (hs : Reached fill templates output d s)
    (hp : Place d fill.texts templates output s.trail p) :
    Run.InStep (rule d fill.texts templates output) s
      (createParent p : Run (StateM Traced) GenerateError Unit) (createParent p)
      fun _ _ => True := by
  unfold createParent
  cases hparent : Files.parent? p with
  | none => exact .pure trivial
  | some above =>
      apply Run.InStep.ofFiles (Q := fun _ _ => True)
      apply Traced.InStep.createFirst
      intro q hq
      rw [hs.target]
      exact ⟨p, hp, onTheWay_parent hparent hq d⟩

/-- A file may be written to its path: where it can be, the path does not end in `..`. -/
theorem may_write (hs : Reached fill templates output d s)
    (hp : Place d fill.texts templates output s.trail p) {l : Location}
    (hl : s.disk.locateFile p = .ok l) :
    (rule d fill.texts templates output).may s.trail (.wrote (s.disk.target p)) := by
  obtain ⟨-, front, last, -, hsteps, -, -, hdots, -⟩ :=
    locateNew_eq_ok_iff.1 (locateFile_eq_ok_iff.1 hl).1
  refine ⟨p, hp, ?_, hs.target p⟩
  simpa [hsteps] using hdots

/-- The directory of a file is made and the file is put there, by an operation that does so. -/
theorem place_inStep (hs : Reached fill templates output d s)
    (hp : Place d fill.texts templates output s.trail p) {op : Disk → Except IoError Disk}
    (hop : ∀ e e', op e = .ok e' → ∃ l bytes marks, e.locateFile p = .ok l ∧
      e' = { e.set l (.file bytes) with readOnly := marks }) (text : String) :
    Run.InStep (rule d fill.texts templates output) s
      (do
        createParent p
        Run.ofFiles (.io p) (Traced.change (fun e => .wrote (e.target p)) op)
        Run.tell .debug .expanding text : Run (StateM Traced) GenerateError Unit)
      (do
        createParent p
        Run.ofFiles (.io p) (Disk.change op)
        Run.tell .debug .expanding text)
      fun _ _ => True := by
  apply (createParent_inStep hs hp).bind
  intro _ s₁ hsteps₁ _
  have hchange : Traced.InStep (rule d fill.texts templates output) s₁
      (Traced.change (fun e => .wrote (e.target p)) op) (Disk.change op) fun _ _ => True := by
    apply Traced.InStep.change
    intro d' hd'
    obtain ⟨l, bytes, marks, hl, rfl⟩ := hop s₁.disk d' hd'
    exact ⟨.write hl, may_write (hs.trans hsteps₁) (hp.of_steps hsteps₁) hl⟩
  apply (Run.InStep.ofFiles hchange).bind
  intro _ s₂ _ _
  exact .leave _

theorem readText_inStep (rule : Rule) (s : Traced) (source : String) :
    Traced.InStep rule s (readText source) (readText source) fun _ _ => True := by
  unfold readText
  apply (Traced.InStep.look (·.read source)).bind
  intro r s' _ _
  cases r with
  | error e => exact .pure trivial
  | ok bytes =>
      dsimp only
      cases String.fromUTF8? bytes with
      | some text => exact .pure trivial
      | none => exact .pure trivial

theorem renderFile_inStep (source : String) (hs : Reached fill templates output d s)
    (hp : Place d fill.texts templates output s.trail p) :
    Run.InStep (rule d fill.texts templates output) s
      (renderFile fill source p : Run (StateM Traced) GenerateError Unit) (renderFile fill source p)
      fun _ _ => True := by
  unfold renderFile
  apply (Run.InStep.ofFiles (readText_inStep _ s source)).bind
  intro text s₁ hsteps₁ _
  cases Template.render text fill.data with
  | error e => exact .throw _
  | ok rendered =>
      refine place_inStep (hs.trans hsteps₁) (hp.of_steps hsteps₁) ?_ _
      intro e e' h
      obtain ⟨l, hl, rfl⟩ := write_eq_ok_iff.1 h
      exact ⟨l, rendered.toUTF8, e.readOnly, hl, rfl⟩

theorem copyFile_inStep (source : String) (hs : Reached fill templates output d s)
    (hp : Place d fill.texts templates output s.trail p) :
    Run.InStep (rule d fill.texts templates output) s
      (copyFile source p : Run (StateM Traced) GenerateError Unit) (copyFile source p)
      fun _ _ => True :=
  place_inStep hs hp (fun _ _ h => exists_of_copy h) _

theorem not_mem_of_stem? {ending name stem : String} (h : Files.stem? ending name = some stem)
    {c : Char} (hc : c ∉ name.toList) : c ∉ stem.toList := by
  unfold Files.stem? at h
  dsimp only at h
  split at h
  · cases h
    intro hmem
    rw [String.toList_ofList] at hmem
    exact hc (List.mem_of_mem_take hmem)
  · cases h

section Loops

variable {way : List String} {report : Report}

theorem expandFile_inStep (source : String) {name : String}
    (hs : Reached fill templates output d s)
    (hlisted : .listed (d.target templates ++ way) ∈ s.trail) (hname : IsName name) :
    Run.InStep (rule d fill.texts templates output) s
      (expandFile fill source (TemplateFile.outDir fill.texts output way) name report :
        Run (StateM Traced) GenerateError Report)
      (expandFile fill source (TemplateFile.outDir fill.texts output way) name report)
      fun _ _ => True := by
  unfold expandFile
  cases hstem : Files.stem? ending name with
  | some stem =>
      have hp : Place d fill.texts templates output s.trail
          (Files.join (TemplateFile.outDir fill.texts output way) stem) :=
        ⟨way, stem, hlisted, not_mem_of_stem? hstem hname.no_slash, rfl⟩
      apply (renderFile_inStep source hs hp).bind
      intro _ s₁ _ _
      exact .pure trivial
  | none =>
      have hp : Place d fill.texts templates output s.trail
          (Files.join (TemplateFile.outDir fill.texts output way) name) :=
        ⟨way, name, hlisted, hname.no_slash, rfl⟩
      apply (copyFile_inStep source hs hp).bind
      intro _ s₁ _ _
      exact .pure trivial

theorem isName_of_list {names : List String} (hd : d.Valid) (h : d.list p = .ok names)
    {name : String} (hname : name ∈ names) : IsName name := by
  obtain ⟨l, -, -, rfl⟩ := list_eq_ok_iff.1 h
  obtain ⟨n, hn⟩ := mem_names_iff.1 hname
  exact (hd.inside l name n hn).1

/-- A directory is listed before anything is done for its entries. -/
theorem expandDir_inStep (hd : d.Valid) (n : Nat) (way : List String)
    (hs : Reached fill templates output d s) (hway : ∀ name ∈ way, IsName name) :
    Run.InStep (rule d fill.texts templates output) s
      (expandDir fill n (sourcePath templates way) (TemplateFile.outDir fill.texts output way)
        report : Run (StateM Traced) GenerateError Report)
      (expandDir fill n (sourcePath templates way) (TemplateFile.outDir fill.texts output way)
        report)
      fun _ _ => True := by
  induction n generalizing s way report with
  | zero => exact .throw _
  | succ n ih =>
      unfold expandDir
      have hmay : (rule d fill.texts templates output).may s.trail
          (.listed (s.disk.target (sourcePath templates way))) := trivial
      apply (Run.InStep.ofFiles (Traced.InStep.list hmay)).bind
      intro names s₁ hsteps₁ hnames
      obtain ⟨hlist, hlisted⟩ := hnames names rfl
      rw [hs.target, target_sourcePath hway] at hlisted
      apply Run.InStep.foldlM
      intro name hname report s₂ hsteps₂
      have hs₂ := (hs.trans hsteps₁).trans hsteps₂
      have hisName : IsName name :=
        isName_of_list (hs.valid hd) hlist ((sortNames_perm names).mem_iff.1 hname)
      dsimp only
      rw [← sourcePath_snoc, ← outDir_snoc]
      apply (Run.InStep.ofFiles
        (Traced.InStep.look (·.isDir (sourcePath templates (way ++ [name]))))).bind
      intro b s₃ hsteps₃ _
      have hs₃ := hs₂.trans hsteps₃
      cases b with
      | true =>
          apply (Run.InStep.leave _).bind
          intro _ s₄ hsteps₄ _
          apply ih _ (hs₃.trans hsteps₄)
          intro other hother
          rcases List.mem_append.1 hother with hother | hother
          · exact hway other hother
          · rw [List.mem_singleton.1 hother]
            exact hisName
      | false =>
          exact expandFile_inStep _ hs₃ ((hsteps₂.trans hsteps₃).trail.subset hlisted) hisName

end Loops

theorem expand_inStep (hd : d.Valid) (hs : Reached fill templates output d s) :
    Run.InStep (rule d fill.texts templates output) s
      (expand fill templates output : Run (StateM Traced) GenerateError Report)
      (expand fill templates output) fun _ _ => True := by
  unfold expand
  apply (expandDir_inStep hd maxDepth [] hs (by simp)).bind
  intro report s₁ _ _
  apply (Run.InStep.leave _).bind
  intro _ s₂ _ _
  exact .pure trivial

end Expand

/-! ## Generations -/

section Generate

variable {rule : Rule} {s : Traced} {d : Disk}

theorem Config.load_inStep (rule : Rule) (s : Traced) (path : String) :
    Run.InStep rule s (Config.load path : Run (StateM Traced) LoadError Config) (Config.load path)
      fun _ _ => True := by
  unfold Config.load
  apply (Run.InStep.ofFiles (Expand.readText_inStep rule s path)).bind
  intro text s₁ _ _
  cases Config.parse text with
  | error e => exact .throw _
  | ok config =>
      apply (Run.InStep.leave _).bind
      intro _ s₂ _ _
      exact .pure trivial

theorem Plugins.discover_inStep (hlist : ∀ trail l, rule.may trail (.listed l)) (root : String) :
    Run.InStep rule s (Plugins.discover root : Run (StateM Traced) GenerateError (List String))
      (Plugins.discover root) fun _ _ => True := by
  unfold Plugins.discover
  apply (Run.InStep.lift (Traced.InStep.existsDir (Files.join root directory))).bind
  intro b s₁ _ _
  cases b with
  | false => exact .pure trivial
  | true =>
      apply (Run.InStep.ofFiles (Traced.InStep.list (hlist _ _))).bind
      intro names s₂ _ _
      apply (Run.InStep.leave _).bind
      intro _ s₃ _ _
      exact .pure trivial

namespace Project

theorem appName_inStep (rule : Rule) (s : Traced) (root : String) :
    Run.InStep rule s (appName root : Run (StateM Traced) GenerateError String) (appName root)
      fun _ _ => True := by
  unfold appName
  apply (Run.InStep.ofFiles (Traced.InStep.look (·.fullName root))).bind
  intro name s₁ _ _
  cases name with
  | none => exact .throw _
  | some name => exact .pure trivial

theorem blueprint_inStep (hlist : ∀ trail l, rule.may trail (.listed l)) (p : Project) :
    Run.InStep rule s (p.blueprint : Run (StateM Traced) GenerateError Blueprint) p.blueprint
      fun _ _ => True := by
  unfold blueprint
  apply ((Config.load_inStep rule s _).mapError _).bind
  intro config s₁ _ _
  apply (Run.InStep.ofLogged _).bind
  intro _ s₂ _ _
  apply (Plugins.discover_inStep hlist p.root).bind
  intro plugins s₃ _ _
  apply (appName_inStep rule s₃ p.root).bind
  intro app s₄ _ _
  apply (Run.InStep.leave _).bind
  intro _ s₅ _ _
  apply (Run.InStep.ofLogged _).bind
  intro b s₆ _ _
  exact .ofLogged _

theorem generate_inStep (hd : d.Valid) {p : Project} {templates : String}
    (htemplates : p.templates = some templates) :
    Run.InStep (Expand.rule d p.texts templates p.outputPath) ⟨d, []⟩
      (p.generate : Run (StateM Traced) GenerateError Report) p.generate fun _ _ => True := by
  unfold generate
  rw [htemplates]
  apply (blueprint_inStep (fun _ _ => trivial) p).bind
  intro b s₁ hsteps₁ _
  exact @Expand.expand_inStep (p.filling b) templates p.outputPath d s₁ hd hsteps₁

end Project

end Generate

end Scaffold
