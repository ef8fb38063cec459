import Scaffold.Proofs.Generate.Loops
import Scaffold.Proofs.Generate.Plugins

/-!
# Reading a project

Reading the blueprint of a project changes nothing on the disk of a device, whatever may fail. Where
nothing fails and it succeeds, it comes to the same on another disk on which the configuration and
the plugins are the same and the path of the project leads to the same directory.
-/

namespace Scaffold

open Device (disk)

namespace Run

variable {σ ε ε' α β : Type} [Files (StateM σ)] [Device σ] {d e : Disk} {x : Run (StateM σ) ε α}

/-- The run leaves the first disk as it is. If the device does not fail by itself and the run
succeeds, it comes to the same on the second disk and leaves that as it is, too. -/
def Reads (x : Run (StateM σ) ε α) (d e : Disk) : Prop :=
  ∀ s t, disk s = d → disk t = e → ∃ r s', x.Ends s r s' ∧ disk s' = d ∧
    (¬ Device.faulty σ → ∀ a, r = .ok a → ∃ t', x.Ends t r t' ∧ disk t' = e)

namespace Reads

/-- A run that leaves every state as it is. -/
theorem of_ends {r : Except ε α} (h : ∀ s, x.Ends s r s) (d e : Disk) : x.Reads d e :=
  fun s t hs ht => ⟨r, s, h s, hs, fun _ _ _ => ⟨t, h t, ht⟩⟩

theorem pure (a : α) (d e : Disk) : (Pure.pure a : Run (StateM σ) ε α).Reads d e :=
  of_ends (.pure a) d e

theorem throw (cause : ε) (d e : Disk) :
    (MonadExcept.throw cause : Run (StateM σ) ε α).Reads d e :=
  of_ends (.throw cause) d e

theorem leave (events : List Event) (d e : Disk) :
    (Run.leave events : Run (StateM σ) ε Unit).Reads d e :=
  of_ends (.leave events) d e

theorem ofLogged (x : Logged ε α) (d e : Disk) :
    (Run.ofLogged x : Run (StateM σ) ε α).Reads d e :=
  of_ends (.ofLogged x) d e

theorem bind {f : α → Run (StateM σ) ε β} (hx : x.Reads d e) (hf : ∀ a, (f a).Reads d e) :
    (x >>= f).Reads d e := by
  intro s t hs ht
  obtain ⟨r, s', hends, hs', hsame⟩ := hx s t hs ht
  cases r with
  | error cause => exact ⟨_, s', hends.bind_error, hs', by simp⟩
  | ok a =>
      by_cases hfaulty : Device.faulty σ
      · obtain ⟨r', s'', hends', hs'', -⟩ := hf a s' t hs' ht
        exact ⟨r', s'', hends.bind_ok hends', hs'', absurd hfaulty⟩
      · obtain ⟨t', hends', ht'⟩ := hsame hfaulty a rfl
        obtain ⟨r', s'', hends₁, hs'', hsame'⟩ := hf a s' t' hs' ht'
        refine ⟨r', s'', hends.bind_ok hends₁, hs'', fun _ b hb => ?_⟩
        obtain ⟨t'', hends₂, ht''⟩ := hsame' hfaulty b hb
        exact ⟨t'', hends'.bind_ok hends₂, ht''⟩

theorem mapError (g : ε → ε') (h : x.Reads d e) : (x.mapError g).Reads d e := by
  intro s t hs ht
  obtain ⟨r, s', hends, hs', hsame⟩ := h s t hs ht
  refine ⟨_, s', hends.mapError g, hs', fun hfaulty a ha => ?_⟩
  obtain ⟨t', hends', ht'⟩ := hsame hfaulty a (Outcome.mapError_eq_ok_iff.1 ha)
  exact ⟨t', hends'.mapError g, ht'⟩

/-- An operation that looks at the disk. -/
theorem ofFiles {g : IoError → ε} {x : StateM σ (Except IoError α)} {f : Disk → Except IoError α}
    (hx : ∀ s, Looked disk (Device.faulty σ) s (f (disk s)) (x.run s))
    (h : ∀ a, f d = .ok a → f e = .ok a) : (Run.ofFiles g x).Reads d e := by
  rintro s t rfl rfl
  have hlooked := hx s
  generalize hrun : x.run s = outcome at hlooked
  cases hlooked with
  | @fault cause s' hdisk hfaulty => exact ⟨_, s', .ofFiles hrun, hdisk, absurd hfaulty⟩
  | @same s' hdisk =>
      refine ⟨_, s', .ofFiles hrun, hdisk, fun hfaulty a ha => ?_⟩
      rw [Outcome.mapError_eq_ok_iff] at ha
      have hlooked' := hx t
      generalize hrun' : x.run t = outcome' at hlooked'
      cases hlooked' with
      | fault _ hfaulty' => exact absurd hfaulty' hfaulty
      | @same t' hdisk' =>
          rw [h a ha] at hrun'
          exact ⟨t', ha ▸ .ofFiles hrun', hdisk'⟩

/-- On the disk in memory, the outcomes can be compared on each disk alone. -/
theorem of_on_eq {x : Run (StateM Disk) ε α} (hd : x.Reads d d) (he : x.Reads e e)
    (h : (x.on e).1 = (x.on d).1) : x.Reads d e := by
  rintro s t rfl rfl
  obtain ⟨r, s', hends, hs', -⟩ := hd s s rfl rfl
  obtain ⟨r', t', hends', ht', -⟩ := he t t rfl rfl
  have hsame : r' = r := by
    have hon : (x.on t).1 = (x.on s).1 := h
    rw [hends.on_eq, hends'.on_eq] at hon
    exact hon
  exact ⟨r, s', hends, hs', fun _ _ _ => ⟨t', hsame ▸ hends', ht'⟩⟩

end Reads

end Run

open Run

variable {σ : Type} [Files (StateM σ)] [Device σ] {d e : Disk}

theorem Config.load_reads {path : String} (h : e.read path = d.read path) :
    (Config.load path : Run (StateM σ) LoadError Config).Reads d e := by
  have htext : ∀ text, d.text path = .ok text → e.text path = .ok text := by
    simp only [Disk.text, h]
    exact fun _ => id
  refine .bind (.ofFiles (f := (·.text path)) (Expand.readText_looked path) htext) fun text => ?_
  cases Config.parse text with
  | error cause => exact .throw _ d e
  | ok config => exact .bind (.leave _ d e) fun _ => .pure config d e

theorem existsDir_reads (p : String) (d : Disk) :
    @Run.Reads σ GenerateError Bool _ _ (ExceptT.lift (StateT.lift (Files.existsDir p))) d d := by
  intro s t hs ht
  obtain ⟨b, s', hrun, hs', htrue, hfalse⟩ := Device.run_existsDir p s
  obtain ⟨b', t', hrun', ht', htrue', hfalse'⟩ := Device.run_existsDir p t
  rw [hs] at hs' htrue hfalse
  rw [ht] at ht' htrue' hfalse'
  refine ⟨_, s', .lift hrun, hs', fun hfaulty _ _ => ⟨t', ?_, ht'⟩⟩
  have hsame : b' = b := by
    cases b with
    | true =>
        refine Bool.not_eq_false _ ▸ fun hb' => ?_
        exact ((hfalse' hb').resolve_left hfaulty) (htrue rfl)
    | false =>
        refine Bool.not_eq_true _ ▸ fun hb' => ?_
        exact ((hfalse rfl).resolve_left hfaulty) (htrue' hb')
  exact hsame ▸ .lift hrun'

theorem Plugins.discover_reads (root : String) (d : Disk) :
    (Plugins.discover root : Run (StateM σ) GenerateError (List String)).Reads d d := by
  refine .bind (existsDir_reads _ d) fun found => ?_
  cases found with
  | false => exact .pure [] d d
  | true =>
      refine .bind (.ofFiles (f := (·.list _)) (Device.list _) fun _ => id) fun names => ?_
      exact .bind (.leave _ d d) fun _ => .pure _ d d

namespace Project

theorem appName_reads (root : String) (h : d.Extends e) :
    (appName root : Run (StateM σ) GenerateError String).Reads d e := by
  have hname : ∀ name, d.fullName root = .ok name → e.fullName root = .ok name := by
    intro name hname
    obtain ⟨l, hl, hlast⟩ := Outcome.bind_eq_ok_iff.1 hname
    exact Outcome.bind_eq_ok_iff.2 ⟨l, h.locate hl, hlast⟩
  refine .bind (.ofFiles (f := (·.fullName root)) (Device.fullName root) hname) fun name => ?_
  cases name with
  | none => exact .throw _ d e
  | some name => exact .pure name d e

theorem blueprint_reads {p : Project}
    (hconfig : e.read (Files.join p.root configName) = d.read (Files.join p.root configName))
    (hplugins : (Plugins.discover p.root : Run (StateM σ) GenerateError _).Reads d e)
    (hextends : d.Extends e) :
    (p.blueprint : Run (StateM σ) GenerateError Blueprint).Reads d e := by
  refine .bind (.mapError _ (Config.load_reads hconfig)) fun config => ?_
  refine .bind (.ofLogged _ d e) fun _ => .bind hplugins fun plugins => ?_
  refine .bind (appName_reads p.root hextends) fun app => .bind (.leave _ d e) fun _ => ?_
  exact .bind (.ofLogged _ d e) fun b => .ofLogged _ d e

/-- What templates are filled from in a generation. -/
def filling (p : Project) (b : Blueprint) : Filling :=
  { data := b.context p.texts, texts := p.texts }

/-- Where the files of a generation are written. -/
def outputPath (p : Project) : String := p.output.getD p.root

/-- No file of a generation is written into its template tree. -/
def Outside (p : Project) (d : Disk) : Prop :=
  ∀ templates ∈ p.templates, Expand.Outside p.texts templates p.outputPath d

instance (p : Project) (d : Disk) : Decidable (p.Outside d) :=
  inferInstanceAs (Decidable (∀ templates ∈ p.templates, Expand.Outside _ templates _ d))

omit [Device σ] in
theorem generate_eq {p : Project} {templates : String} (h : p.templates = some templates) :
    (p.generate : Run (StateM σ) GenerateError Report) = (do
      let b ← p.blueprint
      Expand.expand (p.filling b) templates p.outputPath) := by
  rw [generate, h]
  rfl

/-- What a generation comes to: there is no template directory, there is no blueprint, or it comes
to what the expansion comes to. -/
theorem generate_cases {p : Project} {s s' : σ} {r : Except GenerateError Report}
    (hd : (disk s).Valid) (hout : p.Outside (disk s)) (h : p.generate.on s = (r, s')) :
    (p.templates = none ∧ r = .error .noTemplates ∧ disk s' = disk s) ∨
    (∃ cause, p.blueprint.Ends s (.error cause) s' ∧ r = .error cause ∧ disk s' = disk s) ∨
    ∃ templates b s₁, p.templates = some templates ∧ p.blueprint.Ends s (.ok b) s₁ ∧
      disk s₁ = disk s ∧ Expand.Outside (p.filling b).texts templates p.outputPath (disk s) ∧
      (Expand.expand (p.filling b) templates p.outputPath).on s₁ = (r, s') := by
  cases htemplates : p.templates with
  | none =>
      rw [generate, htemplates] at h
      obtain ⟨rfl, rfl⟩ := Prod.mk.inj ((Run.Ends.throw _ s).on_eq.symm.trans h)
      exact Or.inl ⟨rfl, rfl, rfl⟩
  | some templates =>
      right
      obtain ⟨r', s₁, hblueprint, hdisk, -⟩ :=
        blueprint_reads rfl (Plugins.discover_reads p.root (disk s)) (.refl _) s s rfl rfl
      rw [generate_eq htemplates] at h
      cases r' with
      | error cause =>
          obtain ⟨rfl, rfl⟩ := Prod.mk.inj (hblueprint.bind_error.on_eq.symm.trans h)
          exact Or.inl ⟨cause, hblueprint, rfl, hdisk⟩
      | ok b =>
          have hout' : Expand.Outside (p.filling b).texts templates p.outputPath (disk s) :=
            hout templates htemplates
          have hvalid := hd
          rw [← hdisk] at hvalid hout'
          obtain ⟨r', s₂, hexpand, -⟩ := Expand.expand_follows hvalid hout'
          obtain ⟨rfl, rfl⟩ := Prod.mk.inj ((hblueprint.bind_ok hexpand).on_eq.symm.trans h)
          exact Or.inr ⟨templates, b, s₁, rfl, hblueprint, hdisk, hdisk ▸ hout', hexpand.on_eq⟩

/-- A project that is generated in place. -/
def plainProject : Project := { root := "app", templates := some "tpl" }

/-- A configuration without methods. -/
def plainConfig : ByteArray :=
  "types: \x7bS: int\x7d\nmethods: \x7b\x7d\nauth: \x7b\x7d\nuserState: S\nerror: string\n".toUTF8

end Project

end Scaffold
