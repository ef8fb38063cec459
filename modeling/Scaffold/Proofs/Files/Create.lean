import Scaffold.Proofs.Files.Device

/-!
# Creating directories on a device

Creating a directory together with the directories above it makes directories at the locations of
these paths only. `DirEnds` says how it ends: if it succeeds, the directory is there; if it fails
and the device does not fail by itself, the directory was not there before, and one of the
directories cannot be created on the disk that is left.
-/

namespace Scaffold

namespace Disk

variable {d d' : Disk} {p : String}

/-- A directory that has been created is there. -/
theorem isDir_of_createDir (hd : d.Valid) (h : d.createDir p = .ok d') : d'.isDir p = .ok true := by
  have hwritten := (createDir_written hd h).2.1
  obtain ⟨l, hplace, hnone, rfl⟩ := createDir_eq_ok_iff.1 h
  obtain ⟨hcheck, front, last, l₀, hsteps, hwalk, hdot, hdots, hshort, rfl⟩ :=
    locateNew_eq_ok_iff.1 hplace
  have hnode : (d.set (l₀ ++ [last]) .dir).node? (l₀ ++ [last]) = some .dir := by
    rw [node?_set d (by simp), if_pos rfl]
  refine isDir_eq_ok_iff.2 ⟨l₀ ++ [last], ?_, isDirAt_eq_true_iff.2 hnode⟩
  refine locate_eq_ok_iff.2 ⟨hcheck, Or.inr ⟨front, last, l₀, hsteps, ?_, ?_, fun _ => hnode⟩⟩
  · rw [hwritten.toExtends.start]
    exact hwritten.toExtends.walk hwalk
  · exact enter_eq_ok_iff.2 ⟨hshort, by simp [stepTo, hdot, hdots], _, hnode⟩

/-- Where a directory is, none is created. -/
theorem createDir_of_isDir (h : d.isDir p = .ok true) :
    d.createDir p = .error .alreadyExists := by
  obtain ⟨l, hl, hdir⟩ := isDir_eq_ok_iff.1 h
  rw [isDirAt_eq_true_iff] at hdir
  obtain ⟨hcheck, hrest⟩ := locate_eq_ok_iff.1 hl
  have hplace : d.locateNew p = .ok none ∨ d.locateNew p = .ok (some l) := by
    rcases hrest with ⟨hsteps, -⟩ | ⟨front, last, l₀, hsteps, hwalk, henter, -⟩
    · left
      simp [locateNew, hcheck, hsteps, bind, Except.bind, pure, Except.pure]
    · obtain ⟨hshort, rfl, -⟩ := enter_eq_ok_iff.1 henter
      by_cases hdots : last = "." ∨ last = ".."
      · left
        simp [locateNew, hcheck, hsteps, hwalk, hdots, bind, Except.bind, pure, Except.pure]
      · right
        rw [not_or] at hdots
        exact locateNew_eq_ok_iff.2 ⟨hcheck, front, last, l₀, hsteps, hwalk, hdots.1, hdots.2,
          hshort, by simp [stepTo, hdots]⟩
  rcases hplace with hplace | hplace
  · simp [createDir, hplace, bind, Except.bind]
  · simp [createDir, hplace, hdir, bind, Except.bind]

theorem walk_dots {rest : List String} (h : ∀ step ∈ rest, step = ".") (d : Disk) :
    d.walk [] rest = .ok [] := by
  induction rest with
  | nil => rfl
  | cons step rest ih =>
      obtain ⟨rfl, hrest⟩ := List.forall_mem_cons.1 h
      have henter : d.enter [] "." = .ok [] :=
        enter_eq_ok_iff.2 ⟨by decide, rfl, .dir, node?_nil d⟩
      exact walk_cons_eq_ok_iff.2 ⟨[], henter, node?_nil d, ih hrest⟩

/-- A path that nothing is above leads to the root, which is there. -/
theorem createDir_ne_notFound (h : Files.parent? p = none) (hp : p.isEmpty = false) (d : Disk) :
    d.createDir p ≠ .error .notFound := by
  obtain ⟨hsteps, hroot⟩ := parent?_eq_none h
  have hstart : d.start p = [] := by simp [start, hroot.resolve_left (by simp [hp])]
  have hpath : checkPath p ≠ .error .notFound := by
    rw [checkPath, if_neg (c := p.isEmpty = true) (by simp [hp])]
    split_ifs <;> simp
  unfold createDir locateNew
  cases hcheck : checkPath p with
  | error cause => simpa [bind, Except.bind, hcheck] using hpath
  | ok u =>
      cases hreverse : (steps p).reverse with
      | nil => simp [bind, Except.bind, pure, Except.pure]
      | cons last front =>
          have hdots : ∀ step ∈ front.reverse ++ [last], step = "." := by
            rw [← steps_eq_append hreverse]
            exact hsteps
          have hwalk := walk_dots (fun step hstep => hdots step (List.mem_append_left _ hstep)) d
          simp [bind, Except.bind, pure, Except.pure, hstart, hwalk, hdots last (by simp)]

end Disk

/-- How creating a directory unless it is there ends. -/
structure UnlessEnds (faulty : Prop) (p : String) (d : Disk) (r : Except IoError Unit)
    (d' : Disk) : Prop where
  valid : d'.Valid
  written : d.Written [] (· = d.target p) d'
  marks : d'.readOnly = d.readOnly
  ok : r = .ok () → d'.isDir p = .ok true
  error : ∀ cause, r = .error cause →
    d' = d ∧ (faulty ∨ d.createDir p = .error cause ∧ d.isDir p ≠ .ok true)

/-- How creating the first of some directories ends, each of which lies in the next. -/
structure DirEnds (faulty : Prop) (paths : List String) (d : Disk) (r : Except IoError Unit)
    (d' : Disk) : Prop where
  valid : d'.Valid
  written : d.Written [] (fun l => ∃ q ∈ paths, l = d.target q) d'
  marks : d'.readOnly = d.readOnly
  ok : r = .ok () → ∀ p ∈ paths.head?, p.isEmpty = true ∨ d'.isDir p = .ok true
  missing : ∀ cause, r = .error cause →
    faulty ∨ ∀ p ∈ paths.head?, p.isEmpty = false ∧ d.isDir p ≠ .ok true
  /-- One of the directories cannot be created, or there is none to start from. -/
  error : ∀ cause, r = .error cause → faulty ∨
    (∃ q ∈ paths, d'.createDir q = .error cause ∧ d'.isDir q ≠ .ok true) ∨
      ∀ q ∈ paths, q.isEmpty = false ∧ d.createDir q = .error .notFound

namespace DirEnds

variable {faulty : Prop} {p : String} {above : List String} {d d₁ d' : Disk}
  {r : Except IoError Unit} {cause : IoError}

theorem of_isEmpty (hd : d.Valid) (hp : p.isEmpty = true) :
    DirEnds faulty (p :: above) d (.ok ()) d where
  valid := hd
  written := .refl _ _
  marks := rfl
  ok _ q hq := by
    cases hq
    exact Or.inl hp
  missing := by simp
  error := by simp

/-- The directory is created, or it cannot be, and none above it is tried. -/
theorem of_unless (hp : p.isEmpty = false) (h : UnlessEnds faulty p d r d') :
    DirEnds faulty (p :: above) d r d' where
  valid := h.valid
  written := h.written.mono fun _ hl => ⟨p, List.mem_cons_self, hl⟩
  marks := h.marks
  ok hr := by simp [h.ok hr]
  missing cause hr := by
    refine (h.error cause hr).2.imp_right fun hcreate q hq => ?_
    cases hq
    exact ⟨hp, hcreate.2⟩
  error cause hr := by
    obtain ⟨hdisk, hcreate⟩ := h.error cause hr
    rw [hdisk]
    exact hcreate.imp_right fun hcreate => Or.inl ⟨p, List.mem_cons_self, hcreate⟩

theorem missing_of_notFound (hp : p.isEmpty = false)
    (hcreate : faulty ∨ d.createDir p = .error .notFound) :
    faulty ∨ ∀ q ∈ (p :: above).head?, q.isEmpty = false ∧ d.isDir q ≠ .ok true := by
  refine hcreate.imp_right fun hcreate q hq => ?_
  cases hq
  refine ⟨hp, fun hdir => ?_⟩
  rw [Disk.createDir_of_isDir hdir] at hcreate
  cases hcreate

theorem written_cons (h : DirEnds faulty above d r d') :
    d.Written [] (fun l => ∃ q ∈ p :: above, l = d.target q) d' := by
  refine h.written.mono ?_
  rintro l ⟨q, hq, hl⟩
  exact ⟨q, List.mem_cons_of_mem p hq, hl⟩

/-- One of the directories above is missing and cannot be created. -/
theorem of_above_error (hp : p.isEmpty = false)
    (hcreate : faulty ∨ d.createDir p = .error .notFound)
    (h : DirEnds faulty above d (.error cause) d') :
    DirEnds faulty (p :: above) d (.error cause) d' where
  valid := h.valid
  written := h.written_cons
  marks := h.marks
  ok := by simp
  missing _ _ := missing_of_notFound hp hcreate
  error cause' hcause := by
    rcases hcreate with hfaulty | hcreate
    · exact Or.inl hfaulty
    · refine (h.error cause' hcause).imp_right (Or.imp ?_ fun hnone => ?_)
      · rintro ⟨q, hq, hblocked⟩
        exact ⟨q, List.mem_cons_of_mem p hq, hblocked⟩
      · exact List.forall_mem_cons.2 ⟨⟨hp, hcreate⟩, hnone⟩

/-- The directories above are there now, and the directory is tried again. -/
theorem of_above_ok (hp : p.isEmpty = false)
    (hcreate : faulty ∨ d.createDir p = .error .notFound) (h : DirEnds faulty above d (.ok ()) d₁)
    (hagain : UnlessEnds faulty p d₁ r d') : DirEnds faulty (p :: above) d r d' where
  valid := hagain.valid
  written := by
    refine h.written_cons.trans (hagain.written.mono ?_)
    rintro l rfl
    exact ⟨p, List.mem_cons_self, Disk.target_eq_of_cwd_eq h.written.cwd p⟩
  marks := hagain.marks.trans h.marks
  ok hr := by simp [hagain.ok hr]
  missing _ _ := missing_of_notFound hp hcreate
  error cause hr := by
    obtain ⟨hdisk, hblocked⟩ := hagain.error cause hr
    rw [hdisk]
    exact hblocked.imp_right fun hblocked => Or.inl ⟨p, List.mem_cons_self, hblocked⟩

end DirEnds

namespace Device

section

variable {σ : Type} [Files (StateM σ)] {s s₁ : σ} {p : String} {above : List String}

/-- Creating a directory unless it is there. -/
def createUnless (p : String) : StateM σ (Except IoError Unit) := do
  Files.unlessDir p (← Files.createDir p)

theorem createFirst_of_isEmpty (hp : p.isEmpty = true) (s : σ) :
    (Files.createFirst (p :: above) : StateM σ (Except IoError Unit)).run s = (.ok (), s) := by
  rw [Files.createFirst, if_pos hp]
  rfl

theorem createFirst_of_notFound (hp : p.isEmpty = false)
    (h : (Files.createDir p : StateM σ (Except IoError Unit)).run s = (.error .notFound, s₁)) :
    (Files.createFirst (p :: above) : StateM σ (Except IoError Unit)).run s =
      match (Files.createFirst above : StateM σ (Except IoError Unit)).run s₁ with
      | (.error cause, s₂) => (.error cause, s₂)
      | (.ok (), s₂) => (createUnless p).run s₂ := by
  rw [Files.createFirst, if_neg (by simp [hp]), run_bind_eq h]
  cases habove : (Files.createFirst above : StateM σ (Except IoError Unit)).run s₁ with
  | mk r s₂ =>
      simp only [run_bind_eq habove]
      cases r with
      | error cause => rfl
      | ok u => rfl

theorem createFirst_of_ne_notFound (hp : p.isEmpty = false) {r : Except IoError Unit}
    (h : (Files.createDir p : StateM σ (Except IoError Unit)).run s = (r, s₁))
    (hr : r ≠ .error .notFound) :
    (Files.createFirst (p :: above) : StateM σ (Except IoError Unit)).run s =
      (createUnless p).run s := by
  rw [Files.createFirst, if_neg (by simp [hp]), createUnless, run_bind_eq h, run_bind_eq h]
  cases r with
  | ok u => rfl
  | error cause => cases cause <;> first | rfl | exact absurd rfl hr

end

variable {σ : Type} [Files (StateM σ)] [Device σ] {s : σ}

theorem run_existsDir (p : String) (s : σ) :
    ∃ b s', (Files.existsDir p : StateM σ Bool).run s = (b, s') ∧ disk s' = disk s ∧
      (b = true → (disk s).isDir p = .ok true) ∧
        (b = false → faulty σ ∨ (disk s).isDir p ≠ .ok true) := by
  have hlooked := Device.isDir p s
  generalize hrun : (Files.isDir p : StateM σ (Except IoError Bool)).run s = outcome at hlooked
  rw [Files.existsDir]
  cases hlooked with
  | @fault cause s' hdisk hfaulty =>
      rw [run_bind_eq hrun]
      exact ⟨false, s', rfl, hdisk, by simp, fun _ => Or.inl hfaulty⟩
  | @same s' hdisk =>
      rw [run_bind_eq hrun]
      cases (disk s).isDir p with
      | error cause => exact ⟨false, s', rfl, hdisk, by simp, by simp⟩
      | ok b => exact ⟨b, s', rfl, hdisk, by simp, fun hb => by simp [hb]⟩

/-- An error is passed over if the directory is there. -/
theorem run_unlessDir (p : String) (r : Except IoError Unit) (s : σ) :
    ∃ r' s', (Files.unlessDir p r : StateM σ (Except IoError Unit)).run s = (r', s') ∧
      disk s' = disk s ∧ (r' = .ok () → r = .ok () ∨ (disk s).isDir p = .ok true) ∧
        ∀ cause, r' = .error cause →
          r = .error cause ∧ (faulty σ ∨ (disk s).isDir p ≠ .ok true) := by
  cases r with
  | ok u => exact ⟨.ok (), s, rfl, rfl, by simp, by simp⟩
  | error cause =>
      obtain ⟨b, s', hrun, hdisk, htrue, hfalse⟩ := run_existsDir p s
      rw [Files.unlessDir, run_bind_eq hrun]
      cases b with
      | true => exact ⟨.ok (), s', rfl, hdisk, fun _ => Or.inr (htrue rfl), by simp⟩
      | false => exact ⟨.error cause, s', rfl, hdisk, by simp, fun _ h => ⟨h, hfalse rfl⟩⟩

theorem createUnless_ends (hd : (disk s).Valid) (p : String) :
    ∃ r s', (createUnless p : StateM σ _).run s = (r, s') ∧
      UnlessEnds (faulty σ) p (disk s) r (disk s') := by
  have hchanged := Device.createDir p s
  generalize hrun : (Files.createDir p : StateM σ (Except IoError Unit)).run s = outcome
    at hchanged
  rw [createUnless]
  cases hchanged with
  | cut hfaulty hleft => exact hleft.elim
  | @ok s₁ hcreate =>
      obtain ⟨hvalid, hwritten, hmarks⟩ := Disk.createDir_written hd hcreate
      rw [run_bind_eq hrun]
      exact ⟨.ok (), s₁, rfl, hvalid, hwritten, hmarks,
        fun _ => Disk.isDir_of_createDir hd hcreate, by simp⟩
  | @error cause s₁ hdisk₁ hcreate =>
      obtain ⟨r, s', hrun', hdisk', hok, herror⟩ := run_unlessDir p (.error cause) s₁
      rw [hdisk₁] at hdisk' hok herror
      rw [run_bind_eq hrun, hrun']
      refine ⟨r, s', rfl, hdisk' ▸ hd, hdisk' ▸ .refl _ _, hdisk' ▸ rfl, fun hr => ?_,
        fun cause' hr => ?_⟩
      · rw [hdisk']
        simpa using hok hr
      · obtain ⟨heq, hmissing⟩ := herror cause' hr
        cases heq
        refine ⟨hdisk', ?_⟩
        rcases hcreate with hcreate | hfaulty
        · exact hmissing.imp_right fun hmissing => ⟨hcreate, hmissing⟩
        · exact Or.inl hfaulty

/-- Creating a directory and those above it. -/
theorem createFirst_ends (hd : (disk s).Valid) (paths : List String) :
    ∃ r s', (Files.createFirst paths : StateM σ _).run s = (r, s') ∧
      DirEnds (faulty σ) paths (disk s) r (disk s') := by
  induction paths generalizing s with
  | nil => exact ⟨_, s, rfl, hd, .refl _ _, rfl, by simp, by simp, by simp⟩
  | cons p above ih =>
      by_cases hp : p.isEmpty = true
      · exact ⟨_, s, createFirst_of_isEmpty hp s, .of_isEmpty hd hp⟩
      · rw [Bool.not_eq_true] at hp
        have hchanged := Device.createDir p s
        generalize hrun : (Files.createDir p : StateM σ (Except IoError Unit)).run s = outcome
          at hchanged
        obtain ⟨r₁, s₁⟩ := outcome
        by_cases hr₁ : r₁ = .error .notFound
        · subst hr₁
          -- nothing has been created yet, so the directories above are created on the same disk
          obtain ⟨hdisk₁, hcreate⟩ : disk s₁ = disk s ∧
              (faulty σ ∨ (disk s).createDir p = .error .notFound) := by
            cases hchanged with
            | error hdisk hcreate => exact ⟨hdisk, hcreate.symm⟩
            | cut hfaulty hleft => exact hleft.elim
          obtain ⟨r₂, s₂, hrun₂, hends⟩ := ih (hdisk₁ ▸ hd)
          rw [hdisk₁] at hends
          rw [createFirst_of_notFound hp hrun, hrun₂]
          cases r₂ with
          | error cause => exact ⟨_, s₂, rfl, hends.of_above_error hp hcreate⟩
          | ok u =>
              obtain ⟨r, s', hrun', hagain⟩ := createUnless_ends hends.valid p
              exact ⟨r, s', hrun', hends.of_above_ok hp hcreate hagain⟩
        · obtain ⟨r, s', hrun', hends⟩ := createUnless_ends hd p
          exact ⟨r, s', (createFirst_of_ne_notFound hp hrun hr₁).trans hrun', .of_unless hp hends⟩

end Device

end Scaffold
