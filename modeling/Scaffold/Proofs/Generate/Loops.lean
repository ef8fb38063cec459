import Scaffold.Proofs.Generate.Walk

/-!
# From loops to steps

An expansion is a nest of loops: one through the entries of each directory. On every device it does
what the steps of a walk do to the disk (`expand_follows`): it ends well if they come to the end of
the list of what is left to do, and fails where they stop before.
-/

namespace Scaffold

open Disk
open Device (disk)

namespace Expand

variable {faulty : Prop} {fill : Filling} {templates output : String} {d : Disk} {s s' : Progress}

/-- What a run that works off some tasks comes to: they are done and the rest is left to do, or the
steps stop at one of them. -/
inductive Follows (faulty : Prop) (fill : Filling) (templates output : String) (s : Progress)
    (rest : List Task) : Except GenerateError Report → Disk → Prop where
  | ok {done : List TemplateFile} {report : Report} {e : Disk}
      (h : Relation.ReflTransGen (Step faulty fill templates output) s ⟨rest, done, report, e⟩) :
      Follows faulty fill templates output s rest (.ok report) e
  | error {s' : Progress} {cause : GenerateError} {e : Disk}
      (h : Relation.ReflTransGen (Step faulty fill templates output) s s')
      (hstop : Stops faulty fill templates output s' cause e) :
      Follows faulty fill templates output s rest (.error cause) e

theorem Follows.of_steps {rest : List Task} {r : Except GenerateError Report} {e : Disk}
    (hsteps : Relation.ReflTransGen (Step faulty fill templates output) s s')
    (h : Follows faulty fill templates output s' rest r e) :
    Follows faulty fill templates output s rest r e := by
  cases h with
  | ok h => exact .ok (hsteps.trans h)
  | error h hstop => exact .error (hsteps.trans h) hstop

variable {σ : Type} [Files (StateM σ)]

/-- What is done with an entry of a directory. -/
def expandEntry (fill : Filling) (n : Nat) (inDir outDir : String) (report : Report)
    (name : String) : Run (StateM σ) GenerateError Report := do
  let path := Files.join inDir name
  if ← Run.ofFiles (.io path) (Files.isDir path) then
    Run.leave (Segment.warnings fill.texts name)
    expandDir fill n path (Files.join outDir (Segment.substitute fill.texts name)) report
  else expandFile fill path outDir name report

theorem expandDir_succ (fill : Filling) (n : Nat) (inDir outDir : String) (report : Report) :
    (expandDir fill (n + 1) inDir outDir report : Run (StateM σ) GenerateError Report) = (do
      let names ← Run.ofFiles (.io inDir) (Files.list inDir)
      (sortNames names).foldlM (expandEntry fill n inDir outDir) report) := by
  rw [expandDir]
  rfl

/-- An expansion, with an order of the entries of the root that can be computed. -/
theorem expand_eq (fill : Filling) (templates output : String) :
    (expand fill templates output : Run (StateM σ) GenerateError Report) = (do
      let names ← Run.ofFiles (.io templates) (Files.list templates)
      let report ← (names.insertionSort (· ≤ ·)).foldlM
        (expandEntry fill (maxDepth - 1) templates output) {}
      Run.tell .info .expanding
        ("Expanded " ++ templates ++ " into " ++ output ++ ": " ++ toString report.rendered
          ++ " rendered, " ++ toString report.copied ++ " copied")
      return report) := by
  rw [expand, maxDepth, expandDir_succ, bind_assoc]
  simp only [sortNames_eq_insertionSort]

variable [Device σ]

variable (σ) in
/-- The expansion of a directory, down to some depth, follows the steps. The depth is enough: where
it would not be, the paths are too long to get there. -/
def DirFollows (fill : Filling) (templates output : String) (d : Disk) (n : Nat) : Prop :=
  ∀ way rest done report (c : σ),
    Invariant fill templates output d ⟨.list way :: rest, done, report, disk c⟩ →
    pathLimit ≤ (sourcePath templates way).utf8ByteSize + n → 0 < n →
    ∃ r c', (expandDir fill n (sourcePath templates way)
        (TemplateFile.outDir fill.texts output way) report).Ends c r c' ∧
      Follows (Device.faulty σ) fill templates output ⟨.list way :: rest, done, report, disk c⟩ rest
        r (disk c')

section

variable {n : Nat} {way : List String} {rest : List Task} {done : List TemplateFile}
  {report : Report} {c : σ}

theorem expandEntry_follows {name : String} (hd : d.Valid)
    (hout : Outside fill.texts templates output d) (hdir : DirFollows σ fill templates output d n)
    (hn : pathLimit ≤ (sourcePath templates way).utf8ByteSize + (n + 1))
    (h : Invariant fill templates output d ⟨.entry way name :: rest, done, report, disk c⟩) :
    ∃ r c', (expandEntry fill n (sourcePath templates way)
        (TemplateFile.outDir fill.texts output way) report name).Ends c r c' ∧
      Follows (Device.faulty σ) fill templates output
        ⟨.entry way name :: rest, done, report, disk c⟩ rest r (disk c') := by
  have hname : IsName name := h.isName List.mem_cons_self name (by simp)
  have hlooked := Device.isDir (sourcePath templates (way ++ [name])) c
  generalize hrun : (Files.isDir (sourcePath templates (way ++ [name])) :
    StateM σ (Except IoError Bool)).run c = outcome at hlooked
  rw [expandEntry, ← sourcePath_snoc, ← outDir_snoc]
  cases hlooked with
  | @fault cause c₁ hdisk hfaulty =>
      refine ⟨_, c₁, (Run.Ends.ofFiles hrun).bind_error, ?_⟩
      rw [hdisk]
      exact .error .refl (.entry (Or.inr hfaulty))
  | @same c₁ hdisk =>
      rw [← hdisk] at h hrun ⊢
      cases hentry : (disk c₁).isDir (sourcePath templates (way ++ [name])) with
      | error cause =>
          rw [hentry] at hrun
          exact ⟨_, c₁, (Run.Ends.ofFiles hrun).bind_error, .error .refl (.entry (Or.inl hentry))⟩
      | ok b =>
          rw [hentry] at hrun
          cases b with
          | true =>
              obtain ⟨l, hl, -⟩ := isDir_eq_ok_iff.1 hentry
              have hshort := utf8ByteSize_lt_of_locate hl
              have hlonger := utf8ByteSize_join_lt hname (sourcePath templates way)
              rw [← sourcePath_snoc] at hlonger
              obtain ⟨r, c', hends, hfollows⟩ := hdir _ rest done report c₁ (h.enter hentry)
                (by omega) (by omega)
              exact ⟨r, c', (Run.Ends.ofFiles hrun).bind_ok ((Run.Ends.leave _ c₁).bind_ok hends),
                hfollows.of_steps (.single (.enter hentry))⟩
          | false =>
              obtain ⟨bytes, hread⟩ := read_of_isDir h.valid.cwd hentry
              obtain ⟨r, c', hends, hfile⟩ :=
                h.expandFile_ends hd hout (f := ⟨way, name, bytes⟩) rfl List.mem_cons_self hread
              refine ⟨r, c', (Run.Ends.ofFiles hrun).bind_ok hends, ?_⟩
              cases r with
              | ok report' => exact .ok (.single (.file (f := ⟨way, name, bytes⟩) hread hfile))
              | error cause => exact .error .refl (.file (f := ⟨way, name, bytes⟩) hread hfile)

/-- The entries of a directory are worked off one after the other. -/
theorem entries_follow (hd : d.Valid) (hout : Outside fill.texts templates output d)
    (hdir : DirFollows σ fill templates output d n)
    (hn : pathLimit ≤ (sourcePath templates way).utf8ByteSize + (n + 1)) (names : List String)
    (h : Invariant fill templates output d ⟨names.map (.entry way) ++ rest, done, report, disk c⟩) :
    ∃ r c', (names.foldlM (expandEntry fill n (sourcePath templates way)
        (TemplateFile.outDir fill.texts output way)) report).Ends c r c' ∧
      Follows (Device.faulty σ) fill templates output
        ⟨names.map (.entry way) ++ rest, done, report, disk c⟩ rest r (disk c') := by
  induction names generalizing done report c with
  | nil => exact ⟨_, c, Run.Ends.pure report c, .ok .refl⟩
  | cons name names ih =>
      obtain ⟨r, c', hends, hfollows⟩ := expandEntry_follows hd hout hdir hn h
      rw [List.foldlM_cons]
      generalize he : disk c' = e at hfollows
      cases hfollows with
      | error hsteps hstop => exact ⟨_, c', hends.bind_error, he ▸ .error hsteps hstop⟩
      | ok hsteps =>
          subst he
          obtain ⟨r', c'', hends', hfollows'⟩ := ih (h.steps hd hout hsteps)
          exact ⟨r', c'', hends.bind_ok hends', hfollows'.of_steps hsteps⟩

theorem dirFollows (hd : d.Valid) (hout : Outside fill.texts templates output d) (n : Nat) :
    DirFollows σ fill templates output d n := by
  induction n with
  | zero => exact fun way rest done report c _ _ hzero => absurd hzero (lt_irrefl 0)
  | succ n ih =>
      intro way rest done report c h hn _
      have hlooked := Device.list (sourcePath templates way) c
      generalize hrun : (Files.list (sourcePath templates way) :
        StateM σ (Except IoError (List String))).run c = outcome at hlooked
      rw [expandDir_succ]
      cases hlooked with
      | @fault cause c₁ hdisk hfaulty =>
          refine ⟨_, c₁, (Run.Ends.ofFiles hrun).bind_error, ?_⟩
          rw [hdisk]
          exact .error .refl (.list (Or.inr hfaulty))
      | @same c₁ hdisk =>
          rw [← hdisk] at h hrun ⊢
          cases hnames : (disk c₁).list (sourcePath templates way) with
          | error cause =>
              rw [hnames] at hrun
              exact ⟨_, c₁, (Run.Ends.ofFiles hrun).bind_error,
                .error .refl (.list (Or.inl hnames))⟩
          | ok names =>
              rw [hnames] at hrun
              obtain ⟨r, c', hends, hfollows⟩ :=
                entries_follow hd hout ih hn (sortNames names) (h.list hnames)
              exact ⟨r, c', (Run.Ends.ofFiles hrun).bind_ok hends,
                hfollows.of_steps (.single (.list hnames))⟩

end

/-- An expansion follows the steps. -/
theorem expand_follows {c : σ} (hd : (disk c).Valid)
    (hout : Outside fill.texts templates output (disk c)) :
    ∃ r c', (expand fill templates output : Run (StateM σ) GenerateError Report).Ends c r c' ∧
      Follows (Device.faulty σ) fill templates output ⟨[.list []], [], {}, disk c⟩ [] r
        (disk c') := by
  obtain ⟨r, c', hends, hfollows⟩ := dirFollows hd hout maxDepth [] [] [] {} c (.init hd)
    (by simp [pathLimit, maxDepth]) (by simp [maxDepth])
  rw [expand]
  cases r with
  | ok report =>
      exact ⟨_, c', hends.bind_ok ((Run.Ends.leave _ c').bind_ok (Run.Ends.pure report c')),
        hfollows⟩
  | error cause => exact ⟨_, c', hends.bind_error, hfollows⟩

end Expand

end Scaffold
