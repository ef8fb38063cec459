import Scaffold.Proofs.Generate.Trail

/-!
# Where a generation writes

The files of a generation go below the output directory as long as no name of a template directory
leads out of it: a name may hold any text once its tokens are replaced, so it may start at the root
or lead upwards. Apart from such names, all that is made outside of the output directory are the
directories on the way to it (`expand_confined`).
-/

namespace Scaffold

open Disk

namespace Expand

variable {templates output p : String} {d : Disk} {s : Traced} {trail : List Touch}

/-! ## Names that lead out -/

/-- Whether steps that start at a depth below a directory never lead above that directory. -/
def descends : Nat → List String → Bool
  | _, [] => true
  | depth, step :: rest =>
      if step = "." then descends depth rest
      else if step = ".." then 0 < depth && descends (depth - 1) rest
      else descends (depth + 1) rest

theorem prefix_foldl_stepTo {base rel : Location} {way front : List String}
    (h : descends rel.length way = true) (hfront : front <+: way) :
    base <+: front.foldl stepTo (base ++ rel) := by
  -- the depth is the number of names that lead from `base` to where the steps have come
  induction way generalizing rel front with
  | nil =>
      rw [List.prefix_nil.1 hfront]
      exact List.prefix_append _ _
  | cons step rest ih =>
      cases front with
      | nil => exact List.prefix_append _ _
      | cons first front =>
          obtain ⟨rfl, hrest⟩ := List.cons_prefix_cons.1 hfront
          rw [List.foldl_cons]
          rw [descends] at h
          by_cases hdot : first = "."
          · rw [if_pos hdot] at h
            rw [stepTo, if_pos hdot]
            exact ih h hrest
          · rw [if_neg hdot] at h
            by_cases hdots : first = ".."
            · rw [if_pos hdots, Bool.and_eq_true, decide_eq_true_eq] at h
              have hne : rel ≠ [] := List.ne_nil_of_length_pos h.1
              rw [stepTo, if_neg hdot, if_pos hdots, List.dropLast_append_of_ne_nil hne]
              apply ih _ hrest
              rw [List.length_dropLast]
              exact h.2
            · rw [if_neg hdots] at h
              rw [stepTo, if_neg hdot, if_neg hdots, List.append_assoc]
              apply ih _ hrest
              rw [List.length_append]
              exact h

theorem prefix_foldl_of_descends {base : Location} {way front : List String}
    (h : descends 0 way = true) (hfront : front <+: way) : base <+: front.foldl stepTo base := by
  have hbelow := @prefix_foldl_stepTo base [] way front h hfront
  rwa [List.append_nil] at hbelow

/-- The names of template directories do not lead out of the output directory: none of them starts
at the root, and step by step they never lead above the directory that they start from. -/
def StaysInside (texts : Table String) (way : List String) : Prop :=
  (∀ name ∈ way, Files.isAbsolute (Segment.substitute texts name) = false) ∧
    descends 0 (way.flatMap fun name => steps (Segment.substitute texts name)) = true

instance (texts : Table String) (way : List String) : Decidable (StaysInside texts way) :=
  inferInstanceAs (Decidable (_ ∧ _))

theorem steps_outDir {texts : Table String} {way : List String}
    (h : ∀ name ∈ way, Files.isAbsolute (Segment.substitute texts name) = false) (output : String) :
    steps (TemplateFile.outDir texts output way) =
        steps output ++ way.flatMap (fun name => steps (Segment.substitute texts name)) ∧
      Files.isAbsolute (TemplateFile.outDir texts output way) = Files.isAbsolute output := by
  induction way using List.reverseRecOn with
  | nil => simp [TemplateFile.outDir]
  | append_singleton way name ih =>
      obtain ⟨hsteps, habsolute⟩ := ih fun other hother => h other (by simp [hother])
      have hname := h name (by simp)
      rw [outDir_snoc, steps_join_of_relative hname, isAbsolute_join_of_relative hname, hsteps]
      exact ⟨by simp, habsolute⟩

/-- The steps of the path of a file: those to the output directory, those that the names of template
directories stand for, and at most one more. -/
theorem Place.steps_eq {texts : Table String} (h : Place d texts templates output trail p)
    (hinside : ∀ way, .listed (d.target templates ++ way) ∈ trail → StaysInside texts way) :
    ∃ down last, steps p = steps output ++ (down ++ last) ∧ descends 0 down = true ∧
      last.length ≤ 1 ∧ d.start p = d.start output := by
  obtain ⟨way, name, hlisted, hname, rfl⟩ := h
  obtain ⟨hrelative, hdescends⟩ := hinside way hlisted
  obtain ⟨hsteps, habsolute⟩ := steps_outDir hrelative output
  have hname' := not_isAbsolute_of_no_slash hname
  refine ⟨_, steps name, ?_, hdescends, ?_, ?_⟩
  · rw [steps_join_of_relative hname', hsteps, List.append_assoc]
  · by_cases hempty : name = ""
    · rw [hempty]
      decide
    · rw [steps_of_no_slash hname hempty]
      rfl
  · rw [start, start, isAbsolute_join_of_relative hname', habsolute]

/-- What is on the way to the path of a file is on the way to the output directory or below it. -/
theorem Place.onTheWay {texts : Table String} (h : Place d texts templates output trail p)
    (hinside : ∀ way, .listed (d.target templates ++ way) ∈ trail → StaysInside texts way)
    {l : Location} (hl : d.OnTheWay p l) : d.target output <+: l ∨ d.OnTheWay output l := by
  obtain ⟨down, last, hsteps, hdescends, hlast, hstart⟩ := h.steps_eq hinside
  obtain ⟨front, hfront, hlt, rfl⟩ := hl
  rw [hsteps] at hfront hlt
  rw [hstart]
  by_cases hshort : front.length < (steps output).length
  · have houtput : front <+: steps output :=
      List.prefix_of_prefix_length_le hfront (List.prefix_append _ _) hshort.le
    exact Or.inr ⟨front, houtput, hshort, rfl⟩
  · obtain ⟨more, rfl⟩ := List.prefix_of_prefix_length_le (List.prefix_append _ _) hfront
      (not_lt.1 hshort)
    have hmore : more <+: down ++ last := (List.prefix_append_right_inj _).1 hfront
    have hdown : more <+: down := by
      apply List.prefix_of_prefix_length_le hmore (List.prefix_append _ _)
      simp only [List.length_append] at hlt
      omega
    rw [List.foldl_append]
    exact Or.inl (prefix_foldl_of_descends hdescends hdown)

/-- The path of a file leads below the output directory, unless it ends in a step upwards. -/
theorem Place.target {texts : Table String} (h : Place d texts templates output trail p)
    (hinside : ∀ way, .listed (d.target templates ++ way) ∈ trail → StaysInside texts way)
    (hend : (steps p).getLast? ≠ some "..") : d.target output <+: d.target p := by
  obtain ⟨down, last, hsteps, hdescends, hlast, hstart⟩ := h.steps_eq hinside
  have hbelow : d.target output <+: down.foldl stepTo (d.target output) :=
    prefix_foldl_of_descends hdescends List.prefix_rfl
  have htarget : d.target p = last.foldl stepTo (down.foldl stepTo (d.target output)) := by
    rw [Disk.target, Disk.target, hsteps, hstart, List.foldl_append, List.foldl_append]
  rw [htarget]
  cases last with
  | nil => exact hbelow
  | cons step rest =>
      obtain rfl : rest = [] := List.length_eq_zero_iff.1 (by simpa using hlast)
      have hdots : step ≠ ".." := by
        rintro rfl
        exact hend (by simp [hsteps])
      rw [List.foldl_cons, List.foldl_nil, stepTo, if_neg hdots]
      split
      · exact hbelow
      · exact hbelow.trans (List.prefix_append _ _)

/-- Whatever has changed has been made or written; files have been written below the output
directory only, and directories have been made there and on the way to it. -/
structure Confined (output : String) (d : Disk) (s : Traced) : Prop where
  changed : ∀ l, s.disk.node? l ≠ d.node? l → .made l ∈ s.trail ∨ .wrote l ∈ s.trail
  written : ∀ l, .wrote l ∈ s.trail → d.target output <+: l
  made : ∀ l, .made l ∈ s.trail → d.target output <+: l ∨ d.OnTheWay output l

theorem confined_of_steps {texts : Table String} (hd : d.Valid)
    (h : Traced.Steps (rule d texts templates output) ⟨d, []⟩ s)
    (hinside : ∀ way, .listed (d.target templates ++ way) ∈ s.trail → StaysInside texts way) :
    Confined output d s := by
  constructor
  · intro l hl
    exact h.node? hd hl
  · intro l hl
    rcases h.may_of_mem hl with hnil | ⟨p, hp, hend, rfl⟩
    · cases hnil
    · exact hp.target hinside hend
  · intro l hl
    rcases h.may_of_mem hl with hnil | ⟨p, hp, hway⟩
    · cases hnil
    · exact hp.onTheWay hinside hway

/-- **A generation stays in its output directory.** On a disk with a trail, an expansion, and a
generation as a whole, does what it does on the disk. However it ends, if no template directory that
it has listed has a name that leads out, every file that it has written is below the output
directory, and every directory that it has made is there or on the way to it. -/
theorem expand_confined {d : Disk} (hd : d.Valid) (templates : String) :
    (∀ fill output, ∃ r s, Run.traced (expand fill templates output) d = (r, s) ∧
      (expand fill templates output).on d = (r, s.disk) ∧
        ((∀ way, .listed (d.target templates ++ way) ∈ s.trail → StaysInside fill.texts way) →
          Confined output d s)) ∧
    ∀ p : Project, p.templates = some templates → ∃ r s, Run.traced p.generate d = (r, s) ∧
      p.generate.on d = (r, s.disk) ∧
        ((∀ way, .listed (d.target templates ++ way) ∈ s.trail → StaysInside p.texts way) →
          Confined p.outputPath d s) := by
  constructor
  · intro fill output
    have hstep := @expand_inStep fill templates output d ⟨d, []⟩ hd (.refl _)
    obtain ⟨r, s, htraced, hon, hsteps⟩ := hstep.traced_eq
    exact ⟨r, s, htraced, hon, confined_of_steps hd hsteps⟩
  · intro p htemplates
    obtain ⟨r, s, htraced, hon, hsteps⟩ := (Project.generate_inStep hd htemplates).traced_eq
    exact ⟨r, s, htraced, hon, confined_of_steps hd hsteps⟩

/-- A file in two directories that have tokens for names. -/
def nested : Disk where
  cwd := []
  nodes := [(["tpl"], .dir), (["tpl", "\x7b\x7ba\x7d\x7d"], .dir),
    (["tpl", "\x7b\x7ba\x7d\x7d", "\x7b\x7bb\x7d\x7d"], .dir),
    (["tpl", "\x7b\x7ba\x7d\x7d", "\x7b\x7bb\x7d\x7d", "f.txt"], .file "text".toUTF8)]

/-- Texts that lead upwards, but not out. -/
def nestedFilling : Filling := ⟨.null, [("a", "x/y"), ("b", "../z")]⟩

def nestedTrail : List Touch :=
  [.listed ["tpl"], .listed ["tpl", "\x7b\x7ba\x7d\x7d"],
    .listed ["tpl", "\x7b\x7ba\x7d\x7d", "\x7b\x7bb\x7d\x7d"], .made ["new"], .made ["new", "out"],
    .made ["new", "out", "x"], .made ["new", "out", "x", "y"], .made ["new", "out", "x", "z"],
    .wrote ["new", "out", "x", "z", "f.txt"]]

theorem expand_confined_nested :
    nested.Valid ∧
      (∀ way, .listed (nested.target "tpl" ++ way) ∈ nestedTrail →
        StaysInside nestedFilling.texts way) ∧
      ∃ s, s.trail = nestedTrail ∧ Confined "new/out" nested s ∧
        ((expand nestedFilling "tpl" "new/out").on nested).2 = s.disk := by
  have hd : nested.Valid := by decide +kernel
  have htrail :
      (Run.traced (expand nestedFilling "tpl" "new/out") nested).2.trail = nestedTrail := by
    decide +kernel
  have htarget : nested.target "tpl" = ["tpl"] := by decide +kernel
  have hinside : ∀ way, .listed (nested.target "tpl" ++ way) ∈ nestedTrail →
      StaysInside nestedFilling.texts way := by
    intro way hway
    simp only [htarget, nestedTrail, List.mem_cons, Touch.listed.injEq, reduceCtorEq, or_false,
      List.cons_append, List.nil_append, List.cons.injEq, true_and, List.not_mem_nil] at hway
    rcases hway with rfl | rfl | rfl <;> decide +kernel
  obtain ⟨r, s, htraced, hon, hconfined⟩ := (expand_confined hd "tpl").1 nestedFilling "new/out"
  rw [htraced] at htrail
  have htrail' : s.trail = nestedTrail := htrail
  rw [htrail'] at hconfined
  exact ⟨hd, hinside, s, htrail', hconfined hinside, by rw [hon]⟩

/-- A text that leads out, and none for the other token. -/
def strayFilling : Filling := ⟨.null, [("a", "../../else")]⟩

/-- A file is written outside of the output directory if a text leads there, and the directories on
the way to the output directory are made, too. -/
theorem not_confined_stray :
    nested.Valid ∧ nested.target "new/out" = ["new", "out"] ∧
      (∃ r s, Run.traced (expand strayFilling "tpl" "new/out") nested = (r, s) ∧
        .made ["new"] ∈ s.trail ∧ .made ["else"] ∈ s.trail ∧ .wrote ["else", "f.txt"] ∈ s.trail ∧
          ¬ Confined "new/out" nested s) ∧
      ((expand strayFilling "tpl" "new/out").on nested).2.node? ["else", "f.txt"] =
        some (.file "text".toUTF8) := by
  have htarget : nested.target "new/out" = ["new", "out"] := by decide +kernel
  have htrail : (Run.traced (expand strayFilling "tpl" "new/out") nested).2.trail.drop 3 =
      [.made ["new"], .made ["new", "out"], .made ["else"], .wrote ["else", "f.txt"]] := by
    decide +kernel
  have hmem : ∀ t ∈ [Touch.made ["new"], .made ["new", "out"], .made ["else"],
      .wrote ["else", "f.txt"]],
        t ∈ (Run.traced (expand strayFilling "tpl" "new/out") nested).2.trail := by
    intro t ht
    rw [← htrail] at ht
    exact List.mem_of_mem_drop ht
  refine ⟨by decide +kernel, htarget, ⟨_, _, rfl, hmem _ (by simp), hmem _ (by simp),
    hmem _ (by simp), ?_⟩, by decide +kernel⟩
  intro hconfined
  have hbelow := hconfined.written ["else", "f.txt"] (hmem _ (by simp))
  rw [htarget] at hbelow
  exact absurd hbelow (by decide)

end Expand

end Scaffold
