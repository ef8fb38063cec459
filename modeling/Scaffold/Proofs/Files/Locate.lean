import Scaffold.Proofs.Files.Path
import Scaffold.Proofs.Outcome

/-!
# Where a path leads

There are no links on a disk, so a path leads to the same location on every disk where it leads
somewhere at all: the one that its steps spell out (`target`). What an operation does on a disk is
said in terms of that location, by one lemma for each operation.

A disk extends another one if it has its directories and files, and possibly more. A path that can
be followed on a disk can be followed on every disk that extends it.
-/

namespace Scaffold

namespace Disk

variable {d e : Disk} {l l' : Location} {p q : String}

/-- The location that a path spells out. -/
def target (d : Disk) (p : String) : Location := (steps p).foldl stepTo (d.start p)

theorem target_eq_of_cwd_eq (h : e.cwd = d.cwd) (p : String) : e.target p = d.target p := by
  simp [target, start, h]

theorem stepTo_isName {s : String} (h : IsName s) (l : Location) : stepTo l s = l ++ [s] := by
  simp [stepTo, h.ne_dot, h.ne_dots]

theorem target_join {s : String} (h : IsName s) (d : Disk) (base : String) :
    d.target (Files.join base s) = d.target base ++ [s] := by
  rw [target, steps_join h, List.foldl_append, start, isAbsolute_join_of_relative h.not_isAbsolute]
  exact stepTo_isName h _

/-! ## Following a path -/

theorem enter_eq_ok_iff {s : String} :
    d.enter l s = .ok l' ↔
      s.utf8ByteSize ≤ nameLimit ∧ l' = stepTo l s ∧ ∃ n, d.node? l' = some n := by
  unfold enter
  by_cases hlong : s.utf8ByteSize > nameLimit
  · simp only [hlong, if_true, reduceCtorEq, false_iff]
    exact fun h => absurd h.1 (Nat.not_le_of_gt hlong)
  · simp only [hlong, if_false]
    cases hnode : d.node? (stepTo l s) with
    | none =>
        simp only [reduceCtorEq, false_iff]
        rintro ⟨-, rfl, n, hn⟩
        rw [hnode] at hn
        cases hn
    | some n =>
        simp only [Except.ok.injEq]
        constructor
        · rintro rfl
          exact ⟨Nat.le_of_not_lt hlong, rfl, n, hnode⟩
        · rintro ⟨-, rfl, -⟩
          rfl

theorem walk_cons_eq_ok_iff {s : String} {rest : List String} :
    d.walk l (s :: rest) = .ok l' ↔
      ∃ next, d.enter l s = .ok next ∧ d.node? next = some .dir ∧ d.walk next rest = .ok l' := by
  rw [walk, Outcome.bind_eq_ok_iff]
  refine exists_congr fun next => and_congr_right fun _ => ?_
  by_cases hdir : d.isDirAt next = true
  · simp [hdir, isDirAt_eq_true_iff.1 hdir]
  · have hne : d.node? next ≠ some .dir := fun h => hdir (isDirAt_eq_true_iff.2 h)
    simp [hdir, hne]

theorem walk_eq_ok {rest : List String} (h : d.walk l rest = .ok l')
    (hl : d.node? l = some .dir) : l' = rest.foldl stepTo l ∧ d.node? l' = some .dir := by
  induction rest generalizing l with
  | nil =>
      cases h
      exact ⟨rfl, hl⟩
  | cons s rest ih =>
      obtain ⟨next, henter, hdir, hrest⟩ := walk_cons_eq_ok_iff.1 h
      rw [(enter_eq_ok_iff.1 henter).2.1] at hdir hrest
      exact ih hrest hdir

theorem walk_front {front rest : List String} (h : d.walk l (front ++ rest) = .ok l') :
    ∃ next, d.walk l front = .ok next := by
  induction front generalizing l with
  | nil => exact ⟨l, rfl⟩
  | cons s front ih =>
      obtain ⟨next, henter, hdir, hwalk⟩ := walk_cons_eq_ok_iff.1 h
      obtain ⟨next', hnext'⟩ := ih hwalk
      exact ⟨next', walk_cons_eq_ok_iff.2 ⟨next, henter, hdir, hnext'⟩⟩

/-- The last step of a path and those before it. -/
theorem steps_eq_append {front : List String} {last : String}
    (h : (steps p).reverse = last :: front) : steps p = front.reverse ++ [last] := by
  rw [← List.reverse_reverse (steps p), h, List.reverse_cons]

theorem locate_eq_ok_iff :
    d.locate p = .ok l ↔ checkPath p = .ok () ∧
      ((steps p = [] ∧ l = d.start p) ∨ ∃ front last l₀, steps p = front ++ [last] ∧
        d.walk (d.start p) front = .ok l₀ ∧ d.enter l₀ last = .ok l ∧
          (endsInSlash p = true → d.node? l = some .dir)) := by
  rw [locate, Outcome.check_bind_eq_ok_iff]
  refine and_congr_right fun _ => ?_
  cases hsteps : (steps p).reverse with
  | nil =>
      have hnil : steps p = [] := List.reverse_eq_nil_iff.1 hsteps
      constructor
      · intro h
        exact Or.inl ⟨hnil, (Outcome.pure_eq_ok_iff.1 h).symm⟩
      · rintro (⟨-, rfl⟩ | ⟨front, last, l₀, heq, -⟩)
        · rfl
        · simp [hnil] at heq
  | cons last front =>
      have hsnoc := steps_eq_append hsteps
      have hslash : ∀ next, (endsInSlash p && !d.isDirAt next) = false ↔
          (endsInSlash p = true → d.node? next = some .dir) := by
        intro next
        rw [← isDirAt_eq_true_iff]
        cases endsInSlash p <;> simp
      simp only [hsnoc, Outcome.bind_eq_ok_iff]
      constructor
      · rintro ⟨l₀, hwalk, next, henter, hrest⟩
        by_cases hbad : (endsInSlash p && !d.isDirAt next) = true
        · simp [hbad] at hrest
        · rw [Bool.not_eq_true] at hbad
          simp only [hbad, Bool.false_eq_true, if_false, Outcome.pure_eq_ok_iff] at hrest
          subst hrest
          exact Or.inr ⟨_, _, _, rfl, hwalk, henter, (hslash _).1 hbad⟩
      · rintro (⟨hnil, -⟩ | ⟨front', last', l₀, heq, hwalk, henter, hdir⟩)
        · simp at hnil
        · obtain ⟨rfl, hlast⟩ := List.append_inj' heq rfl
          cases hlast
          refine ⟨l₀, hwalk, l, henter, ?_⟩
          simp [(hslash l).2 hdir]

theorem utf8ByteSize_lt_of_locate (h : d.locate p = .ok l) : p.utf8ByteSize < pathLimit := by
  have hcheck := (locate_eq_ok_iff.1 h).1
  unfold checkPath at hcheck
  split_ifs at hcheck with _ _ hlong
  exact Nat.lt_of_not_le hlong

theorem locateNew_eq_ok_iff :
    d.locateNew p = .ok (some l) ↔ checkPath p = .ok () ∧
      ∃ front last l₀, steps p = front ++ [last] ∧ d.walk (d.start p) front = .ok l₀ ∧
        last ≠ "." ∧ last ≠ ".." ∧ last.utf8ByteSize ≤ nameLimit ∧ l = l₀ ++ [last] := by
  rw [locateNew, Outcome.check_bind_eq_ok_iff]
  refine and_congr_right fun _ => ?_
  cases hsteps : (steps p).reverse with
  | nil =>
      have hnil : steps p = [] := List.reverse_eq_nil_iff.1 hsteps
      simp [hnil]
  | cons last front =>
      have hsnoc := steps_eq_append hsteps
      simp only [hsnoc, Outcome.bind_eq_ok_iff]
      constructor
      · rintro ⟨l₀, hwalk, hrest⟩
        by_cases hdots : (last = "." || last = "..") = true
        · simp [hdots] at hrest
        · by_cases hlong : last.utf8ByteSize > nameLimit
          · simp [hdots, hlong] at hrest
          · simp only [hdots, hlong, Bool.false_eq_true, if_false, Outcome.pure_eq_ok_iff,
              Option.some.injEq] at hrest
            rw [Bool.or_eq_true, decide_eq_true_eq, decide_eq_true_eq, not_or] at hdots
            exact ⟨_, _, l₀, rfl, hwalk, hdots.1, hdots.2, Nat.le_of_not_lt hlong, hrest.symm⟩
      · rintro ⟨front', last', l₀, heq, hwalk, hdot, hdots, hshort, rfl⟩
        obtain ⟨rfl, hlast⟩ := List.append_inj' heq rfl
        cases hlast
        refine ⟨l₀, hwalk, ?_⟩
        simp [hdot, hdots, Nat.not_lt_of_le hshort]

theorem node?_start (h : d.node? d.cwd = some .dir) (p : String) :
    d.node? (d.start p) = some .dir := by
  unfold start
  split
  · rfl
  · exact h

/-- A path leads where its steps say. -/
theorem locate_eq_target (hcwd : d.node? d.cwd = some .dir) (h : d.locate p = .ok l) :
    l = d.target p ∧ ∃ n, d.node? l = some n := by
  obtain ⟨-, ⟨hsteps, rfl⟩ | ⟨front, last, l₀, hsteps, hwalk, henter, -⟩⟩ := locate_eq_ok_iff.1 h
  · rw [target, hsteps]
    exact ⟨rfl, .dir, node?_start hcwd p⟩
  · obtain ⟨-, rfl, hnode⟩ := enter_eq_ok_iff.1 henter
    rw [target, hsteps, List.foldl_append, ← (walk_eq_ok hwalk (node?_start hcwd p)).1]
    exact ⟨rfl, hnode⟩

/-- A place for something new is where the steps say: in a directory, and with a name. -/
theorem locateNew_eq_target (hcwd : d.node? d.cwd = some .dir)
    (h : d.locateNew p = .ok (some l)) :
    l = d.target p ∧ ∃ l₀ s, l = l₀ ++ [s] ∧ IsName s ∧ d.node? l₀ = some .dir := by
  obtain ⟨-, front, last, l₀, hsteps, hwalk, hdot, hdots, -, rfl⟩ := locateNew_eq_ok_iff.1 h
  obtain ⟨hl₀, hdir⟩ := walk_eq_ok hwalk (node?_start hcwd p)
  have hmem : last ∈ steps p := by simp [hsteps]
  have hname : IsName last := ⟨(mem_steps hmem).1, (mem_steps hmem).2, hdot, hdots⟩
  refine ⟨?_, l₀, last, rfl, hname, hdir⟩
  rw [target, hsteps, List.foldl_append, ← hl₀]
  exact (stepTo_isName hname l₀).symm

/-! ## Operations -/

theorem read_eq_ok_iff {bytes : ByteArray} :
    d.read p = .ok bytes ↔ ∃ l, d.locate p = .ok l ∧ d.node? l = some (.file bytes) := by
  rw [read, Outcome.bind_eq_ok_iff]
  refine exists_congr fun l => and_congr_right fun _ => ?_
  split <;> simp_all

theorem isDir_eq_ok_iff {b : Bool} :
    d.isDir p = .ok b ↔ ∃ l, d.locate p = .ok l ∧ d.isDirAt l = b := by
  rw [isDir, Outcome.bind_eq_ok_iff]
  simp only [Outcome.pure_eq_ok_iff]

theorem list_eq_ok_iff {names : List String} :
    d.list p = .ok names ↔
      ∃ l, d.locate p = .ok l ∧ d.node? l = some .dir ∧ d.names l = names := by
  rw [list, Outcome.bind_eq_ok_iff]
  refine exists_congr fun l => and_congr_right fun _ => ?_
  rw [← isDirAt_eq_true_iff]
  by_cases hdir : d.isDirAt l = true <;> simp [hdir]

/-- What is there and is no directory can be read. -/
theorem read_of_isDir (hcwd : d.node? d.cwd = some .dir) (h : d.isDir p = .ok false) :
    ∃ bytes, d.read p = .ok bytes := by
  obtain ⟨l, hl, hdir⟩ := isDir_eq_ok_iff.1 h
  obtain ⟨-, n, hn⟩ := locate_eq_target hcwd hl
  cases n with
  | dir => simp [isDirAt_eq_true_iff.2 hn] at hdir
  | file bytes => exact ⟨bytes, read_eq_ok_iff.2 ⟨l, hl, hn⟩⟩

theorem createDir_eq_ok_iff {d' : Disk} :
    d.createDir p = .ok d' ↔
      ∃ l, d.locateNew p = .ok (some l) ∧ d.node? l = none ∧ d.set l .dir = d' := by
  rw [createDir, Outcome.bind_eq_ok_iff]
  constructor
  · rintro ⟨place, hplace, hrest⟩
    cases place with
    | none => simp at hrest
    | some l =>
        cases hnode : d.node? l with
        | none => exact ⟨l, hplace, hnode, by simpa [hnode] using hrest⟩
        | some n => simp [hnode] at hrest
  · rintro ⟨l, hplace, hnode, hset⟩
    exact ⟨some l, hplace, by simp [hnode, hset]⟩

theorem locateFile_eq_ok_iff :
    d.locateFile p = .ok l ↔ d.locateNew p = .ok (some l) ∧ endsInSlash p = false ∧
      d.node? l ≠ some .dir ∧ l ∉ d.readOnly := by
  rw [locateFile, Outcome.bind_eq_ok_iff]
  constructor
  · rintro ⟨place, hplace, hrest⟩
    cases place with
    | none => simp at hrest
    | some l' =>
        by_cases hbad : (endsInSlash p || d.isDirAt l') = true
        · simp [hbad] at hrest
        · by_cases hmark : l' ∈ d.readOnly
          · simp [hbad, hmark] at hrest
          · simp only [hbad, List.contains_eq_mem, hmark, decide_false, Bool.false_eq_true, if_false,
              Outcome.pure_eq_ok_iff] at hrest
            subst hrest
            rw [Bool.or_eq_true, isDirAt_eq_true_iff, not_or, Bool.not_eq_true] at hbad
            exact ⟨hplace, hbad.1, hbad.2, hmark⟩
  · rintro ⟨hplace, hslash, hdir, hmark⟩
    have hnot : d.isDirAt l = false := by
      rw [← Bool.not_eq_true, isDirAt_eq_true_iff]
      exact hdir
    exact ⟨some l, hplace, by simp [hslash, hnot, hmark]⟩

theorem write_eq_ok_iff {bytes : ByteArray} {d' : Disk} :
    d.write p bytes = .ok d' ↔
      ∃ l, d.locateFile p = .ok l ∧ d.set l (.file bytes) = d' := by
  rw [write, Outcome.bind_eq_ok_iff]
  simp only [Outcome.pure_eq_ok_iff]

/-! ## Disks with more on them -/

/-- The second disk has the directories and files of the first one, and possibly more. What the
files hold may differ. -/
structure Extends (d e : Disk) : Prop where
  cwd : e.cwd = d.cwd
  dir : ∀ l, d.node? l = some .dir → e.node? l = some .dir
  file : ∀ l bytes, d.node? l = some (.file bytes) → ∃ bytes', e.node? l = some (.file bytes')

namespace Extends

theorem refl (d : Disk) : d.Extends d := ⟨rfl, fun _ h => h, fun _ bytes h => ⟨bytes, h⟩⟩

theorem node (h : d.Extends e) {n : Node} (hl : d.node? l = some n) :
    ∃ n', e.node? l = some n' := by
  cases n with
  | dir => exact ⟨.dir, h.dir l hl⟩
  | file bytes =>
      obtain ⟨bytes', hl'⟩ := h.file l bytes hl
      exact ⟨.file bytes', hl'⟩

theorem isDirAt (h : d.Extends e) {n : Node} (hl : d.node? l = some n) :
    e.isDirAt l = d.isDirAt l := by
  cases n with
  | dir => rw [isDirAt_eq_true_iff.2 hl, isDirAt_eq_true_iff.2 (h.dir l hl)]
  | file bytes =>
      obtain ⟨bytes', hl'⟩ := h.file l bytes hl
      simp [Disk.isDirAt, hl, hl']

theorem start (h : d.Extends e) (p : String) : e.start p = d.start p := by
  simp [Disk.start, h.cwd]

theorem target (h : d.Extends e) (p : String) : e.target p = d.target p :=
  target_eq_of_cwd_eq h.cwd p

theorem enter (h : d.Extends e) {s : String} (hs : d.enter l s = .ok l') :
    e.enter l s = .ok l' := by
  obtain ⟨hshort, rfl, n, hn⟩ := enter_eq_ok_iff.1 hs
  exact enter_eq_ok_iff.2 ⟨hshort, rfl, h.node hn⟩

theorem walk (h : d.Extends e) {rest : List String} (hrest : d.walk l rest = .ok l') :
    e.walk l rest = .ok l' := by
  induction rest generalizing l with
  | nil => exact hrest
  | cons s rest ih =>
      obtain ⟨next, henter, hdir, hwalk⟩ := walk_cons_eq_ok_iff.1 hrest
      exact walk_cons_eq_ok_iff.2 ⟨next, h.enter henter, h.dir next hdir, ih hwalk⟩

theorem locate (h : d.Extends e) (hp : d.locate p = .ok l) : e.locate p = .ok l := by
  obtain ⟨hcheck, hrest⟩ := locate_eq_ok_iff.1 hp
  refine locate_eq_ok_iff.2 ⟨hcheck, ?_⟩
  rcases hrest with ⟨hsteps, rfl⟩ | ⟨front, last, l₀, hsteps, hwalk, henter, hdir⟩
  · exact Or.inl ⟨hsteps, (h.start p).symm⟩
  · refine Or.inr ⟨front, last, l₀, hsteps, ?_, h.enter henter, fun hs => h.dir l (hdir hs)⟩
    rw [h.start]
    exact h.walk hwalk

theorem locateNew (h : d.Extends e) (hp : d.locateNew p = .ok (some l)) :
    e.locateNew p = .ok (some l) := by
  obtain ⟨hcheck, front, last, l₀, hsteps, hwalk, hlast⟩ := locateNew_eq_ok_iff.1 hp
  refine locateNew_eq_ok_iff.2 ⟨hcheck, front, last, l₀, hsteps, ?_, hlast⟩
  rw [h.start]
  exact h.walk hwalk

theorem isDir (h : d.Extends e) {b : Bool} (hcwd : d.node? d.cwd = some .dir)
    (hp : d.isDir p = .ok b) : e.isDir p = .ok b := by
  obtain ⟨l, hl, rfl⟩ := isDir_eq_ok_iff.1 hp
  obtain ⟨-, n, hn⟩ := locate_eq_target hcwd hl
  exact isDir_eq_ok_iff.2 ⟨l, h.locate hl, h.isDirAt hn⟩

end Extends

end Disk

end Scaffold
