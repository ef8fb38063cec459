import Scaffold.Proofs.Files.Locate

/-!
# What writing changes

`Written d writes dirs d'` says what is on a disk after some writes: each location that was written
holds the bytes of the last write to it, all else is as it was, and what is new besides are
directories at the locations in `dirs`. It is closed under sequencing (`Written.trans`), so what a
run of many operations changes follows from what each of them changes. Which files may not be
written is not a part of it.
-/

namespace Scaffold

/-- A file that is written: its path, and what it holds then. -/
structure Write where
  path : String
  bytes : ByteArray

namespace Disk

variable {d d' d'' : Disk} {l : Location} {p q : String} {bytes : ByteArray}
  {writes writes' : List Write} {dirs dirs' : Location → Prop}

/-- The bytes of the last one of the writes that goes to a location. -/
def lastTo (d : Disk) (l : Location) (writes : List Write) : Option ByteArray :=
  (writes.filter fun w => d.target w.path = l).getLast?.map Write.bytes

theorem lastTo_append (d : Disk) (l : Location) (writes writes' : List Write) :
    d.lastTo l (writes ++ writes') = (d.lastTo l writes').or (d.lastTo l writes) := by
  simp only [lastTo, List.filter_append, List.getLast?_append]
  cases (writes'.filter fun w => d.target w.path = l).getLast? <;> rfl

theorem lastTo_eq_none_iff :
    d.lastTo l writes = none ↔ ∀ w ∈ writes, d.target w.path ≠ l := by
  simp [lastTo]

theorem lastTo_singleton (d : Disk) (p : String) (bytes : ByteArray) :
    d.lastTo (d.target p) [⟨p, bytes⟩] = some bytes := by
  simp [lastTo]

theorem lastTo_eq_of_cwd_eq (h : d'.cwd = d.cwd) (l : Location) (writes : List Write) :
    d'.lastTo l writes = d.lastTo l writes := by
  simp only [lastTo, target_eq_of_cwd_eq h]

/-- The location lies on the way to that of a path: it is spelled out by some first steps of the
path, but not by all of them. -/
def OnTheWay (d : Disk) (p : String) (l : Location) : Prop :=
  ∃ front, front <+: steps p ∧ front.length < (steps p).length ∧
    l = front.foldl stepTo (d.start p)

/-- The location lies on the way to that of one of the writes. -/
def OnSomeWay (d : Disk) (writes : List Write) (l : Location) : Prop :=
  ∃ w ∈ writes, d.OnTheWay w.path l

theorem onTheWay_iff_of_cwd_eq (h : d'.cwd = d.cwd) : d'.OnTheWay p l ↔ d.OnTheWay p l := by
  simp only [OnTheWay, start, h]

theorem onTheWay_parent {above : String} (hparent : Files.parent? p = some above)
    (hq : q ∈ Files.ancestors above) (d : Disk) : d.OnTheWay p (d.target q) := by
  obtain ⟨hfront, hlt, habsolute⟩ := steps_parent hparent
  obtain ⟨hfront', habsolute'⟩ := steps_ancestors hq
  refine ⟨steps q, hfront'.trans hfront, Nat.lt_of_le_of_lt hfront'.length_le hlt, ?_⟩
  rw [target, start, start, habsolute', habsolute]

/-- What is on a disk after some writes, for which directories may have been made. -/
structure Written (d : Disk) (writes : List Write) (dirs : Location → Prop) (d' : Disk) :
    Prop where
  cwd : d'.cwd = d.cwd
  /-- No directory is written over. -/
  free : ∀ w ∈ writes, d.node? (d.target w.path) ≠ some .dir
  /-- The last write to a location decides what it holds. -/
  last : ∀ l bytes, d.lastTo l writes = some bytes → d'.node? l = some (.file bytes)
  /-- What is not written stays. -/
  kept : ∀ l n, d.lastTo l writes = none → d.node? l = some n → d'.node? l = some n
  /-- What is new besides are directories. -/
  made : ∀ l n, d.lastTo l writes = none → d.node? l = none → d'.node? l = some n →
    n = .dir ∧ dirs l
  /-- What is new comes last in the table. -/
  keys : d.keys <+: d'.keys

namespace Written

theorem refl (d : Disk) (dirs : Location → Prop) : d.Written [] dirs d :=
  ⟨rfl, by simp, by simp [lastTo], fun _ _ _ h => h, fun _ _ _ h h' => by simp [h] at h',
    List.prefix_refl _⟩

theorem mono (h : d.Written writes dirs d') (hdirs : ∀ l, dirs l → dirs' l) :
    d.Written writes dirs' d' :=
  ⟨h.cwd, h.free, h.last, h.kept, fun l n hlast hnone hn =>
    (h.made l n hlast hnone hn).imp_right (hdirs l), h.keys⟩

theorem withMarks (h : d.Written writes dirs d') (marks : List Location) :
    d.Written writes dirs { d' with readOnly := marks } :=
  ⟨h.cwd, h.free, h.last, h.kept, h.made, h.keys⟩

/-- A directory stays one, since it is not written over. -/
theorem dir (h : d.Written writes dirs d') (hl : d.node? l = some .dir) :
    d'.node? l = some .dir := by
  refine h.kept l .dir (lastTo_eq_none_iff.2 ?_) hl
  rintro w hw rfl
  exact h.free w hw hl

theorem trans (h : d.Written writes dirs d') (h' : d'.Written writes' dirs d'') :
    d.Written (writes ++ writes') dirs d'' := by
  have hlast : ∀ l, d'.lastTo l writes' = d.lastTo l writes' :=
    fun l => lastTo_eq_of_cwd_eq h.cwd l writes'
  refine ⟨h'.cwd.trans h.cwd, ?_, ?_, ?_, ?_, h.keys.trans h'.keys⟩
  · intro w hw hdir
    rcases List.mem_append.1 hw with hw | hw
    · exact h.free w hw hdir
    · refine h'.free w hw ?_
      rw [target_eq_of_cwd_eq h.cwd]
      exact h.dir hdir
  · intro l bytes hl
    rw [lastTo_append, Option.or_eq_some_iff] at hl
    rcases hl with hl | ⟨hnone, hl⟩
    · exact h'.last l bytes ((hlast l).trans hl)
    · exact h'.kept l _ ((hlast l).trans hnone) (h.last l bytes hl)
  · intro l n hl hn
    rw [lastTo_append, Option.or_eq_none_iff] at hl
    exact h'.kept l n ((hlast l).trans hl.1) (h.kept l n hl.2 hn)
  · intro l n hl hnone hn
    rw [lastTo_append, Option.or_eq_none_iff] at hl
    cases hmiddle : d'.node? l with
    | none => exact h'.made l n ((hlast l).trans hl.1) hmiddle hn
    | some m =>
        obtain ⟨rfl, hdirs⟩ := h.made l m hl.2 hnone hmiddle
        have hsame := h'.kept l _ ((hlast l).trans hl.1) hmiddle
        rw [hn] at hsame
        cases hsame
        exact ⟨rfl, hdirs⟩

/-- One more write, with the directories for it. -/
theorem snoc {w : Write} (h : d.Written writes (d.OnSomeWay writes) d')
    (h' : d'.Written [w] (d'.OnTheWay w.path) d'') :
    d.Written (writes ++ [w]) (d.OnSomeWay (writes ++ [w])) d'' := by
  refine (h.mono ?_).trans (h'.mono ?_)
  · rintro l ⟨w', hw', hl⟩
    exact ⟨w', List.mem_append_left _ hw', hl⟩
  · intro l hl
    exact ⟨w, by simp, (onTheWay_iff_of_cwd_eq h.cwd).1 hl⟩

theorem toExtends (h : d.Written writes dirs d') : d.Extends d' := by
  refine ⟨h.cwd, fun l hl => h.dir hl, ?_⟩
  intro l bytes hl
  cases hlast : d.lastTo l writes with
  | none => exact ⟨bytes, h.kept l _ hlast hl⟩
  | some bytes' => exact ⟨bytes', h.last l bytes' hlast⟩

/-- Where nothing is written, the files are the same. -/
theorem file_iff (h : d.Written writes dirs d') (hl : ∀ w ∈ writes, d.target w.path ≠ l) :
    d'.node? l = some (.file bytes) ↔ d.node? l = some (.file bytes) := by
  have hlast := lastTo_eq_none_iff.2 hl
  refine ⟨fun hfile => ?_, h.kept l _ hlast⟩
  cases hnode : d.node? l with
  | none => cases (h.made l _ hlast hnode hfile).1
  | some n =>
      rw [h.kept l n hlast hnode] at hfile
      exact hfile

/-- A file that is not written can be read as before. -/
theorem read (h : d.Written writes dirs d') (hcwd : d.node? d.cwd = some .dir)
    (hread : d.read p = .ok bytes) (hp : ∀ w ∈ writes, d.target w.path ≠ d.target p) :
    d'.read p = .ok bytes := by
  obtain ⟨l, hl, hnode⟩ := read_eq_ok_iff.1 hread
  refine read_eq_ok_iff.2 ⟨l, h.toExtends.locate hl, h.kept l _ (lastTo_eq_none_iff.2 ?_) hnode⟩
  rw [(locate_eq_target hcwd hl).1]
  exact hp

/-- If what is written is there already, and so are the directories, nothing is new. -/
theorem node_iff (h : d.Written writes dirs d') (hdirs : ∀ l, dirs l → d.node? l ≠ none)
    (hwrites : ∀ w ∈ writes, d.node? (d.target w.path) ≠ none) :
    d'.node? l = none ↔ d.node? l = none := by
  constructor
  · intro hnone
    by_contra hsome
    obtain ⟨n, hn⟩ := Option.ne_none_iff_exists'.1 hsome
    obtain ⟨n', hn'⟩ := h.toExtends.node hn
    rw [hnone] at hn'
    cases hn'
  · intro hnone
    by_contra hsome
    obtain ⟨n, hn⟩ := Option.ne_none_iff_exists'.1 hsome
    have hlast : d.lastTo l writes = none := by
      refine lastTo_eq_none_iff.2 fun w hw heq => hwrites w hw ?_
      rw [heq, hnone]
    exact hdirs l (h.made l n hlast hnone hn).2 hnone

/-- If each location that is written holds the last bytes already, and the directories and the marks
are there, nothing changes. -/
theorem eq_self (hd : d.Valid) (hd' : d'.Valid) (h : d.Written writes dirs d')
    (hdirs : ∀ l, dirs l → d.node? l ≠ none)
    (hlast : ∀ l bytes, d.lastTo l writes = some bytes → d.node? l = some (.file bytes))
    (hmarks : d'.readOnly = d.readOnly) : d' = d := by
  have hnode : ∀ l, d'.node? l = d.node? l := by
    intro l
    cases hl : d.lastTo l writes with
    | some bytes => rw [h.last l bytes hl, hlast l bytes hl]
    | none =>
        cases hn : d.node? l with
        | some n => exact h.kept l n hl hn
        | none =>
            by_contra hsome
            obtain ⟨n, hn'⟩ := Option.ne_none_iff_exists'.1 hsome
            exact hdirs l (h.made l n hl hn hn').2 hn
  exact eq_of_node?_eq hd hd' h.cwd h.keys hnode hmarks

theorem setDir (hne : l ≠ []) (hl : d.node? l = none) : d.Written [] (· = l) (d.set l .dir) := by
  refine ⟨rfl, by simp, by simp [lastTo], ?_, ?_, keys_prefix_set d l .dir⟩
  · intro l' n _ hn
    rw [node?_set d hne, if_neg, hn]
    rintro rfl
    simp [hl] at hn
  · intro l' n _ hnone hn
    rw [node?_set d hne] at hn
    split at hn
    · cases hn
      exact ⟨rfl, by assumption⟩
    · simp [hnone] at hn

theorem setFile (hne : d.target p ≠ []) (hl : d.node? (d.target p) ≠ some .dir)
    (bytes : ByteArray) (dirs : Location → Prop) :
    d.Written [⟨p, bytes⟩] dirs (d.set (d.target p) (.file bytes)) := by
  have hlast : ∀ l, d.lastTo l [⟨p, bytes⟩] = none → l ≠ d.target p := by
    rintro l hnone rfl
    simp [lastTo_singleton] at hnone
  refine ⟨rfl, by simpa using hl, ?_, ?_, ?_, keys_prefix_set d _ _⟩
  · intro l bytes' hl'
    have hp : d.target p = l := by
      by_contra hne'
      have hnone : d.lastTo l [⟨p, bytes⟩] = none := lastTo_eq_none_iff.2 (by simpa using hne')
      simp [hnone] at hl'
    subst hp
    rw [lastTo_singleton] at hl'
    cases hl'
    rw [node?_set d hne, if_pos rfl]
  · intro l n hnone hn
    rw [node?_set d hne, if_neg (hlast l hnone), hn]
  · intro l n hnone hl' hn
    rw [node?_set d hne, if_neg (hlast l hnone), hl'] at hn
    cases hn

end Written

/-! ## Operations -/

theorem createDir_written (hd : d.Valid) (h : d.createDir p = .ok d') :
    d'.Valid ∧ d.Written [] (· = d.target p) d' ∧ d'.readOnly = d.readOnly := by
  obtain ⟨l, hplace, hnone, rfl⟩ := createDir_eq_ok_iff.1 h
  obtain ⟨hl, l₀, s, rfl, hs, hl₀⟩ := locateNew_eq_target hd.cwd hplace
  refine ⟨hd.set hs hl₀ (Or.inl rfl), ?_, rfl⟩
  rw [← hl]
  exact .setDir (by simp) hnone

theorem set_file_written (hd : d.Valid) (h : d.locateFile p = .ok l) (bytes : ByteArray)
    (dirs : Location → Prop) :
    l = d.target p ∧ (d.set l (.file bytes)).Valid ∧
      d.Written [⟨p, bytes⟩] dirs (d.set l (.file bytes)) := by
  obtain ⟨hplace, -, hdir, -⟩ := locateFile_eq_ok_iff.1 h
  obtain ⟨hl, l₀, s, rfl, hs, hl₀⟩ := locateNew_eq_target hd.cwd hplace
  refine ⟨hl, hd.set hs hl₀ (Or.inr hdir), ?_⟩
  rw [hl] at hdir ⊢
  exact .setFile (by simp [← hl]) hdir bytes dirs

theorem write_eq (d : Disk) (p : String) (bytes : ByteArray) :
    d.write p bytes = (d.locateFile p).map fun l => d.set l (.file bytes) := by
  rw [write]
  cases d.locateFile p <;> rfl

theorem write_written (hd : d.Valid) (h : d.write p bytes = .ok d') (dirs : Location → Prop) :
    d'.Valid ∧ d.Written [⟨p, bytes⟩] dirs d' := by
  obtain ⟨l, hl, rfl⟩ := write_eq_ok_iff.1 h
  exact (set_file_written hd hl bytes dirs).2

theorem set_set (d : Disk) (l : Location) (n n' : Node) : (d.set l n).set l n' = d.set l n' := by
  have hnodes : ∀ nodes, setNode l n' (setNode l n nodes) = setNode l n' nodes := by
    intro nodes
    induction nodes with
    | nil => simp [setNode]
    | cons entry nodes ih =>
        by_cases h : entry.1 = l
        · simp [setNode, h]
        · simp [setNode, h, ih]
  simp [set, hnodes]

/-- A file that is copied to another place is written there, and marked as it is marked here. -/
theorem copy_eq (hd : d.Valid) (hread : d.read p = .ok bytes) (hne : d.target p ≠ d.target q) :
    d.copy p q = (d.locateFile q).map fun l =>
      (d.set l (.file bytes)).mark l (d.readOnly.contains (d.target p)) := by
  obtain ⟨origin, horigin, hnode⟩ := read_eq_ok_iff.1 hread
  obtain ⟨rfl, -⟩ := locate_eq_target hd.cwd horigin
  have hdir : d.isDirAt (d.target p) = false := by simp [isDirAt, hnode]
  rw [copy, horigin]
  simp only [bind, Except.bind, hdir, Bool.false_eq_true, if_false]
  cases hplace : d.locateFile q with
  | error e => rfl
  | ok place =>
      obtain ⟨rfl, l₀, s, hl, -⟩ :=
        locateNew_eq_target hd.cwd (locateFile_eq_ok_iff.1 hplace).1
      have hkept : (d.set (d.target q) (.file .empty)).node? (d.target p) = some (.file bytes) := by
        rw [node?_set d (by simp [hl]), if_neg hne, hnode]
      simp only [hkept, set_set]
      rfl

/-- Copying a file writes its target, and may change the marks. -/
theorem exists_of_copy (h : d.copy p q = .ok d') :
    ∃ l bytes marks, d.locateFile q = .ok l ∧
      d' = { d.set l (.file bytes) with readOnly := marks } := by
  rw [copy, Outcome.bind_eq_ok_iff] at h
  obtain ⟨origin, -, h⟩ := h
  by_cases hdir : d.isDirAt origin = true
  · simp [hdir, bind, Except.bind] at h
  · simp only [hdir, Bool.false_eq_true, if_false, Outcome.bind_eq_ok_iff] at h
    obtain ⟨place, hplace, h⟩ := h
    split at h
    · rename_i bytes _
      rw [set_set] at h
      exact ⟨place, bytes, _, hplace, (Outcome.pure_eq_ok_iff.1 h).symm⟩
    · cases h

end Disk

end Scaffold
