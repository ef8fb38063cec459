import Mathlib.Logic.Relation
import Scaffold.Proofs.Files.Create

/-!
# The trail of a run

The disks before and after a run do not show that a file has been written if it held the same bytes
before. So the file operations are also given for a disk with a trail, to which every operation that
lists a directory, makes one or writes a file adds the location. A program that is written against
the operations can be run in both ways; `InStep` says that it does the same on the disk, and that it
keeps to a rule with everything that it adds to the trail.
-/

namespace Scaffold

/-- What has been done at a location. -/
inductive Touch where
  | listed (l : Location)
  | made (l : Location)
  | wrote (l : Location)
deriving DecidableEq

/-- A disk, and what has been done on it so far. -/
structure Traced where
  disk : Disk
  trail : List Touch

namespace Traced

variable {α β : Type}

/-- The state after something has been done that leaves the disk. -/
def add (s : Traced) (t : Touch) (d : Disk) : Traced := ⟨d, s.trail ++ [t]⟩

/-- An operation that only looks at the disk. -/
def look (f : Disk → Except IoError α) : StateM Traced (Except IoError α) := do
  return f (← get).disk

/-- An operation that may change the disk. -/
def change (touch : Disk → Touch) (f : Disk → Except IoError Disk) :
    StateM Traced (Except IoError Unit) := do
  let s ← get
  match f s.disk with
  | .ok d => StateT.set (s.add (touch s.disk) d); return .ok ()
  | .error e => return .error e

/-- The names in a directory. -/
def list (p : String) : StateM Traced (Except IoError (List String)) := do
  let s ← get
  match s.disk.list p with
  | .ok names => StateT.set (s.add (.listed (s.disk.target p)) s.disk); return .ok names
  | .error e => return .error e

instance files : Files (StateM Traced) where
  read p := look (·.read p)
  list := list
  isDir p := look (·.isDir p)
  createDir p := change (fun d => .made (d.target p)) (·.createDir p)
  write p bytes := change (fun d => .wrote (d.target p)) (·.write p bytes)
  copy source target := change (fun d => .wrote (d.target target)) (·.copy source target)
  fullName p := look (·.fullName p)

end Traced

/-! ## Steps that keep to a rule -/

/-- What may be done, given what has been done before. What is allowed once stays allowed. -/
structure Rule where
  may : List Touch → Touch → Prop
  mono : ∀ trail more t, may trail t → may (trail ++ more) t

namespace Traced

variable {rule : Rule} {s s' s'' : Traced} {p : String} {d d' : Disk}

/-- Something is done on a disk, and leaves a disk. -/
inductive Does : Disk → Touch → Disk → Prop where
  | list {d : Disk} {p : String} {names : List String} (h : d.list p = .ok names) :
      Does d (.listed (d.target p)) d
  | make {d d' : Disk} {p : String} (h : d.createDir p = .ok d') : Does d (.made (d.target p)) d'
  /-- Whether the file is marked then makes no difference. -/
  | write {d : Disk} {p : String} {bytes : ByteArray} {l : Location} {marks : List Location}
      (h : d.locateFile p = .ok l) :
      Does d (.wrote (d.target p)) { d.set l (.file bytes) with readOnly := marks }

/-- One step that the rule allows. -/
inductive Step (rule : Rule) (s : Traced) : Traced → Prop where
  | does {t : Touch} {d' : Disk} (h : Does s.disk t d') (hmay : rule.may s.trail t) :
      Step rule s (s.add t d')

/-- Any number of steps that the rule allows. -/
def Steps (rule : Rule) : Traced → Traced → Prop := Relation.ReflTransGen (Step rule)

theorem Does.cwd {t : Touch} (h : Does d t d') : d'.cwd = d.cwd := by
  cases h with
  | list _ => rfl
  | make h =>
      obtain ⟨l, -, -, rfl⟩ := Disk.createDir_eq_ok_iff.1 h
      rfl
  | write _ => rfl

theorem Does.valid {t : Touch} (hd : d.Valid) (h : Does d t d') : d'.Valid := by
  cases h with
  | list _ => exact hd
  | make h => exact (Disk.createDir_written hd h).1
  | write h => exact (Disk.set_file_written hd h _ fun _ => False).2.1.withMarks _

theorem eq_target_of_node?_set (hd : d.Valid) {l l' : Location} {n : Node}
    (hplace : d.locateNew p = .ok (some l')) (hl : (d.set l' n).node? l ≠ d.node? l) :
    l = d.target p := by
  obtain ⟨htarget, l₀, name, hl', -⟩ := Disk.locateNew_eq_target hd.cwd hplace
  rw [Disk.node?_set d (by simp [hl'])] at hl
  split at hl
  · rename_i heq
    exact heq.trans htarget
  · exact absurd rfl hl

/-- What changes is what is touched. -/
theorem Does.node? {t : Touch} (hd : d.Valid) (h : Does d t d') {l : Location}
    (hl : d'.node? l ≠ d.node? l) : t = .made l ∨ t = .wrote l := by
  cases h with
  | list _ => exact absurd rfl hl
  | make h =>
      obtain ⟨l', hplace, -, rfl⟩ := Disk.createDir_eq_ok_iff.1 h
      rw [eq_target_of_node?_set hd hplace hl]
      exact Or.inl rfl
  | write h =>
      rw [eq_target_of_node?_set hd (Disk.locateFile_eq_ok_iff.1 h).1 hl]
      exact Or.inr rfl

namespace Steps

theorem refl (s : Traced) : Steps rule s s := Relation.ReflTransGen.refl

theorem trans (h : Steps rule s s') (h' : Steps rule s' s'') : Steps rule s s'' :=
  Relation.ReflTransGen.trans h h'

theorem does {t : Touch} (h : Does s.disk t d') (hmay : rule.may s.trail t) :
    Steps rule s (s.add t d') := .single (.does h hmay)

theorem cwd (h : Steps rule s s') : s'.disk.cwd = s.disk.cwd := by
  induction h with
  | refl => rfl
  | tail _ hstep ih =>
      cases hstep with
      | does hdoes _ => exact hdoes.cwd.trans ih

theorem target (h : Steps rule s s') (p : String) : s'.disk.target p = s.disk.target p :=
  Disk.target_eq_of_cwd_eq h.cwd p

theorem valid (h : Steps rule s s') (hs : s.disk.Valid) : s'.disk.Valid := by
  induction h with
  | refl => exact hs
  | tail _ hstep ih =>
      cases hstep with
      | does hdoes _ => exact hdoes.valid ih

/-- The trail only grows. -/
theorem trail (h : Steps rule s s') : s.trail <+: s'.trail := by
  induction h with
  | refl => exact List.prefix_rfl
  | tail _ hstep ih =>
      cases hstep with
      | does _ _ => exact ih.trans (List.prefix_append _ _)

theorem may {t : Touch} (h : Steps rule s s') (ht : rule.may s.trail t) :
    rule.may s'.trail t := by
  obtain ⟨more, hmore⟩ := h.trail
  rw [← hmore]
  exact rule.mono _ _ _ ht

/-- Everything that is new in the trail was allowed. -/
theorem may_of_mem {t : Touch} (h : Steps rule s s') (ht : t ∈ s'.trail) :
    t ∈ s.trail ∨ rule.may s'.trail t := by
  induction h with
  | refl => exact Or.inl ht
  | tail _ hstep ih =>
      cases hstep with
      | does _ hmay =>
          rcases List.mem_append.1 ht with ht | ht
          · exact (ih ht).imp_right (rule.mono _ _ _)
          · rw [List.mem_singleton.1 ht]
            exact Or.inr (rule.mono _ _ _ hmay)

/-- Whatever has changed is in the trail. -/
theorem node? (h : Steps rule s s') (hs : s.disk.Valid) {l : Location}
    (hl : s'.disk.node? l ≠ s.disk.node? l) : .made l ∈ s'.trail ∨ .wrote l ∈ s'.trail := by
  induction h with
  | refl => exact absurd rfl hl
  | @tail s' _ hsteps hstep ih =>
      cases hstep with
      | @does t d' hdoes _ =>
          have hvalid : s'.disk.Valid := Steps.valid hsteps hs
          change .made l ∈ s'.trail ++ [t] ∨ .wrote l ∈ s'.trail ++ [t]
          by_cases hsame : d'.node? l = s'.disk.node? l
          · have hbefore := ih (fun heq => hl (hsame.trans heq))
            exact hbefore.imp (List.mem_append_left _) (List.mem_append_left _)
          · rcases hdoes.node? hvalid hsame with rfl | rfl
            · exact Or.inl (by simp)
            · exact Or.inr (by simp)

end Steps

/-! ## Two runs in step -/

/-- On a disk with a trail, the first computation does what the second one does on the disk, and
keeps to the rule. What it comes to, and the state after it, have the property. -/
def InStep (rule : Rule) (s : Traced) (x : StateM Traced α) (y : StateM Disk α)
    (Q : α → Traced → Prop) : Prop :=
  ∃ a s', x.run s = (a, s') ∧ y.run s.disk = (a, s'.disk) ∧ Steps rule s s' ∧ Q a s'

namespace InStep

variable {x : StateM Traced α} {y : StateM Disk α} {f : α → StateM Traced β}
  {g : α → StateM Disk β} {Q : α → Traced → Prop} {Q' : β → Traced → Prop}

theorem pure {a : α} (h : Q a s) : InStep rule s (Pure.pure a) (Pure.pure a) Q :=
  ⟨a, s, rfl, rfl, .refl s, h⟩

theorem bind (hx : InStep rule s x y Q)
    (hf : ∀ a s', Steps rule s s' → Q a s' → InStep rule s' (f a) (g a) Q') :
    InStep rule s (x >>= f) (y >>= g) Q' := by
  obtain ⟨a, s', hxs, hys, hsteps, hQ⟩ := hx
  obtain ⟨b, s'', hfs, hgs, hsteps', hQ'⟩ := hf a s' hsteps hQ
  refine ⟨b, s'', ?_, ?_, hsteps.trans hsteps', hQ'⟩
  · change (f (x.run s).1).run (x.run s).2 = _
    rw [hxs]
    exact hfs
  · rw [Device.run_bind_eq hys]
    exact hgs

theorem look (f : Disk → Except IoError α) :
    InStep rule s (Traced.look f) (do return f (← get)) (fun r _ => r = f s.disk) :=
  ⟨f s.disk, s, rfl, rfl, .refl s, rfl⟩

theorem change {touch : Disk → Touch} {f : Disk → Except IoError Disk}
    (h : ∀ d', f s.disk = .ok d' →
      Does s.disk (touch s.disk) d' ∧ rule.may s.trail (touch s.disk)) :
    InStep rule s (Traced.change touch f) (Disk.change f) (fun _ _ => True) := by
  have hrun : (Traced.change touch f).run s =
      match f s.disk with
      | .ok d => (.ok (), s.add (touch s.disk) d)
      | .error e => (.error e, s) := by
    unfold Traced.change
    rw [StateT.run_bind]
    change (StateT.run (match f s.disk with | .ok d => _ | .error e => _) s) = _
    cases f s.disk <;> rfl
  cases hf : f s.disk with
  | error e =>
      exact ⟨.error e, s, by rw [hrun, hf], by rw [Disk.run_change, hf], .refl s, trivial⟩
  | ok d =>
      obtain ⟨hdoes, hmay⟩ := h d hf
      exact ⟨.ok (), _, by rw [hrun, hf], by rw [Disk.run_change, hf]; rfl, .does hdoes hmay,
        trivial⟩

/-- A directory that is listed is in the trail. -/
theorem list (hmay : rule.may s.trail (.listed (s.disk.target p))) :
    InStep rule s (Traced.list p) (do return (← get).list p) (fun r s' => ∀ names, r = .ok names →
      s.disk.list p = .ok names ∧ .listed (s.disk.target p) ∈ s'.trail) := by
  have hrun : (Traced.list p).run s =
      match s.disk.list p with
      | .ok names => (.ok names, s.add (.listed (s.disk.target p)) s.disk)
      | .error e => (.error e, s) := by
    unfold Traced.list
    rw [StateT.run_bind]
    change (StateT.run (match s.disk.list p with | .ok names => _ | .error e => _) s) = _
    cases s.disk.list p <;> rfl
  have hplain : (do return (← get).list p : StateM Disk (Except IoError (List String))).run s.disk =
      (s.disk.list p, s.disk) := rfl
  cases hlist : s.disk.list p with
  | error e => exact ⟨.error e, s, by rw [hrun, hlist], by rw [hplain, hlist], .refl s, nofun⟩
  | ok names =>
      refine ⟨.ok names, _, by rw [hrun, hlist], by rw [hplain, hlist]; rfl,
        .does (.list hlist) hmay, ?_⟩
      intro names' hnames'
      cases hnames'
      exact ⟨rfl, by simp [add]⟩

theorem existsDir (p : String) :
    InStep rule s (Files.existsDir p) (Files.existsDir p) (fun _ _ => True) := by
  apply (look (·.isDir p)).bind
  intro r s' _ _
  cases r with
  | ok b => exact .pure trivial
  | error e => exact .pure trivial

theorem unlessDir (p : String) (r : Except IoError Unit) :
    InStep rule s (Files.unlessDir p r) (Files.unlessDir p r) (fun _ _ => True) := by
  unfold Files.unlessDir
  cases r with
  | ok u => exact .pure trivial
  | error e =>
      apply (existsDir p).bind
      intro b s' _ _
      cases b with
      | true => exact .pure trivial
      | false => exact .pure trivial

theorem createDir (hmay : rule.may s.trail (.made (s.disk.target p))) :
    InStep rule s (Files.createDir p) (Files.createDir p) (fun _ _ => True) :=
  .change fun _ h => ⟨.make h, hmay⟩

/-- Creating directories makes directories at their locations only. -/
theorem createFirst {paths : List String}
    (hmay : ∀ q ∈ paths, rule.may s.trail (.made (s.disk.target q))) :
    InStep rule s (Files.createFirst paths) (Files.createFirst paths) (fun _ _ => True) := by
  induction paths generalizing s with
  | nil => exact .pure trivial
  | cons p above ih =>
      -- a path leads to the same location after any steps, so what is allowed now is allowed then
      have hlater : ∀ s', Steps rule s s' → ∀ q ∈ p :: above,
          rule.may s'.trail (.made (s'.disk.target q)) := by
        intro s' hsteps q hq
        rw [hsteps.target]
        exact hsteps.may (hmay q hq)
      unfold Files.createFirst
      by_cases hp : p.isEmpty = true
      · rw [if_pos hp, if_pos hp]
        exact .pure trivial
      · rw [if_neg hp, if_neg hp]
        apply (createDir (hmay p List.mem_cons_self)).bind
        intro r s₁ hsteps₁ _
        have habove := ih fun q hq => hlater s₁ hsteps₁ q (List.mem_cons_of_mem p hq)
        cases r with
        | ok u => exact unlessDir p _
        | error e =>
            cases e with
            | notFound =>
                apply habove.bind
                intro r₂ s₂ hsteps₂ _
                cases r₂ with
                | error e => exact .pure trivial
                | ok u =>
                    have hmay₂ := hlater s₂ (hsteps₁.trans hsteps₂) p List.mem_cons_self
                    exact (createDir hmay₂).bind fun r₃ _ _ _ => unlessDir p r₃
            | _ => exact unlessDir p _

end InStep

end Traced

end Scaffold
