import Scaffold.Proofs.Files.Written

/-!
# Devices

A device holds a disk, and possibly more that decides what comes of an operation: which files may be
read, or how much room is left. An operation on it does what it does on the disk, or fails by
itself. A directory is made or it is not. But a file that is written or copied is opened and emptied
first; if the operation fails after that, a beginning of the bytes is left in the file.

A program that is written against the operations can be run on every device, so what is shown for
devices holds whatever may fail. The disk in memory is the device that never fails by itself.
-/

namespace Scaffold

namespace Disk

variable {d d' : Disk} {p : String} {bytes : ByteArray}

/-- A beginning of the bytes is in the file, and the rest is not. Whether the file is marked by then
is left open. -/
def Begun (d : Disk) (p : String) (bytes : ByteArray) (d' : Disk) : Prop :=
  ∃ n marks d₁, d.write p (bytes.extract 0 n) = .ok d₁ ∧ d' = { d₁ with readOnly := marks }

theorem Begun.written (hd : d.Valid) (h : d.Begun p bytes d') (dirs : Location → Prop) :
    ∃ n, d.Written [⟨p, bytes.extract 0 n⟩] dirs d' := by
  obtain ⟨n, marks, d₁, hwrite, rfl⟩ := h
  exact ⟨n, (write_written hd hwrite dirs).2.withMarks marks⟩

end Disk

section

variable {σ α : Type} (disk : σ → Disk) (faulty : Prop) (s : σ)

/-- What comes of looking at the disk in a state, if it would come to the first outcome on the disk
alone. -/
inductive Looked (r : Except IoError α) : Except IoError α × σ → Prop where
  | same {s' : σ} (hdisk : disk s' = disk s) : Looked r (r, s')
  | fault {cause : IoError} {s' : σ} (hdisk : disk s' = disk s) (h : faulty) :
      Looked r (.error cause, s')

/-- What comes of changing the disk in a state, if the first outcome would be that on the disk
alone. The disks that may be left if the operation is cut short are given. -/
inductive Changed (r : Except IoError Disk) (left : Disk → Prop) :
    Except IoError Unit × σ → Prop where
  | ok {s' : σ} (h : r = .ok (disk s')) : Changed r left (.ok (), s')
  | error {cause : IoError} {s' : σ} (hdisk : disk s' = disk s) (h : r = .error cause ∨ faulty) :
      Changed r left (.error cause, s')
  | cut {cause : IoError} {s' : σ} (h : faulty) (hleft : left (disk s')) :
      Changed r left (.error cause, s')

theorem Changed.imp {disk : σ → Disk} {faulty : Prop} {s : σ} {r : Except IoError Disk}
    {left left' : Disk → Prop} {end' : Except IoError Unit × σ}
    (h : Changed disk faulty s r left end') (hleft : ∀ d', left d' → left' d') :
    Changed disk faulty s r left' end' := by
  cases h with
  | ok h => exact .ok h
  | error hdisk h => exact .error hdisk h
  | cut h hcut => exact .cut h (hleft _ hcut)

end

/-- The states of a device, and what its operations do to the disk in it. -/
class Device (σ : Type) [Files (StateM σ)] where
  disk : σ → Disk
  /-- Whether operations may fail by themselves. -/
  faulty : Prop
  read : ∀ p s, Looked disk faulty s ((disk s).read p) ((Files.read p : StateM σ _).run s)
  list : ∀ p s, Looked disk faulty s ((disk s).list p) ((Files.list p : StateM σ _).run s)
  isDir : ∀ p s, Looked disk faulty s ((disk s).isDir p) ((Files.isDir p : StateM σ _).run s)
  fullName : ∀ p s, Looked disk faulty s ((disk s).fullName p)
    ((Files.fullName p : StateM σ _).run s)
  createDir : ∀ p s, Changed disk faulty s ((disk s).createDir p) (fun _ => False)
    ((Files.createDir p : StateM σ _).run s)
  write : ∀ p bytes s, Changed disk faulty s ((disk s).write p bytes) ((disk s).Begun p bytes)
    ((Files.write p bytes : StateM σ _).run s)
  copy : ∀ p q s, Changed disk faulty s ((disk s).copy p q)
    (fun d' => ∃ bytes, (disk s).read p = .ok bytes ∧ (disk s).Begun q bytes d')
    ((Files.copy p q : StateM σ _).run s)

namespace Disk

/-- What an operation does that may change the disk. -/
theorem run_change (f : Disk → Except IoError Disk) (d : Disk) :
    (change f).run d =
      match f d with
      | .ok d' => (.ok (), d')
      | .error e => (.error e, d) := by
  have hrun : (change f).run d =
      (match f d with
        | .ok d' => do StateT.set d'; return .ok ()
        | .error e => return .error e : StateM Disk (Except IoError Unit)).run d := rfl
  rw [hrun]
  cases f d <;> rfl

theorem change_changed (f : Disk → Except IoError Disk) (left : Disk → Prop) (d : Disk) :
    Changed id False d (f d) left ((change f).run d) := by
  rw [run_change]
  cases h : f d with
  | ok d' => exact .ok rfl
  | error cause => exact .error rfl (Or.inl rfl)

instance : Device Disk where
  disk := id
  faulty := False
  read _ _ := .same rfl
  list _ _ := .same rfl
  isDir _ _ := .same rfl
  fullName _ _ := .same rfl
  createDir p := change_changed (·.createDir p) _
  write p bytes d := change_changed (·.write p bytes) _ d
  copy p q d := change_changed (·.copy p q) _ d

end Disk

namespace Device

variable {σ α β : Type} {s s' : σ}

@[simp] theorem disk_disk (d : Disk) : disk d = d := rfl

@[simp] theorem faulty_disk : ¬ faulty Disk := id

theorem run_bind_eq {x : StateM σ α} {f : α → StateM σ β} {a : α} (h : x.run s = (a, s')) :
    (x >>= f).run s = (f a).run s' := by
  change (f (x.run s).1).run (x.run s).2 = _
  rw [h]

end Device

/-! ## A device that fails -/

/-- A disk on which some files may not be read, and no file takes more than so many bytes. -/
structure Worn where
  disk : Disk
  /-- The files that may not be read. -/
  unreadable : List Location
  /-- How many bytes a file takes. -/
  room : Nat
deriving DecidableEq

namespace Worn

variable {s : Worn} {p : String} {bytes : ByteArray}

/-- Whether a path leads to a file that may not be read. -/
def isUnreadable (s : Worn) (p : String) : Bool :=
  match s.disk.locate p with
  | .ok l => s.unreadable.contains l
  | .error _ => false

/-- What comes of an operation on the disk. -/
def change (s : Worn) (r : Except IoError Disk) : Except IoError Unit × Worn :=
  match r with
  | .ok d => (.ok (), { s with disk := d })
  | .error cause => (.error cause, s)

/-- What comes of an operation on the disk that puts bytes into a file. If there is no room for all
of them, the file takes the first ones. -/
def fill (s : Worn) (p : String) (bytes : ByteArray) (r : Except IoError Disk) :
    Except IoError Unit × Worn :=
  if bytes.size ≤ s.room then s.change r
  else
    match s.disk.write p (bytes.extract 0 s.room) with
    | .ok d => (.error (.other "File too large"), { s with disk := d })
    | .error cause => (.error cause, s)

/-- What comes of copying a file. -/
def copy (s : Worn) (source target : String) : Except IoError Unit × Worn :=
  if s.isUnreadable source then (.error .permissionDenied, s)
  else
    match s.disk.read source with
    | .ok bytes => s.fill target bytes (s.disk.copy source target)
    | .error cause => (.error cause, s)

instance : Files (StateM Worn) where
  read p := do
    let s ← get
    return if s.isUnreadable p then .error .permissionDenied else s.disk.read p
  list p := do return (← get).disk.list p
  isDir p := do return (← get).disk.isDir p
  createDir p := modifyGet fun s => s.change (s.disk.createDir p)
  write p bytes := modifyGet fun s => s.fill p bytes (s.disk.write p bytes)
  copy source target := modifyGet (·.copy source target)
  fullName p := do return (← get).disk.fullName p

theorem change_changed (s : Worn) (r : Except IoError Disk) (left : Disk → Prop) :
    Changed disk True s r left (s.change r) := by
  cases r with
  | ok d => exact .ok rfl
  | error cause => exact .error rfl (Or.inl rfl)

theorem fill_changed (s : Worn) (p : String) (bytes : ByteArray) (r : Except IoError Disk) :
    Changed disk True s r (s.disk.Begun p bytes) (s.fill p bytes r) := by
  unfold fill
  split
  · exact change_changed s r _
  · cases h : s.disk.write p (bytes.extract 0 s.room) with
    | ok d => exact .cut trivial ⟨s.room, d.readOnly, d, h, rfl⟩
    | error cause => exact .error rfl (Or.inr trivial)

theorem copy_changed (s : Worn) (p q : String) :
    Changed disk True s (s.disk.copy p q)
      (fun d' => ∃ bytes, s.disk.read p = .ok bytes ∧ s.disk.Begun q bytes d') (s.copy p q) := by
  unfold copy
  split
  · exact .error rfl (Or.inr trivial)
  · cases h : s.disk.read p with
    | ok bytes => exact (fill_changed s q bytes _).imp fun d' hbegun => ⟨bytes, rfl, hbegun⟩
    | error cause => exact .error rfl (Or.inr trivial)

theorem read_looked (s : Worn) (p : String) :
    Looked disk True s (s.disk.read p)
      (if s.isUnreadable p then .error .permissionDenied else s.disk.read p, s) := by
  split
  · exact .fault rfl trivial
  · exact .same rfl

instance : Device Worn where
  disk := disk
  faulty := True
  read p s := read_looked s p
  list _ _ := .same rfl
  isDir _ _ := .same rfl
  fullName _ _ := .same rfl
  createDir p s := change_changed s (s.disk.createDir p) _
  write p bytes s := fill_changed s p bytes (s.disk.write p bytes)
  copy p q s := copy_changed s p q

end Worn

end Scaffold
