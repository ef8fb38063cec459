import Scaffold.Proofs.Generate.Run
import Scaffold.Proofs.Generate.Templates

/-!
# The order of names in a directory

A system lists the names in a directory in any order, and possibly in another one each time. The
names are put in order before they are used, so the order makes no difference to an expansion.
-/

namespace Scaffold

/-- The order that the names in directories are listed in. -/
structure Listing where
  order : Disk → String → List String → List String
  perm : ∀ d p names, (order d p names).Perm names

/-- The files of a disk, where directories are listed in an order. -/
@[reducible] def Listing.files (listing : Listing) : Files (StateM Disk) :=
  { (inferInstance : Files (StateM Disk)) with
    list := fun p => do
      let d ← get
      return (d.list p).map (listing.order d p) }

/-- What is done with the names of a directory can be done under any listing, if the order of the
names makes no difference to it. -/
theorem Listing.bind_list (listing : Listing) {α : Type} (dir : String)
    {k : List String → Run (StateM Disk) GenerateError α}
    (hk : ∀ {names names' : List String}, names.Perm names' → k names = k names') :
    Run.ofFiles (.io dir) (@Files.list _ listing.files dir) >>= k =
      Run.ofFiles (.io dir) (Files.list dir) >>= k := by
  funext log d
  refine (Run.run_bind_eq _ _ log d).trans (Eq.trans ?_ (Run.run_bind_eq _ _ log d).symm)
  have hlisted : ((Run.ofFiles (.io dir) (@Files.list _ listing.files dir) :
      Run (StateM Disk) GenerateError _).run.run log).run d =
        ((((d.list dir).map (listing.order d dir)).mapError (.io dir), log), d) := rfl
  have hlist : ((Run.ofFiles (.io dir) (Files.list dir) :
      Run (StateM Disk) GenerateError _).run.run log).run d =
        (((d.list dir).mapError (.io dir), log), d) := rfl
  rw [hlisted, hlist]
  cases d.list dir with
  | error cause => rfl
  | ok names => simp only [Except.map, Except.mapError, hk (listing.perm d dir names)]

namespace Expand

theorem sortNames_eq_of_perm {names names' : List String} (h : names.Perm names') :
    sortNames names = sortNames names' := by
  refine List.Perm.eq_of_pairwise' (pairwise_le_sortNames names) (pairwise_le_sortNames names') ?_
  exact ((sortNames_perm names).trans h).trans (sortNames_perm names').symm

variable (listing : Listing)

theorem createFirst_listing (paths : List String) :
    @Files.createFirst (StateM Disk) _ listing.files paths = Files.createFirst paths := by
  induction paths with
  | nil => rfl
  | cons p above ih =>
      unfold Files.createFirst
      rw [ih]
      rfl

theorem createParent_listing (p : String) :
    @createParent (StateM Disk) _ listing.files p = createParent p := by
  unfold createParent
  cases Files.parent? p with
  | none => rfl
  | some above => exact congrArg (Run.ofFiles _) (createFirst_listing listing _)

theorem expandFile_listing (fill : Filling) (source outDir name : String) (report : Report) :
    @expandFile (StateM Disk) _ listing.files fill source outDir name report =
      expandFile fill source outDir name report := by
  unfold expandFile
  cases Files.stem? ending name with
  | some stem =>
      dsimp only
      unfold renderFile
      simp only [createParent_listing]
      rfl
  | none =>
      dsimp only
      unfold copyFile
      rw [createParent_listing]
      rfl

theorem expandDir_listing (fill : Filling) (n : Nat) (inDir outDir : String) (report : Report) :
    @expandDir (StateM Disk) _ listing.files fill n inDir outDir report =
      expandDir fill n inDir outDir report := by
  induction n generalizing inDir outDir report with
  | zero => rfl
  | succ n ih =>
      unfold expandDir
      simp only [ih, expandFile_listing]
      apply listing.bind_list
      intro names names' hperm
      rw [sortNames_eq_of_perm hperm]

theorem expand_listing (fill : Filling) (templates output : String) :
    @expand (StateM Disk) _ listing.files fill templates output =
      expand fill templates output := by
  unfold expand
  rw [expandDir_listing]

end Expand

end Scaffold
