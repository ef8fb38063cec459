import Mathlib.Data.List.Induction
import Scaffold.Proofs.Files.Disk
import Scaffold.Proofs.Text.Split

/-!
# The steps of a path

Joining a name to a path adds one step. The path above a path has fewer steps, and they are the
first ones: cutting a path drops its last step, and with it any dots before that stand for nothing.
-/

namespace Scaffold

namespace Disk

/-- The steps of a path that is given by its characters. -/
def charSteps (cs : List Char) : List (List Char) := (Text.split '/' cs).filter (!·.isEmpty)

theorem steps_eq_map (p : String) : steps p = (charSteps p.toList).map String.ofList := rfl

@[simp] theorem charSteps_nil : charSteps [] = [] := rfl

theorem charSteps_append (cs cs' : List Char) :
    charSteps (cs ++ '/' :: cs') = charSteps cs ++ charSteps cs' := by
  simp [charSteps, Text.split_append]

theorem charSteps_of_not_mem {cs : List Char} (h : '/' ∉ cs) (hne : cs ≠ []) :
    charSteps cs = [cs] := by
  simp [charSteps, Text.split_of_not_mem h, hne]

/-- A slash at the end adds no step. -/
theorem charSteps_append_slash (cs : List Char) : charSteps (cs ++ ['/']) = charSteps cs := by
  rw [charSteps_append, charSteps_nil, List.append_nil]

/-- A step is not empty and holds no slash. -/
theorem mem_steps {p s : String} (h : s ∈ steps p) : s ≠ "" ∧ '/' ∉ s.toList := by
  obtain ⟨cs, hcs, rfl⟩ := List.mem_map.1 h
  obtain ⟨hmem, hne⟩ := List.mem_filter.1 hcs
  refine ⟨?_, by simpa using Text.not_mem_of_mem_split hmem⟩
  simpa using hne

/-- Every step takes a character. -/
theorem length_charSteps_le (cs : List Char) : (charSteps cs).length ≤ cs.length := by
  induction cs with
  | nil => simp
  | cons c cs ih =>
      rw [charSteps] at ih ⊢
      by_cases hc : c = '/'
      · rw [Text.split, if_pos hc, List.filter_cons_of_neg (by simp)]
        exact Nat.le_trans ih (Nat.le_succ _)
      · cases hsplit : Text.split '/' cs with
        | nil => exact absurd hsplit (Text.split_ne_nil '/' cs)
        | cons piece pieces =>
            have hle : (pieces.filter (!·.isEmpty)).length ≤
                ((piece :: pieces).filter (!·.isEmpty)).length :=
              ((List.sublist_cons_self piece pieces).filter _).length_le
            rw [hsplit] at ih
            simp only [Text.split, if_neg hc, hsplit, List.filter_cons_of_pos, List.isEmpty_cons,
              Bool.not_false, List.length_cons]
            omega

/-! ## Joining -/

theorem not_isAbsolute_of_no_slash {s : String} (h : '/' ∉ s.toList) :
    Files.isAbsolute s = false := by
  rw [Files.isAbsolute, beq_eq_false_iff_ne]
  intro hhead
  exact h (List.mem_of_mem_head? hhead)

theorem IsName.not_isAbsolute {s : String} (h : IsName s) : Files.isAbsolute s = false :=
  not_isAbsolute_of_no_slash h.no_slash

theorem join_of_relative {base s : String} (h : Files.isAbsolute s = false) :
    Files.join base s =
      if base.isEmpty || base.toList.getLast? == some '/' then base ++ s else base ++ "/" ++ s := by
  rw [Files.join, h]
  rfl

theorem steps_join_of_relative {base s : String} (h : Files.isAbsolute s = false) :
    steps (Files.join base s) = steps base ++ steps s := by
  rw [join_of_relative h]
  split
  · rename_i hbase
    rw [Bool.or_eq_true] at hbase
    rcases hbase with hempty | hslash
    · have : base = "" := by simpa using hempty
      simp [steps_eq_map, this]
    · obtain ⟨cs, hcs⟩ : ∃ cs, base.toList = cs ++ ['/'] :=
        List.getLast?_eq_some_iff.1 (beq_iff_eq.1 hslash)
      have hsplit : cs ++ ['/'] ++ s.toList = cs ++ '/' :: s.toList := by simp
      rw [steps_eq_map, steps_eq_map, String.toList_append, hcs, hsplit, charSteps_append,
        charSteps_append_slash, List.map_append]
      rfl
  · have hsplit : base.toList ++ ['/'] ++ s.toList = base.toList ++ '/' :: s.toList := by simp
    rw [steps_eq_map, steps_eq_map, String.toList_append, String.toList_append]
    change (charSteps (base.toList ++ ['/'] ++ s.toList)).map _ = _
    rw [hsplit, charSteps_append, List.map_append]
    rfl

theorem steps_of_no_slash {s : String} (h : '/' ∉ s.toList) (hne : s ≠ "") : steps s = [s] := by
  rw [steps_eq_map, charSteps_of_not_mem h (by simpa using hne)]
  simp

theorem steps_join {base s : String} (h : IsName s) :
    steps (Files.join base s) = steps base ++ [s] := by
  rw [steps_join_of_relative h.not_isAbsolute, steps_of_no_slash h.no_slash h.ne_empty]

theorem isAbsolute_join_of_relative {base s : String} (h : Files.isAbsolute s = false) :
    Files.isAbsolute (Files.join base s) = Files.isAbsolute base := by
  by_cases hbase : base = ""
  · rw [join_of_relative h, hbase]
    simpa [Files.isAbsolute] using h
  · have hne : base.toList ≠ [] := by simpa using hbase
    rw [join_of_relative h, Files.isAbsolute, Files.isAbsolute]
    split
    · rw [String.toList_append, List.head?_append_of_ne_nil _ hne]
    · rw [String.toList_append, String.toList_append, List.append_assoc,
        List.head?_append_of_ne_nil _ hne]

theorem utf8ByteSize_join_lt {s : String} (h : IsName s) (base : String) :
    base.utf8ByteSize < (Files.join base s).utf8ByteSize := by
  have hs : 0 < s.utf8ByteSize := by
    rw [Nat.pos_iff_ne_zero]
    simpa using h.ne_empty
  rw [join_of_relative h.not_isAbsolute]
  split <;> simp only [String.utf8ByteSize_append] <;> omega

/-! ## Cutting -/

/-- Dropping the end of a path that stands for no step keeps the first steps. -/
theorem charSteps_trimSteps (cs : List Char) :
    charSteps (Files.trimSteps cs).reverse <+: charSteps cs.reverse := by
  fun_induction Files.trimSteps cs with
  | case1 cs ih => rwa [List.reverse_cons, charSteps_append_slash]
  | case2 cs ih =>
      have hdot : ('.' :: '/' :: cs).reverse = cs.reverse ++ '/' :: ['.'] := by simp
      rw [List.reverse_cons, charSteps_append_slash] at ih
      rw [hdot, charSteps_append]
      exact ih.trans (List.prefix_append _ _)
  | case3 cs => exact List.prefix_rfl

theorem trimSteps_suffix (cs : List Char) : Files.trimSteps cs <:+ cs := by
  fun_induction Files.trimSteps cs with
  | case1 cs ih => exact ih.trans (List.suffix_cons _ _)
  | case2 cs ih => exact ih.trans (List.suffix_cons _ _)
  | case3 cs => exact List.suffix_rfl

theorem trimSteps_ne_slash {cs rest : List Char} {c : Char} (h : Files.trimSteps cs = c :: rest) :
    c ≠ '/' := by
  fun_induction Files.trimSteps cs with
  | case1 cs ih => exact ih h
  | case2 cs ih => exact ih h
  | case3 cs hslash _ =>
      rintro rfl
      exact hslash rest h

/-- Dropping the last name of a path, and what stands for no step before it, loses a step. -/
theorem charSteps_dropName {c : Char} (hc : c ≠ '/') (cs : List Char) :
    charSteps (Files.trimSteps ((c :: cs).dropWhile (· != '/'))).reverse <+:
        charSteps (c :: cs).reverse ∧
      (charSteps (Files.trimSteps ((c :: cs).dropWhile (· != '/'))).reverse).length <
        (charSteps (c :: cs).reverse).length := by
  have hname : '/' ∉ ((c :: cs).takeWhile (· != '/')).reverse := by
    intro hmem
    simpa using List.all_eq_true.1 List.all_takeWhile '/' (List.mem_reverse.1 hmem)
  have hne : ((c :: cs).takeWhile (· != '/')).reverse ≠ [] := by simp [hc]
  have hsplit := List.takeWhile_append_dropWhile (p := (· != '/')) (l := c :: cs)
  cases hrest : (c :: cs).dropWhile (· != '/') with
  | nil =>
      rw [hrest, List.append_nil] at hsplit
      rw [hsplit] at hname hne
      rw [charSteps_of_not_mem hname hne]
      simp [Files.trimSteps]
  | cons x rest =>
      have hx : x = '/' := by
        have := List.head_dropWhile_not (· != '/') (l := c :: cs) (by simp [hrest])
        simpa [hrest] using this
      subst hx
      have hreverse : (c :: cs).reverse =
          rest.reverse ++ '/' :: ((c :: cs).takeWhile (· != '/')).reverse := by
        conv_lhs => rw [← hsplit, hrest]
        simp
      have hfront := charSteps_trimSteps ('/' :: rest)
      rw [List.reverse_cons, charSteps_append_slash] at hfront
      rw [hreverse, charSteps_append, charSteps_of_not_mem hname hne]
      refine ⟨hfront.trans (List.prefix_append _ _), ?_⟩
      have hle := hfront.length_le
      rw [List.length_append, List.length_singleton]
      omega

/-- The path above a path has the first steps of the path, and fewer of them. -/
theorem steps_parent {p above : String} (h : Files.parent? p = some above) :
    steps above <+: steps p ∧ (steps above).length < (steps p).length ∧
      Files.isAbsolute above = Files.isAbsolute p := by
  have htrim := charSteps_trimSteps p.toList.reverse
  have hsuffix := trimSteps_suffix p.toList.reverse
  rw [List.reverse_reverse] at htrim
  unfold Files.parent? at h
  cases hstep : Files.trimSteps p.toList.reverse with
  | nil => simp [hstep] at h
  | cons c cs =>
      simp only [hstep] at h htrim hsuffix
      obtain ⟨hfront, hlt⟩ := charSteps_dropName (trimSteps_ne_slash hstep) cs
      have hcut : Files.trimSteps ((c :: cs).dropWhile (· != '/')) <:+ p.toList.reverse :=
        ((trimSteps_suffix _).trans (List.dropWhile_suffix _)).trans hsuffix
      generalize Files.trimSteps ((c :: cs).dropWhile (· != '/')) = cut at h hfront hlt hcut
      have hsteps : charSteps above.toList = charSteps cut.reverse ∧
          Files.isAbsolute above = Files.isAbsolute p := by
        split at h
        · rename_i hroot
          rw [Bool.and_eq_true, List.isEmpty_iff] at hroot
          cases h
          rw [hroot.1, hroot.2]
          exact ⟨rfl, rfl⟩
        · rename_i hroot
          cases h
          refine ⟨by simp, ?_⟩
          cases cut using List.reverseRecOn with
          | nil =>
              have hp : Files.isAbsolute p = false := by simpa using hroot
              rw [hp]
              rfl
          | append_singleton cut c' =>
              obtain ⟨before, hbefore⟩ := hcut
              have hp : p.toList = c' :: cut.reverse ++ before.reverse := by
                rw [← List.reverse_reverse p.toList, ← hbefore]
                simp
              simp [Files.isAbsolute, hp]
      rw [steps_eq_map, steps_eq_map, hsteps.1, List.length_map, List.length_map]
      refine ⟨List.IsPrefix.map _ (hfront.trans htrim), ?_, hsteps.2⟩
      exact Nat.lt_of_lt_of_le hlt htrim.length_le

/-- A path that nothing is above has no steps but dots, and starts at the root unless it is empty.
-/
theorem eq_dot_of_trimSteps {cs : List Char} (h : Files.trimSteps cs = []) :
    (∀ step ∈ charSteps cs.reverse, step = ['.']) ∧ (cs = [] ∨ cs.getLast? = some '/') := by
  fun_induction Files.trimSteps cs with
  | case1 cs ih =>
      obtain ⟨hsteps, hlast⟩ := ih h
      refine ⟨by rwa [List.reverse_cons, charSteps_append_slash], Or.inr ?_⟩
      rcases hlast with rfl | hlast
      · rfl
      · rw [List.getLast?_cons, hlast]
        rfl
  | case2 cs ih =>
      obtain ⟨hsteps, hlast⟩ := ih h
      rw [List.reverse_cons, charSteps_append_slash] at hsteps
      have hdot : ('.' :: '/' :: cs).reverse = cs.reverse ++ '/' :: ['.'] := by simp
      refine ⟨?_, Or.inr ?_⟩
      · rw [hdot, charSteps_append]
        simpa [or_imp, forall_and, charSteps_of_not_mem] using hsteps
      · simpa [List.getLast?_cons_cons] using hlast
  | case3 cs => simp [h]

theorem parent?_eq_none {p : String} (h : Files.parent? p = none) :
    (∀ step ∈ steps p, step = ".") ∧ (p.isEmpty = true ∨ Files.isAbsolute p = true) := by
  have htrim : Files.trimSteps p.toList.reverse = [] := by
    unfold Files.parent? at h
    cases hstep : Files.trimSteps p.toList.reverse with
    | nil => rfl
    | cons c cs =>
        simp only [hstep] at h
        split at h <;> cases h
  obtain ⟨hsteps, hlast⟩ := eq_dot_of_trimSteps htrim
  rw [List.reverse_reverse] at hsteps
  refine ⟨?_, hlast.imp (by simp) ?_⟩
  · intro step hstep
    obtain ⟨cs, hcs, rfl⟩ := List.mem_map.1 hstep
    rw [hsteps cs hcs]
  · intro hlast
    rw [List.getLast?_reverse] at hlast
    simp [Files.isAbsolute, hlast]

/-- The paths above a path end with one that nothing is above. -/
theorem exists_first_ancestor (p : String) : ∃ q ∈ Files.ancestors p, Files.parent? q = none := by
  have hupTo : ∀ k p, (steps p).length < k →
      ∃ q ∈ Files.ancestorsUpTo k p, Files.parent? q = none := by
    intro k
    induction k with
    | zero => exact fun p hlt => absurd hlt (Nat.not_lt_zero _)
    | succ k ih =>
        intro p hlt
        rw [Files.ancestorsUpTo]
        cases habove : Files.parent? p with
        | none => exact ⟨p, List.mem_cons_self, habove⟩
        | some above =>
            have hfewer := (steps_parent habove).2.1
            obtain ⟨q, hq, hnone⟩ := ih above (by omega)
            exact ⟨q, List.mem_cons_of_mem p hq, hnone⟩
  refine hupTo (p.length + 1) p (Nat.lt_succ_of_le ?_)
  rw [steps_eq_map, List.length_map, ← String.length_toList]
  exact length_charSteps_le p.toList

/-- The paths above a path, and the path itself, have its first steps. -/
theorem steps_ancestorsUpTo {k : Nat} {p q : String} (h : q ∈ Files.ancestorsUpTo k p) :
    steps q <+: steps p ∧ Files.isAbsolute q = Files.isAbsolute p := by
  induction k generalizing p with
  | zero => simp [Files.ancestorsUpTo] at h
  | succ k ih =>
      rw [Files.ancestorsUpTo, List.mem_cons] at h
      rcases h with rfl | h
      · exact ⟨List.prefix_rfl, rfl⟩
      · cases habove : Files.parent? p with
        | none => simp [habove] at h
        | some above =>
            rw [habove] at h
            obtain ⟨hfront, -, habsolute⟩ := steps_parent habove
            obtain ⟨hfront', habsolute'⟩ := ih h
            exact ⟨hfront'.trans hfront, habsolute'.trans habsolute⟩

theorem steps_ancestors {p q : String} (h : q ∈ Files.ancestors p) :
    steps q <+: steps p ∧ Files.isAbsolute q = Files.isAbsolute p :=
  steps_ancestorsUpTo h

end Disk

end Scaffold
