import Scaffold.Proofs.Segment.Decomposition
import Scaffold.Proofs.Text.Blank

/-!
# The pattern of a token

A token is two opening braces, any number of blanks, a name of at least one character that is no
brace, any number of blanks, and two closing braces. Blanks can be part of the name as well, so a
token can be read in several ways. The pattern prefers as many blanks as possible in front of the
name and then a name that is as short as possible; where the rest does not fit, the next way is
tried. `tokenWays` lists the ways in this order.

The first of them is the one that `tokenAt?` finds (`head?_tokenWays`): the name has no blanks
around it, unless there is nothing else. Then all blanks but the last one stand in front of it.
-/

namespace Scaffold.Segment

variable {c : Char} {cs m tail : List Char}

/-! ## Names of tokens -/

theorem tokenName_of_blank (h : Text.Blank m) : tokenName m = String.ofList m.getLast?.toList := by
  rw [tokenName, Text.trim_eq_nil_iff.2 h]

theorem tokenName_of_not_blank (h : ¬ Text.Blank m) :
    tokenName m = String.ofList (Text.trim m) := by
  rw [tokenName]
  split
  · rename_i hnil
    exact absurd (Text.trim_eq_nil_iff.1 hnil) h
  · rfl

theorem tokenName_cons_of_blank (hc : Text.isBlank c = true) (hm : m ≠ []) :
    tokenName (c :: m) = tokenName m := by
  by_cases hblank : Text.Blank m
  · obtain ⟨d, m, rfl⟩ := List.exists_cons_of_ne_nil hm
    rw [tokenName_of_blank hblank, tokenName_of_blank ((Text.blank_cons_iff hc).2 hblank),
      List.getLast?_cons_cons]
  · have hcons : ¬ Text.Blank (c :: m) := mt (Text.blank_cons_iff hc).1 hblank
    rw [tokenName_of_not_blank hblank, tokenName_of_not_blank hcons, Text.trim_cons_of_blank hc]

theorem tokenName_cons_of_not_blank (hc : ¬ Text.isBlank c = true) :
    tokenName (c :: m) = String.ofList (c :: Text.trimEnd m) := by
  rw [tokenName_of_not_blank fun hblank => hc (hblank c List.mem_cons_self),
    Text.trim_cons_of_not_blank hc]

theorem tokenName_singleton (c : Char) : tokenName [c] = String.ofList [c] := by
  by_cases hc : Text.isBlank c = true
  · exact tokenName_of_blank ((Text.blank_cons_iff hc).2 Text.blank_nil)
  · exact tokenName_cons_of_not_blank hc

/-! ## Ways to match -/

/-- The ways to take any number of characters that pass the test, the longest first: what is taken
and what follows. -/
def greedy (test : Char → Bool) : List Char → List (List Char × List Char)
  | [] => [([], [])]
  | c :: cs =>
      if test c then (greedy test cs).map (fun way => (c :: way.1, way.2)) ++ [([], c :: cs)]
      else [([], c :: cs)]

/-- The ways to take at least one character that passes the test, the shortest first. -/
def reluctant (test : Char → Bool) : List Char → List (List Char × List Char)
  | [] => []
  | c :: cs =>
      if test c then ([c], cs) :: (reluctant test cs).map fun way => (c :: way.1, way.2)
      else []

/-- What follows a mark. -/
def behind (mark cs : List Char) : List (List Char) :=
  if mark.isPrefixOf cs then [cs.drop mark.length] else []

/-- Blanks and the closing braces: what follows them. -/
def closings (cs : List Char) : List (List Char) :=
  (greedy Text.isBlank cs).flatMap fun way => behind ['\x7d', '\x7d'] way.2

/-- A name, blanks and the closing braces: the name and what follows the token. -/
def names (cs : List Char) : List (List Char × List Char) :=
  (reluctant (!isBrace ·) cs).flatMap fun way => (closings way.2).map fun rest => (way.1, rest)

/-- Blanks, a name, blanks and the closing braces. -/
def inners (cs : List Char) : List (List Char × List Char) :=
  (greedy Text.isBlank cs).flatMap fun way => names way.2

/-- The ways to match a token at the front, the one that is preferred first. -/
def tokenWays (cs : List Char) : List (List Char × List Char) :=
  (behind ['\x7b', '\x7b'] cs).flatMap inners

theorem not_blank_of_isBrace (h : isBrace c = true) : ¬ Text.isBlank c = true := by
  have hcases : c = '\x7b' ∨ c = '\x7d' := by simpa [isBrace] using h
  rcases hcases with rfl | rfl
  · decide
  · decide

/-- The text is empty or starts with a brace. -/
def AtBrace (tail : List Char) : Prop := ∀ c ∈ tail.head?, isBrace c = true

theorem greedy_of_atBrace (h : AtBrace tail) : greedy Text.isBlank tail = [([], tail)] := by
  cases tail with
  | nil => rfl
  | cons c tail => rw [greedy, if_neg (not_blank_of_isBrace (h c rfl))]

theorem greedy_cons_flatMap {α : Type} (f : List Char → List α) :
    (greedy Text.isBlank (c :: cs)).flatMap (fun way => f way.2) =
      if Text.isBlank c then (greedy Text.isBlank cs).flatMap (fun way => f way.2) ++ f (c :: cs)
      else f (c :: cs) := by
  rw [greedy]
  split
  · rw [List.flatMap_append, List.flatMap_map, List.flatMap_singleton]
  · rw [List.flatMap_singleton]

theorem behind_cons_of_not_brace (hc : isBrace c = false) :
    behind ['\x7d', '\x7d'] (c :: cs) = [] := by
  have hne : c ≠ '\x7d' := by
    rintro rfl
    exact absurd hc (by decide)
  simp [behind, Ne.symm hne]

/-- The blanks in front of the closing braces have to be all that is there. -/
theorem closings_append (hm : ∀ c ∈ m, isBrace c = false) (htail : AtBrace tail) :
    closings (m ++ tail) = if Text.Blank m then behind ['\x7d', '\x7d'] tail else [] := by
  induction m with
  | nil =>
      rw [List.nil_append, closings, greedy_of_atBrace htail, List.flatMap_singleton,
        if_pos Text.blank_nil]
  | cons c m ih =>
      obtain ⟨hc, hm⟩ := List.forall_mem_cons.1 hm
      rw [List.cons_append, closings, greedy_cons_flatMap, behind_cons_of_not_brace hc]
      by_cases hblank : Text.isBlank c = true
      · rw [if_pos hblank, List.append_nil]
        simp only [Text.blank_cons_iff hblank]
        exact ih hm
      · rw [if_neg hblank, if_neg fun h => hblank (h c List.mem_cons_self)]

theorem names_of_atBrace (h : AtBrace tail) : names tail = [] := by
  cases tail with
  | nil => rfl
  | cons c tail =>
      rw [names, reluctant, h c rfl]
      rfl

theorem names_cons (hc : isBrace c = false) :
    names (c :: cs) = (closings cs).map (fun rest => ([c], rest)) ++
      (names cs).map fun way => (c :: way.1, way.2) := by
  rw [names, reluctant, hc, Bool.not_false, if_pos rfl, List.flatMap_cons, List.flatMap_map, names,
    List.map_flatMap]
  simp only [List.map_map]
  rfl

/-- The shortest name that can be followed by blanks only. -/
theorem head?_names (hc : isBrace c = false) (hm : ∀ x ∈ m, isBrace x = false)
    (htail : AtBrace tail) :
    (names (c :: (m ++ tail))).head? =
      (behind ['\x7d', '\x7d'] tail).head?.map fun rest => (c :: Text.trimEnd m, rest) := by
  induction m generalizing c with
  | nil =>
      rw [names_cons hc, closings_append hm htail, if_pos Text.blank_nil, List.nil_append,
        names_of_atBrace htail, List.map_nil, List.append_nil, List.head?_map]
      rfl
  | cons d m ih =>
      obtain ⟨hd, hm'⟩ := List.forall_mem_cons.1 hm
      rw [names_cons hc, closings_append hm htail, List.head?_append, List.head?_map,
        List.head?_map, List.cons_append, ih hd hm']
      by_cases hblank : Text.Blank (d :: m)
      · rw [if_pos hblank, Text.trimEnd_eq_nil_iff.2 hblank]
        cases (behind ['\x7d', '\x7d'] tail).head? with
        | none => rfl
        | some rest => rfl
      · rw [if_neg hblank, Text.trimEnd_cons hblank, Option.map_map]
        rfl

theorem inners_cons :
    inners (c :: cs) =
      if Text.isBlank c then inners cs ++ names (c :: cs) else names (c :: cs) :=
  greedy_cons_flatMap names

theorem inners_of_atBrace (h : AtBrace tail) : inners tail = [] := by
  rw [inners, greedy_of_atBrace h, List.flatMap_singleton, names_of_atBrace h]

/-- As many blanks as possible in front of the name. The name needs one character, so the last
blank is given back if there is nothing else. -/
theorem head?_inners (hm : ∀ x ∈ m, isBrace x = false) (htail : AtBrace tail) (hne : m ≠ []) :
    (inners (m ++ tail)).head? =
      (behind ['\x7d', '\x7d'] tail).head?.map fun rest => ((tokenName m).toList, rest) := by
  induction m with
  | nil => exact absurd rfl hne
  | cons c m ih =>
      obtain ⟨hc, hm⟩ := List.forall_mem_cons.1 hm
      rw [List.cons_append, inners_cons]
      by_cases hblank : Text.isBlank c = true
      · rw [if_pos hblank, List.head?_append, head?_names hc hm htail]
        by_cases hnil : m = []
        · rw [hnil, List.nil_append, inners_of_atBrace htail, tokenName_singleton,
            String.toList_ofList]
          rfl
        · rw [ih hm hnil, tokenName_cons_of_blank hblank hnil]
          cases (behind ['\x7d', '\x7d'] tail).head? with
          | none => rfl
          | some rest => rfl
      · rw [if_neg hblank, head?_names hc hm htail, tokenName_cons_of_not_blank hblank,
          String.toList_ofList]

theorem atBrace_dropWhile (cs : List Char) : AtBrace (cs.dropWhile (!isBrace ·)) := by
  intro c hc
  have hnot := List.head?_dropWhile_not (!isBrace ·) cs
  rw [Option.mem_def.1 hc] at hnot
  simpa using hnot

theorem tokenAt?_open (cs : List Char) :
    tokenAt? ('\x7b' :: '\x7b' :: cs) =
      if cs.takeWhile (!isBrace ·) = [] then none
      else (behind ['\x7d', '\x7d'] (cs.dropWhile (!isBrace ·))).head?.map fun rest =>
        (cs.takeWhile (!isBrace ·), rest) := by
  rw [tokenAt?]
  split
  · rename_i c inner rest htake hdrop
    rw [htake, hdrop, if_neg (List.cons_ne_nil _ _)]
    rfl
  · rename_i hother
    by_cases hnil : cs.takeWhile (!isBrace ·) = []
    · rw [if_pos hnil]
    · have hbehind : behind ['\x7d', '\x7d'] (cs.dropWhile (!isBrace ·)) = [] := by
        rw [behind, if_neg]
        intro hclose
        obtain ⟨rest, hrest⟩ := List.isPrefixOf_iff_prefix.1 hclose
        obtain ⟨c, inner, hinner⟩ := List.exists_cons_of_ne_nil hnil
        exact hother c inner rest hinner hrest.symm
      rw [if_neg hnil, hbehind]
      rfl

/-- The way that the pattern prefers is the token that is found at the front. -/
theorem head?_tokenWays (cs : List Char) :
    (tokenWays cs).head? =
      (tokenAt? cs).map fun found => ((tokenName found.1).toList, found.2) := by
  by_cases hopen : ['\x7b', '\x7b'] <+: cs
  · obtain ⟨cs, rfl⟩ := hopen
    have hways : tokenWays (['\x7b', '\x7b'] ++ cs) = inners cs := List.flatMap_singleton inners cs
    have hm : ∀ x ∈ cs.takeWhile (!isBrace ·), isBrace x = false := by
      intro x hx
      simpa using List.mem_takeWhile_imp hx
    have hinners := head?_inners hm (atBrace_dropWhile cs)
    rw [List.takeWhile_append_dropWhile] at hinners
    rw [hways, List.cons_append, List.singleton_append, tokenAt?_open]
    by_cases hnil : cs.takeWhile (!isBrace ·) = []
    · have htail : AtBrace cs := by
        rw [← List.takeWhile_append_dropWhile (p := (!isBrace ·)) (l := cs), hnil]
        exact atBrace_dropWhile cs
      rw [if_pos hnil, inners_of_atBrace htail]
      rfl
    · rw [if_neg hnil, hinners hnil, Option.map_map]
      rfl
  · have hnone : tokenAt? cs = none := by
      rw [Option.eq_none_iff_forall_not_mem]
      rintro ⟨inner, rest⟩ h
      obtain ⟨-, rfl⟩ := tokenAt?_eq_some_iff.1 h
      exact hopen ⟨inner ++ ['\x7d', '\x7d'] ++ rest, rfl⟩
    rw [hnone, tokenWays, behind, if_neg (mt List.isPrefixOf_iff_prefix.1 hopen)]
    rfl

end Scaffold.Segment
