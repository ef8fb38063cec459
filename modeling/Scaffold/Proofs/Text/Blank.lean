import Mathlib.Data.List.DropRight
import Scaffold.Text.Blank

/-!
# Texts without the blanks around them

Trimming a text leaves what stands between the blanks at its two ends (`trims_trim`). Nothing is
left exactly if there are only blanks.
-/

namespace Scaffold

namespace Text

variable {c : Char} {s : List Char}

/-- The text has no other characters than blanks. -/
def Blank (s : List Char) : Prop := ∀ c ∈ s, isBlank c = true

instance : DecidablePred Blank := fun s => List.decidableBAll (fun c => isBlank c = true) s

theorem blank_nil : Blank [] := List.forall_mem_nil _

theorem blank_cons_iff (hc : isBlank c = true) : Blank (c :: s) ↔ Blank s := by
  rw [Blank, Blank, List.forall_mem_cons, and_iff_right hc]

/-- The second text is what stands between the blanks at the two ends of the first one. -/
structure Trims (s t : List Char) : Prop where
  between : ∃ before after, s = before ++ t ++ after ∧ Blank before ∧ Blank after
  head : ∀ c ∈ t.head?, isBlank c = false
  last : ∀ c ∈ t.getLast?, isBlank c = false

theorem trimEnd_eq_rdropWhile (s : List Char) : trimEnd s = s.rdropWhile isBlank := rfl

theorem trimEnd_eq_nil_iff : trimEnd s = [] ↔ Blank s := by
  rw [trimEnd_eq_rdropWhile, List.rdropWhile_eq_nil_iff]
  rfl

theorem trimEnd_cons (h : ¬ Blank (c :: s)) : trimEnd (c :: s) = c :: trimEnd s := by
  rw [trimEnd, List.reverse_cons, List.dropWhile_append]
  by_cases hs : Blank s
  · have hnil : s.reverse.dropWhile isBlank = [] := by
      rw [List.dropWhile_eq_nil_iff]
      intro x hx
      exact hs x (List.mem_reverse.1 hx)
    have hc : ¬ isBlank c = true := fun hc => h (List.forall_mem_cons.2 ⟨hc, hs⟩)
    rw [trimEnd, hnil, List.isEmpty_nil, if_pos rfl, List.dropWhile_cons_of_neg hc]
    rfl
  · have hne : s.reverse.dropWhile isBlank ≠ [] := by
      intro hnil
      exact hs (trimEnd_eq_nil_iff.1 (congrArg List.reverse hnil))
    rw [trimEnd, if_neg (by simpa using hne), List.reverse_append, List.reverse_singleton,
      List.singleton_append]

theorem trim_cons_of_blank (h : isBlank c = true) : trim (c :: s) = trim s := by
  rw [trim, trim, trimStart, trimStart, List.dropWhile_cons_of_pos h]

theorem trim_cons_of_not_blank (h : ¬ isBlank c = true) : trim (c :: s) = c :: trimEnd s := by
  rw [trim, trimStart, List.dropWhile_cons_of_neg h]
  exact trimEnd_cons fun hblank => h (hblank c List.mem_cons_self)

theorem trim_eq_nil_iff : trim s = [] ↔ Blank s := by
  induction s with
  | nil => exact iff_of_true rfl blank_nil
  | cons c s ih =>
      by_cases hc : isBlank c = true
      · rw [trim_cons_of_blank hc, ih, blank_cons_iff hc]
      · rw [trim_cons_of_not_blank hc]
        exact iff_of_false (List.cons_ne_nil _ _) fun h => hc (h c List.mem_cons_self)

theorem not_blank_of_head?_dropWhile (h : c ∈ (s.dropWhile isBlank).head?) :
    isBlank c = false := by
  have hnot := List.head?_dropWhile_not isBlank s
  rwa [Option.mem_def.1 h] at hnot

theorem trims_trim (s : List Char) : Trims s (trim s) := by
  have hends : trim s ++ (trimStart s).rtakeWhile isBlank = trimStart s :=
    List.rdropWhile_append_rtakeWhile
  refine ⟨⟨s.takeWhile isBlank, (trimStart s).rtakeWhile isBlank, ?_, ?_, ?_⟩, ?_, ?_⟩
  · rw [List.append_assoc, hends, trimStart, List.takeWhile_append_dropWhile]
  · intro c hc
    exact List.mem_takeWhile_imp hc
  · intro c hc
    exact List.mem_rtakeWhile_imp hc
  · intro c hc
    have hstart : c ∈ (trimStart s).head? := by
      rw [← hends, List.head?_append, Option.mem_def.1 hc]
      rfl
    exact not_blank_of_head?_dropWhile hstart
  · intro c hc
    rw [trim, trimEnd, List.getLast?_reverse] at hc
    exact not_blank_of_head?_dropWhile hc

end Text

end Scaffold
