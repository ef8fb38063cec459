import Scaffold.Text.Split

/-!
# Pieces of a text

The pieces between marks are the longest ones without a mark: cutting at one mark after the other is
cutting at all of them, and a text of lines is cut into these lines.
-/

namespace Scaffold

namespace Text

theorem split_append (mark : Char) (cs cs' : List Char) :
    split mark (cs ++ mark :: cs') = split mark cs ++ split mark cs' := by
  induction cs with
  | nil => simp [split]
  | cons c cs ih =>
      rw [List.cons_append, split, split, ih]
      by_cases hc : c = mark
      · simp [hc]
      · simp only [hc, if_false]
        cases h : split mark cs with
        | nil => exact absurd h (split_ne_nil mark cs)
        | cons piece pieces => simp

theorem split_of_not_mem {mark : Char} {cs : List Char} (h : mark ∉ cs) :
    split mark cs = [cs] := by
  induction cs with
  | nil => rfl
  | cons c cs ih =>
      rw [List.mem_cons, not_or] at h
      simp [split, ih h.2, Ne.symm h.1]

theorem not_mem_of_mem_split {mark : Char} {cs piece : List Char} (h : piece ∈ split mark cs) :
    mark ∉ piece := by
  induction cs generalizing piece with
  | nil =>
      have : piece = [] := by simpa [split] using h
      simp [this]
  | cons c cs ih =>
      rw [split] at h
      split at h
      · rcases List.mem_cons.1 h with rfl | h
        · simp
        · exact ih h
      · rename_i hc
        split at h
        · rename_i first rest hsplit
          rw [hsplit] at ih
          rcases List.mem_cons.1 h with rfl | h
          · simp [Ne.symm hc, ih List.mem_cons_self]
          · exact ih (List.mem_cons_of_mem _ h)
        · rw [List.mem_singleton.1 h]
          simp [Ne.symm hc]

/-- Lines that hold no mark come back when a text is cut at the marks that end them. -/
theorem split_lines {mark : Char} {lines : List (List Char)} (h : ∀ line ∈ lines, mark ∉ line)
    (rest : List Char) :
    split mark (lines.flatMap (· ++ [mark]) ++ rest) = lines ++ split mark rest := by
  induction lines with
  | nil => rfl
  | cons line lines ih =>
      rw [List.forall_mem_cons] at h
      rw [List.flatMap_cons, List.append_assoc, List.append_assoc, List.singleton_append,
        split_append, split_of_not_mem h.1, ih h.2]
      rfl

end Text

end Scaffold
