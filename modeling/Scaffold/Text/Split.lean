/-!
# Cutting texts

A text is cut at every place where a mark stands. Putting the mark back between the pieces gives
the text again (`intercalate_split`).
-/

namespace Scaffold.Text

/-- The pieces of a text between the marks; one piece more than there are marks. -/
def split (mark : Char) : List Char → List (List Char)
  | [] => [[]]
  | c :: cs =>
      if c = mark then [] :: split mark cs
      else
        match split mark cs with
        | piece :: pieces => (c :: piece) :: pieces
        | [] => [[c]]

theorem split_ne_nil (mark : Char) (cs : List Char) : split mark cs ≠ [] := by
  cases cs with
  | nil => simp [split]
  | cons c cs =>
    rw [split]
    split
    · simp
    · split <;> simp

/-- Nothing is lost but the marks. -/
theorem intercalate_split (mark : Char) (cs : List Char) :
    [mark].intercalate (split mark cs) = cs := by
  induction cs with
  | nil => rfl
  | cons c cs ih =>
    cases h : split mark cs with
    | nil => exact absurd h (split_ne_nil mark cs)
    | cons piece pieces =>
      rw [h] at ih
      by_cases hc : c = mark
      · subst hc
        simpa [split, h, List.intercalate] using ih
      · cases pieces <;> simp_all [split, List.intercalate]

end Scaffold.Text
