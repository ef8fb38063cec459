import Scaffold.Reference
import Scaffold.TypeExpr

/-!
# Marks at the end of a text

A text is marked if it ends in `?` or in `[]`. Reading a reference takes off one mark after the
other, so its core name is what is left when no mark is: it is not marked (`not_marked_coreName`),
a mark at the end of the text does not change it, and a text without a mark is its own core name
(`coreName_eq_self`).
-/

namespace Scaffold

namespace Reference

/-- The text ends in a mark. -/
def Marked (s : String) : Prop := ['?'] <:+ s.toList ∨ ['[', ']'] <:+ s.toList

instance : DecidablePred Marked := fun s =>
  inferInstanceAs (Decidable (['?'] <:+ s.toList ∨ ['[', ']'] <:+ s.toList))

/-- The characters, last first, start with a mark. -/
theorem marked_iff_reverse {s : String} :
    Marked s ↔ ['?'] <+: s.toList.reverse ∨ [']', '['] <+: s.toList.reverse := by
  unfold Marked
  rw [← List.reverse_prefix, ← List.reverse_prefix]
  rfl

theorem not_marked_of_keyword {n : String} {kind : Primitive}
    (h : Primitive.ofKeyword? n = some kind) : ¬ Marked n := by
  rw [Primitive.ofKeyword?_eq_some_iff] at h
  subst h
  cases kind <;> decide

/-- What is left when all marks are taken off. -/
def coreName (s : String) : String := (ofText s).base

theorem base_ofReversed_not_marked (cs : List Char) : ¬ Marked (ofReversed cs).base := by
  fun_induction ofReversed cs with
  | case1 cs ih => exact ih
  | case2 cs ih => exact ih
  | case3 cs hopt harr =>
      rw [marked_iff_reverse]
      simp only [base, String.toList_ofList, List.reverse_reverse]
      rintro (⟨tail, rfl⟩ | ⟨tail, rfl⟩)
      · exact hopt tail rfl
      · exact harr tail rfl

theorem not_marked_coreName (s : String) : ¬ Marked (coreName s) :=
  base_ofReversed_not_marked s.toList.reverse

theorem ofReversed_eq_core {s : String} (h : ¬ Marked s) :
    ofReversed s.toList.reverse = .core s := by
  rw [marked_iff_reverse] at h
  unfold ofReversed
  split
  · rename_i cs heq
    exact absurd (Or.inl ⟨cs, heq.symm⟩) h
  · rename_i cs heq
    exact absurd (Or.inr ⟨cs, heq.symm⟩) h
  · simp

theorem ofText_eq_core {s : String} (h : ¬ Marked s) : ofText s = .core s :=
  ofReversed_eq_core h

theorem coreName_eq_self {s : String} (h : ¬ Marked s) : coreName s = s := by
  rw [coreName, ofText_eq_core h]
  rfl

/-- Reading gives a reference back, if its name does not end in a mark itself. -/
theorem ofText_text {ref : Reference} (h : ¬ Marked ref.base) : ofText ref.text = ref := by
  induction ref with
  | core name => exact ofText_eq_core h
  | optional inner ih =>
      have hinner : ofText (inner.text ++ "?") = .optional (ofText inner.text) := by
        simp [ofText, ofReversed]
      rw [text, hinner, ih h]
  | array inner ih =>
      have hinner : ofText (inner.text ++ "[]") = .array (ofText inner.text) := by
        simp [ofText, ofReversed]
      rw [text, hinner, ih h]

end Reference

end Scaffold
