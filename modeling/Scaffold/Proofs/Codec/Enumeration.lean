import Scaffold.Proofs.Codec.Statement
import Scaffold.Resolver

/-!
# The text of an enumeration

Labels are texts of any kind. The key of a label stands for it, and it has no line feed in it. Hence
each label has a line of its own, with its number in the resolved type, and the labels can be told
from the text (`enumText_lines`).
-/

namespace Scaffold

namespace Codec.TypeScript

variable {exported : Bool} {name label : String}

/-- The line of a label and its number, without its end. -/
def labelLine (option : String × Nat) : String :=
  memberLine (propertyKey option.1, option.2)

/-- All lines that end in a line feed. -/
def enumLines (exported : Bool) (name : String) (labels : List String) : List String :=
  (keyword exported ++ "enum " ++ name ++ " \x7b") ::
    ((TypeTree.numbered labels).map labelLine ++ ["\x7d", ""])

theorem lines_enumeration (exported : Bool) (name : String) (labels : List String) :
    Statement.lines exported ⟨name, .ofDefinition (.enumeration labels)⟩ =
      enumLines exported name labels := by
  simp [Statement.lines, Statement.header, Body.ofDefinition, Body.word, Body.opening, Body.inner,
    Body.closing, enumLines, labelLine, ← String.toList_inj]

theorem split_enumText (h : isIdentifier name = true) (exported : Bool) (labels : List String) :
    (Text.split '\n' (enumText exported name labels).toList).map String.ofList =
      enumLines exported name labels ++ [""] := by
  have hsource : enumText exported name labels =
      source exported [⟨name, .ofDefinition (.enumeration labels)⟩] := by
    simp [source, enumText_eq_text]
  have hunbroken : Statement.Unbroken ⟨name, .ofDefinition (.enumeration labels)⟩ :=
    Statement.unbroken_ofDefinition h (List.forall_mem_nil _)
  rw [hsource, split_source (List.forall_mem_singleton.2 hunbroken)]
  simp [lines_enumeration]

theorem labelLine_inj {label' : String} {n : Nat}
    (h : labelLine (label, n) = labelLine (label', n)) : label = label' := by
  apply propertyKey_injective
  simpa [labelLine, memberLine, ← String.toList_inj] using h

/-- Lines with the same numbers have the same labels. -/
theorem labels_of_lines {labels labels' : List String} {n : Nat}
    (h : (labels.zipIdx n).map labelLine = (labels'.zipIdx n).map labelLine) :
    labels = labels' := by
  induction labels generalizing labels' n with
  | nil =>
      cases labels' with
      | nil => rfl
      | cons => simp at h
  | cons label labels ih =>
      cases labels' with
      | nil => simp at h
      | cons label' labels' =>
          simp only [List.zipIdx_cons, List.map_cons, List.cons.injEq] at h
          rw [labelLine_inj h.1, ih h.2]

theorem labels_of_enumLines {exported' : Bool} {name' : String} {labels labels' : List String}
    (h : enumLines exported name labels = enumLines exported' name' labels') :
    labels = labels' := by
  rw [enumLines, enumLines, List.cons.injEq] at h
  exact labels_of_lines (List.append_cancel_right h.2)

theorem resolve_labels_eq {labels : List String} {r : Resolver} (isAlias : Bool)
    (h : labels.all r.isDeclared = false) :
    (r.resolve (.list labels) isAlias).result =
      .ok (.enumeration ⟨isAlias, none⟩ (TypeTree.numbered labels)) := by
  simp [Resolver.resolve, TypeExpr.resolve, h]

/-- **The text of an enumeration.** Cut at its line feeds, it is a header, one line for each label
in order, a closing brace, and two empty lines. The line of a label has a key that stands for it and
its position, which is also its number in the resolved type. So other labels give another text. -/
theorem enumText_lines (h : isIdentifier name = true) (exported : Bool) (labels : List String) :
    (∃ lines, (Text.split '\n' (enumText exported name labels).toList).map String.ofList =
        (keyword exported ++ "enum " ++ name ++ " \x7b") :: lines ++ ["\x7d", "", ""] ∧
      lines.length = labels.length ∧
      ∀ (i : Nat) (label : String), labels[i]? = some label →
        (∃ key : String, lines[i]? = some ("  " ++ key ++ " = " ++ toString i ++ ",") ∧
          keyText? key = some label) ∧
        (TypeTree.numbered labels)[i]? = some (label, i)) ∧
    (∀ (r : Resolver) isAlias, labels.all r.isDeclared = false →
      (r.resolve (.list labels) isAlias).result =
        .ok (.enumeration ⟨isAlias, none⟩ (TypeTree.numbered labels))) ∧
    ∀ exported' name' labels', isIdentifier name' = true → labels' ≠ labels →
      enumText exported' name' labels' ≠ enumText exported name labels := by
  refine ⟨⟨(TypeTree.numbered labels).map labelLine, ?_, ?_, ?_⟩,
    fun r isAlias => resolve_labels_eq isAlias, ?_⟩
  · rw [split_enumText h, enumLines]
    simp
  · simp [TypeTree.numbered]
  · intro i label hlabel
    have hnumber : (TypeTree.numbered labels)[i]? = some (label, i) := by
      simp [TypeTree.numbered, hlabel]
    refine ⟨⟨propertyKey label, ?_, keyText?_propertyKey label⟩, hnumber⟩
    rw [List.getElem?_map, hnumber]
    rfl
  · intro exported' name' labels' h' hne heq
    have hlines := split_enumText h' exported' labels'
    rw [heq, split_enumText h] at hlines
    exact hne (labels_of_enumLines (List.append_cancel_right hlines)).symm

/-- A label that looks like the end of its line and of the enumeration stays on its line. -/
theorem enumText_lines_breaking :
    isIdentifier "Odd" = true ∧
      (∃ lines, (Text.split '\n'
          (enumText true "Odd" ["a", "b = 7,\n\x7d"]).toList).map String.ofList =
            "export enum Odd \x7b" :: lines ++ ["\x7d", "", ""] ∧
        lines.length = 2 ∧
        ∃ key : String, lines[1]? = some ("  " ++ key ++ " = " ++ toString 1 ++ ",") ∧
          keyText? key = some "b = 7,\n\x7d") ∧
      enumText false "Odd" ["a", "b"] ≠ enumText true "Odd" ["a", "b = 7,\n\x7d"] := by
  have hname : isIdentifier "Odd" = true := by decide
  obtain ⟨⟨lines, hlines, hlength, hkeys⟩, -, hne⟩ :=
    enumText_lines hname true ["a", "b = 7,\n\x7d"]
  exact ⟨hname, ⟨lines, hlines, hlength, (hkeys 1 _ rfl).1⟩, hne false "Odd" _ hname (by decide)⟩

end Codec.TypeScript

end Scaffold
