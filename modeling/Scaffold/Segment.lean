import Scaffold.Log
import Scaffold.Table
import Scaffold.Text.Blank

/-!
# Names of template directories

The name of a template directory may hold tokens: text between double braces that has no brace in
it. Blanks around the text do not count. Each token is replaced by the text that is given for it,
or by nothing; what takes its place is not looked at again.
-/

namespace Scaffold.Segment

/-- A brace of either kind. -/
def isBrace (c : Char) : Bool := c == '\x7b' || c == '\x7d'

/-- What stands between the braces of a token at the front, and what follows the token. -/
def tokenAt? : List Char → Option (List Char × List Char)
  | '\x7b' :: '\x7b' :: cs =>
      match cs.takeWhile (!isBrace ·), cs.dropWhile (!isBrace ·) with
      | c :: inner, '\x7d' :: '\x7d' :: rest => some (c :: inner, rest)
      | _, _ => none
  | _ => none

theorem length_lt_of_tokenAt? {cs inner rest : List Char} (h : tokenAt? cs = some (inner, rest)) :
    rest.length < cs.length := by
  unfold tokenAt? at h
  split at h
  · rename_i cs
    split at h
    · rename_i hdrop
      obtain ⟨rfl, rfl⟩ : _ ∧ _ := by simpa using h
      have := (List.dropWhile_sublist (l := cs) (!isBrace ·)).length_le
      rw [hdrop] at this
      simp at this ⊢
      omega
    · simp at h
  · simp at h

/-- A character of a name that is kept, or what stands between the braces of a token. -/
inductive Piece where
  | char (c : Char)
  | token (inner : List Char)
deriving Repr, DecidableEq

/-- Cuts a name into pieces. The first place where a token can start is where it starts. -/
def pieces (cs : List Char) : List Piece :=
  match cs with
  | [] => []
  | c :: rest =>
      match _h : tokenAt? (c :: rest) with
      | some (inner, rest') => .token inner :: pieces rest'
      | none => .char c :: pieces rest
termination_by cs.length
decreasing_by
  · exact length_lt_of_tokenAt? _h
  · simp

/-- The name of a token: the text between the braces without the blanks around it. If there are
only blanks, it is the last of them. -/
def tokenName (inner : List Char) : String :=
  match Text.trim inner with
  | [] => String.ofList inner.getLast?.toList
  | cs => String.ofList cs

/-- The text that takes the place of a piece. -/
def Piece.text (texts : Table String) : Piece → List Char
  | .char c => [c]
  | .token inner => ((texts.get? (tokenName inner)).getD "").toList

/-- The name of a token for which no text is given. -/
def Piece.missing? (texts : Table String) : Piece → Option String
  | .char _ => none
  | .token inner => if texts.contains (tokenName inner) then none else some (tokenName inner)

/-- The warning about a token for which no text is given. -/
def warning (name token : String) : Event :=
  ⟨.warn, .expanding, "No substitution for path token '" ++ token ++ "' in '" ++ name ++ "'"⟩

/-- Replaces the tokens of a name. -/
def substitute (texts : Table String) (name : String) : String :=
  String.ofList ((pieces name.toList).flatMap (Piece.text texts))

/-- The warnings about the tokens of a name, in order. -/
def warnings (texts : Table String) (name : String) : List Event :=
  ((pieces name.toList).filterMap (Piece.missing? texts)).map (warning name)

end Scaffold.Segment
