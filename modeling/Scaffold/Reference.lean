/-!
# References to types

A reference is a name with any number of marks behind it: `?` for a value that may be missing and
`[]` for a list. Reading takes marks off the end for as long as there are any, so the name at the
core never ends in a mark, and writing gives the text back (`text_ofText`).
-/

namespace Scaffold

/-- A name with its marks, the last mark outermost. -/
inductive Reference where
  | core (name : String)
  | optional (inner : Reference)
  | array (inner : Reference)
deriving Repr, DecidableEq

namespace Reference

/-- The name at the core. -/
def base : Reference → String
  | .core name => name
  | .optional inner => inner.base
  | .array inner => inner.base

/-- The reference as it is written. -/
def text : Reference → String
  | .core name => name
  | .optional inner => inner.text ++ "?"
  | .array inner => inner.text ++ "[]"

/-- Reads a reference whose characters come last first. -/
def ofReversed : List Char → Reference
  | '?' :: cs => .optional (ofReversed cs)
  | ']' :: '[' :: cs => .array (ofReversed cs)
  | cs => .core (String.ofList cs.reverse)

/-- Reads a reference. -/
def ofText (s : String) : Reference := ofReversed s.toList.reverse

theorem text_ofReversed (cs : List Char) : (ofReversed cs).text = String.ofList cs.reverse := by
  fun_induction ofReversed cs with
  | case1 cs ih => simp [text, ih]
  | case2 cs ih => simp [text, ih]
  | case3 cs => rfl

@[simp] theorem text_ofText (s : String) : (ofText s).text = s := by
  simp [ofText, text_ofReversed]

end Reference

end Scaffold
