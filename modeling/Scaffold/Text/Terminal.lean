import Scaffold.Text.Quoted

/-!
# Texts for a terminal

A terminal takes some characters as commands. In a text that is shown there they are spelled out,
so a text from a file cannot move the cursor or change colours. A text without such characters is
shown as it is (`shown_eq_self`).
-/

namespace Scaffold.Text

/-- Whether a character is a command of one byte: bell, backspace, form feed, escape, delete. -/
def isCommand (c : Char) : Bool :=
  c == '\x07' || c == '\x08' || c == '\x0c' || c == '\x1b' || c == '\x7f'

/-- Whether a character is one of the commands beyond the first 128 characters. -/
def isLateCommand (c : Char) : Bool := 0x80 ≤ c.toNat && c.toNat ≤ 0x9f

/-- One character as it is shown. -/
def shownChar (c : Char) : List Char :=
  if isCommand c then
    let digits := hexDigits c.toNat
    ['\\', 'x'] ++ List.replicate (2 - digits.length) '0' ++ digits
  else if isLateCommand c then ['\\', 'u', '\x7b'] ++ hexDigits c.toNat ++ ['\x7d']
  else [c]

/-- A text as it is shown. -/
def shown (s : String) : String := String.ofList (s.toList.flatMap shownChar)

theorem flatMap_shownChar {cs : List Char}
    (h : ∀ c ∈ cs, isCommand c = false ∧ isLateCommand c = false) : cs.flatMap shownChar = cs := by
  induction cs with
  | nil => rfl
  | cons c cs ih =>
    have hc := h c (by simp)
    have hcs := ih fun x hx => h x (by simp [hx])
    simp [hcs, shownChar, hc]

/-- A text without commands is shown as it is. -/
theorem shown_eq_self {s : String}
    (h : ∀ c ∈ s.toList, isCommand c = false ∧ isLateCommand c = false) : shown s = s := by
  simp [shown, flatMap_shownChar h]

end Scaffold.Text
