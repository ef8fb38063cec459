import Mathlib.Data.List.Forall2
import Scaffold.Json.Read
import Scaffold.Json.Text

/-!
# Quoted texts

A quoted text is read back as the text it was made from (`read?_quote`), whatever characters it has,
and nothing in it is a control character. So a quoted text cannot end early, and it stays on its
line.
-/

namespace Scaffold

namespace Json

/-- A character is written by a letter, by its code, or as it is. -/
theorem escapeChar_cases (c : Char) :
    (∃ letter, escapeChar c = ['\\', letter] ∧ escaped? letter = some c ∧ 0x20 ≤ letter.toNat) ∨
      (escapeChar c = ['\\', 'u', '0', '0', hexDigit (c.toNat / 16), hexDigit (c.toNat % 16)] ∧
        c.toNat < 0x20) ∨
      (escapeChar c = [c] ∧ c ≠ '"' ∧ c ≠ '\\' ∧ 0x20 ≤ c.toNat) := by
  by_cases hletter : c ∈ ['"', '\\', '\x08', '\x0c', '\n', '\r', '\t']
  · simp only [List.mem_cons, List.not_mem_nil, or_false] at hletter
    rcases hletter with rfl | rfl | rfl | rfl | rfl | rfl | rfl <;>
      exact Or.inl ⟨_, rfl, rfl, by decide⟩
  · simp only [List.mem_cons, List.not_mem_nil, or_false, not_or] at hletter
    obtain ⟨hquote, hslash, hb, hf, hn, hr, ht⟩ := hletter
    right
    by_cases hcontrol : c.toNat < 0x20
    · simp [escapeChar, hquote, hslash, hb, hf, hn, hr, ht, hcontrol]
    · have hvisible : 0x20 ≤ c.toNat := Nat.not_lt.1 hcontrol
      simp [escapeChar, hquote, hslash, hb, hf, hn, hr, ht, hcontrol, hvisible]

/-! ## Reading -/

/-- What the reader makes of a character before it puts pairs of codes together. -/
inductive Spells : Part → Char → Prop
  | char (c : Char) : Spells (.char c) c
  | code {c : Char} (h : c.toNat < 0x20) : Spells (.code c.toNat) c

theorem hexNumber?_hexDigit : ∀ n < 0x20,
    Text.hexNumber? ['0', '0', hexDigit (n / 16), hexDigit (n % 16)] = some n := by
  decide

theorem parts_letter {letter c : Char} (h : escaped? letter = some c) (more : List Char) :
    parts ('\\' :: letter :: more) = (parts more).map fun p => (.char c :: p.1, p.2) := by
  have hu : letter ≠ 'u' := by
    rintro rfl
    cases h
  cases hmore : parts more with
  | none => simp [parts, h, hmore, hu]
  | some p => simp [parts, h, hmore, hu]

theorem parts_code {n : Nat} (h : n < 0x20) (more : List Char) :
    parts ('\\' :: 'u' :: '0' :: '0' :: hexDigit (n / 16) :: hexDigit (n % 16) :: more) =
      (parts more).map fun p => (.code n :: p.1, p.2) := by
  cases hmore : parts more with
  | none => simp [parts, hexNumber?_hexDigit n h, hmore]
  | some p => simp [parts, hexNumber?_hexDigit n h, hmore]

theorem parts_plain {c : Char} (hquote : c ≠ '"') (hslash : c ≠ '\\') (hcontrol : 0x20 ≤ c.toNat)
    (more : List Char) : parts (c :: more) = (parts more).map fun p => (.char c :: p.1, p.2) := by
  have hvisible : ¬ c.toNat < 0x20 := Nat.not_lt.2 hcontrol
  cases hmore : parts more with
  | none => simp [parts, hmore, hvisible, hslash]
  | some p => simp [parts, hmore, hvisible, hslash]

theorem exists_parts_escapeChar (c : Char) : ∃ part, Spells part c ∧
    ∀ more, parts (escapeChar c ++ more) = (parts more).map fun p => (part :: p.1, p.2) := by
  rcases escapeChar_cases c with
    ⟨letter, hc, hletter, -⟩ | ⟨hc, hcode⟩ | ⟨hc, hquote, hslash, hcontrol⟩
  · exact ⟨_, .char c, fun more => by rw [hc]; exact parts_letter hletter more⟩
  · exact ⟨_, .code hcode, fun more => by rw [hc]; exact parts_code hcode more⟩
  · exact ⟨_, .char c, fun more => by rw [hc]; exact parts_plain hquote hslash hcontrol more⟩

theorem exists_parts_escape (cs rest : List Char) : ∃ ps, List.Forall₂ Spells ps cs ∧
    parts (cs.flatMap escapeChar ++ '"' :: rest) = some (ps, rest) := by
  induction cs with
  | nil => exact ⟨[], .nil, by simp [parts]⟩
  | cons c cs ih =>
      obtain ⟨ps, hps, hparts⟩ := ih
      obtain ⟨part, hpart, hstep⟩ := exists_parts_escapeChar c
      refine ⟨part :: ps, .cons hpart hps, ?_⟩
      rw [List.flatMap_cons, List.append_assoc, hstep, hparts]
      rfl

/-- Codes of control characters are no halves of pairs, so each stands for itself. -/
theorem characters_code {n : Nat} (h : n < 0x20) (ps : List Part) :
    characters (.code n :: ps) = (characters ps).map (Char.ofNat n :: ·) := by
  have hlow : ¬ 0xd800 ≤ n := by omega
  have hlow' : ¬ 0xdc00 ≤ n := by omega
  have hfirst : isFirstHalf n = false := by simp [isFirstHalf, hlow]
  have hsecond : isSecondHalf n = false := by simp [isSecondHalf, hlow']
  cases ps with
  | nil => simp [characters, hfirst, hsecond]
  | cons part ps =>
      cases part with
      | char c => simp [characters, hfirst, hsecond]
      | code m => simp [characters, hfirst, hsecond]

theorem characters_of_spells {ps : List Part} {cs : List Char} (h : List.Forall₂ Spells ps cs) :
    characters ps = some cs := by
  induction h with
  | nil => rfl
  | cons hpart _ ih =>
      cases hpart with
      | char c => rw [characters, ih, Option.map_some]
      | code hcode => rw [characters_code hcode, ih, Option.map_some, Char.ofNat_toNat]

theorem readText_escape (cs rest : List Char) :
    readText (cs.flatMap escapeChar ++ '"' :: rest) = some (String.ofList cs, rest) := by
  obtain ⟨ps, hps, hparts⟩ := exists_parts_escape cs rest
  simp [readText, hparts, characters_of_spells hps]

theorem readValue_text (n depth : Nat) (cs : List Char) :
    readValue (n + 1) depth ('"' :: cs) = (readText cs).map fun p => (.str p.1, p.2) := rfl

theorem toList_quote (s : String) :
    (quote s).toList = '"' :: (s.toList.flatMap escapeChar ++ ['"']) := by
  simp [quote]

/-- A quoted text spells the text, and nothing else. -/
theorem read?_quote (s : String) : read? (quote s) = some (.str s) := by
  rw [read?, toList_quote, readValue_text, readText_escape]
  simp [skipBlanks]

/-! ## Control characters -/

theorem le_toNat_hexDigit : ∀ n < 16, 0x20 ≤ (hexDigit n).toNat := by
  decide

theorem le_toNat_of_mem_escapeChar {c x : Char} (h : x ∈ escapeChar c) : 0x20 ≤ x.toNat := by
  rcases escapeChar_cases c with ⟨letter, hc, -, hletter⟩ | ⟨hc, hcode⟩ | ⟨hc, -, -, hcontrol⟩
  · have hmem : x = '\\' ∨ x = letter := by simpa [hc] using h
    rcases hmem with rfl | rfl
    · decide
    · exact hletter
  · have hdigits := le_toNat_hexDigit (c.toNat / 16) (by omega)
    have hdigits' := le_toNat_hexDigit (c.toNat % 16) (by omega)
    simp only [hc, List.mem_cons, List.not_mem_nil, or_false] at h
    rcases h with rfl | rfl | rfl | rfl | rfl | rfl
    · decide
    · decide
    · decide
    · decide
    · exact hdigits
    · exact hdigits'
  · rw [hc, List.mem_singleton] at h
    rwa [h]

theorem le_toNat_of_mem_quote {s : String} {x : Char} (h : x ∈ (quote s).toList) :
    0x20 ≤ x.toNat := by
  simp only [toList_quote, List.mem_cons, List.mem_append, List.mem_flatMap, List.not_mem_nil,
    or_false] at h
  rcases h with rfl | ⟨c, -, hc⟩ | rfl
  · decide
  · exact le_toNat_of_mem_escapeChar hc
  · decide

end Json

end Scaffold
