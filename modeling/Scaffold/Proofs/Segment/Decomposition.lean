import Mathlib.Data.List.Infix
import Mathlib.Data.List.TakeWhile
import Scaffold.Segment

/-!
# The tokens of a name

A name is cut at its tokens into plain texts, which hold no token, and what stands between the
braces of the tokens. There is exactly one way to do this (`existsUnique_decomposition`): two tokens
cannot overlap, since a token has two opening braces at its start and no other one. So where a token
stands in the name, every decomposition has to cut it out.

`pieces` finds the decomposition from left to right (`Decomposition.pieces_text`).
-/

namespace Scaffold.Segment

variable {c : Char} {cs inner rest l t : List Char}

/-- What can stand between the braces of a token. -/
structure IsInner (inner : List Char) : Prop where
  ne_nil : inner ≠ []
  not_brace : ∀ c ∈ inner, isBrace c = false

theorem isInner_iff : IsInner inner ↔ (!inner.isEmpty && inner.all (!isBrace ·)) = true := by
  constructor
  · rintro ⟨hne, hbrace⟩
    simpa [hne] using hbrace
  · intro h
    have hboth : inner ≠ [] ∧ ∀ c ∈ inner, isBrace c = false := by simpa using h
    exact ⟨hboth.1, hboth.2⟩

instance : DecidablePred IsInner := fun _ => decidable_of_iff _ isInner_iff.symm

/-- The token that has this text between its braces. -/
def token (inner : List Char) : List Char :=
  '\x7b' :: '\x7b' :: (inner ++ ['\x7d', '\x7d'])

/-- The text holds no token. -/
def Plain (l : List Char) : Prop := ∀ inner, IsInner inner → ¬ token inner <:+: l

/-- The text is empty or starts with a token. -/
def Opens (t : List Char) : Prop :=
  t = [] ∨ ∃ inner rest, IsInner inner ∧ t = token inner ++ rest

theorem tokenAt?_eq_some_iff :
    tokenAt? cs = some (inner, rest) ↔ IsInner inner ∧ cs = token inner ++ rest := by
  constructor
  · intro h
    unfold tokenAt? at h
    split at h
    · rename_i cs
      split at h
      · rename_i c inner' rest' htake hdrop
        cases h
        have hsplit := List.takeWhile_append_dropWhile (p := (!isBrace ·)) (l := cs)
        rw [htake, hdrop] at hsplit
        refine ⟨⟨List.cons_ne_nil _ _, ?_⟩, ?_⟩
        · intro x hx
          rw [← htake] at hx
          simpa using List.mem_takeWhile_imp hx
        · rw [← hsplit]
          simp [token]
      · cases h
    · cases h
  · rintro ⟨hinner, rfl⟩
    have hpos : ∀ x ∈ inner, (!isBrace x) = true := by
      intro x hx
      rw [hinner.not_brace x hx]
      rfl
    have htake : (inner ++ '\x7d' :: '\x7d' :: rest).takeWhile (!isBrace ·) = inner := by
      rw [List.takeWhile_append_of_pos hpos]
      exact List.append_nil inner
    have hdrop : (inner ++ '\x7d' :: '\x7d' :: rest).dropWhile (!isBrace ·) =
        '\x7d' :: '\x7d' :: rest := by
      rw [List.dropWhile_append_of_pos hpos]
      rfl
    have htext : token inner ++ rest = '\x7b' :: '\x7b' :: (inner ++ '\x7d' :: '\x7d' :: rest) := by
      simp [token]
    obtain ⟨c, inner, rfl⟩ := List.exists_cons_of_ne_nil hinner.ne_nil
    rw [htext, tokenAt?, htake, hdrop]
    rfl

/-! ## Plain texts -/

theorem Plain.tail (h : Plain (c :: l)) : Plain l := by
  intro inner hinner htoken
  exact h inner hinner (List.infix_cons htoken)

theorem plain_nil : Plain [] := by
  intro inner _ htoken
  exact List.cons_ne_nil _ _ (List.infix_nil.1 htoken)

theorem plain_cons_iff : Plain (c :: l) ↔ (∀ inner, IsInner inner → ¬ token inner <+: c :: l) ∧
    Plain l := by
  constructor
  · intro h
    exact ⟨fun inner hinner htoken => h inner hinner htoken.isInfix, h.tail⟩
  · rintro ⟨hfront, htail⟩ inner hinner htoken
    rcases List.infix_cons_iff.1 htoken with hstart | hlater
    · exact hfront inner hinner hstart
    · exact htail inner hinner hlater

/-- A text without two opening braces in a row holds no token. -/
theorem plain_of_not_opened (h : ¬ ['\x7b', '\x7b'] <:+: l) : Plain l := by
  intro inner _ htoken
  have hopen : ['\x7b', '\x7b'] <:+: token inner := ⟨[], inner ++ ['\x7d', '\x7d'], rfl⟩
  exact h (hopen.trans htoken)

theorem open_not_mem (h : IsInner inner) : '\x7b' ∉ inner ++ ['\x7d', '\x7d'] := by
  intro hmem
  rcases List.mem_append.1 hmem with hinner | hclose
  · exact absurd (h.not_brace _ hinner) (by decide)
  · exact absurd hclose (by decide)

/-- No token starts in a plain text, not even one that ends behind it. -/
theorem tokenAt?_eq_none (hplain : Plain (c :: l)) (ht : Opens t) :
    tokenAt? (c :: (l ++ t)) = none := by
  rw [Option.eq_none_iff_forall_not_mem]
  rintro ⟨inner, rest⟩ h
  obtain ⟨hinner, htext⟩ := tokenAt?_eq_some_iff.1 h
  rw [← List.cons_append] at htext
  rcases List.append_eq_append_iff.1 htext with ⟨more, htoken, hmore⟩ | ⟨more, hl, -⟩
  · cases more with
    | nil =>
        rw [List.append_nil] at htoken
        exact hplain inner hinner (htoken ▸ List.infix_rfl)
    | cons x more =>
        -- the token goes on behind the plain text, where another token starts
        obtain rfl | ⟨other, after, -, rfl⟩ := ht
        · cases hmore
        · obtain ⟨rfl, hnext⟩ := List.cons.inj hmore
          obtain ⟨-, hlater⟩ := List.cons.inj htoken
          cases l with
          | nil =>
              obtain ⟨-, rfl⟩ := List.cons.inj hlater
              obtain ⟨y, inner, rfl⟩ := List.exists_cons_of_ne_nil hinner.ne_nil
              obtain ⟨rfl, -⟩ := List.cons.inj hnext
              exact open_not_mem hinner (by simp)
          | cons y l =>
              obtain ⟨-, htail⟩ := List.cons.inj hlater
              apply open_not_mem hinner
              rw [htail]
              simp
  · exact hplain inner hinner ⟨[], more, hl.symm⟩

/-! ## Cutting a text into pieces -/

theorem pieces_nil : pieces [] = [] := by
  rw [pieces]

theorem pieces_of_token (h : tokenAt? (c :: cs) = some (inner, rest)) :
    pieces (c :: cs) = .token inner :: pieces rest := by
  rw [pieces]
  split
  · rename_i h'
    rw [h] at h'
    cases h'
    rfl
  · rename_i h'
    rw [h] at h'
    cases h'

theorem pieces_of_none (h : tokenAt? (c :: cs) = none) :
    pieces (c :: cs) = .char c :: pieces cs := by
  rw [pieces]
  split
  · rename_i h'
    rw [h] at h'
    cases h'
  · rfl

theorem pieces_token_append (h : IsInner inner) (t : List Char) :
    pieces (token inner ++ t) = .token inner :: pieces t :=
  pieces_of_token (tokenAt?_eq_some_iff.2 ⟨h, rfl⟩)

theorem pieces_plain_append (hl : Plain l) (ht : Opens t) :
    pieces (l ++ t) = l.map .char ++ pieces t := by
  induction l with
  | nil => rfl
  | cons c l ih =>
      rw [List.cons_append, pieces_of_none (tokenAt?_eq_none hl ht), ih hl.tail]
      rfl

/-- A name that is cut at its tokens: a plain text, and then the tokens, each with the plain text
behind it. -/
@[ext] structure Decomposition where
  first : List Char
  rest : List (List Char × List Char)
  first_plain : Plain first
  rest_inner : ∀ p ∈ rest, IsInner p.1
  rest_plain : ∀ p ∈ rest, Plain p.2

namespace Decomposition

/-- The plain texts, with something else in the places of the tokens. -/
def fill (value : List Char → List Char) (d : Decomposition) : List Char :=
  d.first ++ d.rest.flatMap fun p => value p.1 ++ p.2

/-- The name that is cut. -/
def text (d : Decomposition) : List Char := d.fill token

/-- What stands between the braces of the tokens, in order. -/
def tokens (d : Decomposition) : List (List Char) := d.rest.map Prod.fst

def pieces (d : Decomposition) : List Piece :=
  d.first.map .char ++ d.rest.flatMap fun p => .token p.1 :: p.2.map .char

theorem pieces_text (d : Decomposition) : Segment.pieces d.text = d.pieces := by
  obtain ⟨first, rest, hfirst, hinner, hplain⟩ := d
  change Segment.pieces (first ++ rest.flatMap fun p => token p.1 ++ p.2) =
    first.map .char ++ rest.flatMap fun p => .token p.1 :: p.2.map .char
  induction rest generalizing first with
  | nil =>
      rw [List.flatMap_nil, pieces_plain_append hfirst (Or.inl rfl), pieces_nil, List.flatMap_nil]
  | cons p rest ih =>
      obtain ⟨hp, hinner⟩ := List.forall_mem_cons.1 hinner
      obtain ⟨hnext, hplain⟩ := List.forall_mem_cons.1 hplain
      rw [List.flatMap_cons, List.append_assoc,
        pieces_plain_append hfirst (Or.inr ⟨p.1, _, hp, rfl⟩), pieces_token_append hp,
        ih p.2 hnext hinner hplain, List.flatMap_cons, List.cons_append]

/-- Puts the characters between two tokens together again. -/
def regroup : List Piece → List Char × List (List Char × List Char)
  | [] => ([], [])
  | .char c :: ps => (c :: (regroup ps).1, (regroup ps).2)
  | .token inner :: ps => ([], (inner, (regroup ps).1) :: (regroup ps).2)

theorem regroup_map_append (l : List Char) (ps : List Piece) :
    regroup (l.map .char ++ ps) = (l ++ (regroup ps).1, (regroup ps).2) := by
  induction l with
  | nil => rfl
  | cons c l ih => rw [List.map_cons, List.cons_append, regroup, ih, List.cons_append]

theorem regroup_pieces (d : Decomposition) : regroup d.pieces = (d.first, d.rest) := by
  have hrest : ∀ rest : List (List Char × List Char),
      regroup (rest.flatMap fun p => .token p.1 :: p.2.map .char) = ([], rest) := by
    intro rest
    induction rest with
    | nil => rfl
    | cons p rest ih =>
        rw [List.flatMap_cons, List.cons_append, regroup, regroup_map_append, ih, List.append_nil]
  rw [pieces, regroup_map_append, hrest, List.append_nil]

theorem text_injective : Function.Injective text := by
  intro d d' h
  have hpieces : d.pieces = d'.pieces := by rw [← pieces_text, h, pieces_text]
  have hgroups : (d.first, d.rest) = (d'.first, d'.rest) := by
    rw [← regroup_pieces, hpieces, regroup_pieces]
  exact Decomposition.ext (congrArg Prod.fst hgroups) (congrArg Prod.snd hgroups)

end Decomposition

theorem exists_decomposition (cs : List Char) : ∃ d : Decomposition, d.text = cs := by
  fun_induction pieces cs with
  | case1 => exact ⟨⟨[], [], plain_nil, by simp, by simp⟩, rfl⟩
  | case2 c cs inner rest h ih =>
      obtain ⟨hinner, htext⟩ := tokenAt?_eq_some_iff.1 h
      obtain ⟨d, rfl⟩ := ih
      refine ⟨⟨[], (inner, d.first) :: d.rest, plain_nil, ?_, ?_⟩, ?_⟩
      · exact List.forall_mem_cons.2 ⟨hinner, d.rest_inner⟩
      · exact List.forall_mem_cons.2 ⟨d.first_plain, d.rest_plain⟩
      · rw [htext]
        simp [Decomposition.text, Decomposition.fill]
  | case3 c cs h ih =>
      obtain ⟨d, rfl⟩ := ih
      have hplain : Plain (c :: d.first) := by
        refine plain_cons_iff.2 ⟨?_, d.first_plain⟩
        rintro inner hinner ⟨after, hafter⟩
        have hsome : tokenAt? (c :: d.text) =
            some (inner, after ++ d.rest.flatMap fun p => token p.1 ++ p.2) := by
          refine tokenAt?_eq_some_iff.2 ⟨hinner, ?_⟩
          rw [← List.append_assoc, hafter]
          rfl
        rw [h] at hsome
        cases hsome
      exact ⟨⟨c :: d.first, d.rest, hplain, d.rest_inner, d.rest_plain⟩, rfl⟩

theorem existsUnique_decomposition (cs : List Char) : ∃! d : Decomposition, d.text = cs := by
  obtain ⟨d, hd⟩ := exists_decomposition cs
  refine ⟨d, hd, ?_⟩
  intro d' hd'
  exact Decomposition.text_injective (hd'.trans hd.symm)

end Scaffold.Segment
