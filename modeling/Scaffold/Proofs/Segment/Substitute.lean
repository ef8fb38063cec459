import Scaffold.Proofs.Segment.Pattern

/-!
# Filling in the tokens of a name

Substituting keeps the plain texts of a name and puts the given texts in the places of its tokens.
Since this is read off the decomposition of the name, what stands in a given text plays no part: a
token in it is not a token of the name.

The same text comes out if the pattern of a token is searched for from left to right and every match
is replaced (`replaceAll_text`).
-/

namespace Scaffold.Segment

variable {cs key rest : List Char}

theorem length_lt_of_head?_tokenWays (h : (tokenWays cs).head? = some (key, rest)) :
    rest.length < cs.length := by
  rw [head?_tokenWays, Option.map_eq_some_iff] at h
  obtain ⟨⟨inner, after⟩, hfound, hsame⟩ := h
  cases hsame
  exact length_lt_of_tokenAt? hfound

/-- Replaces the matches of the pattern, from left to right. -/
def replaceAll (value : List Char → List Char) (cs : List Char) : List Char :=
  match cs with
  | [] => []
  | c :: cs =>
      match _h : (tokenWays (c :: cs)).head? with
      | some (key, rest) => value key ++ replaceAll value rest
      | none => c :: replaceAll value cs
termination_by cs.length
decreasing_by
  · exact length_lt_of_head?_tokenWays _h
  · simp

theorem replaceAll_of_some {value : List Char → List Char} {c : Char}
    (h : (tokenWays (c :: cs)).head? = some (key, rest)) :
    replaceAll value (c :: cs) = value key ++ replaceAll value rest := by
  rw [replaceAll]
  split
  · rename_i h'
    rw [h] at h'
    cases h'
    rfl
  · rename_i h'
    rw [h] at h'
    cases h'

theorem replaceAll_of_none {value : List Char → List Char} {c : Char}
    (h : (tokenWays (c :: cs)).head? = none) :
    replaceAll value (c :: cs) = c :: replaceAll value cs := by
  rw [replaceAll]
  split
  · rename_i h'
    rw [h] at h'
    cases h'
  · rfl

/-- A character, or what takes the place of a token. -/
def Piece.fill (value : List Char → List Char) : Piece → List Char
  | .char c => [c]
  | .token inner => value inner

theorem flatMap_fill_chars (value : List Char → List Char) (l : List Char) :
    (l.map Piece.char).flatMap (Piece.fill value) = l := by
  induction l with
  | nil => rfl
  | cons c l ih => rw [List.map_cons, List.flatMap_cons, ih, Piece.fill, List.singleton_append]

theorem Decomposition.flatMap_pieces (value : List Char → List Char) (d : Decomposition) :
    d.pieces.flatMap (Piece.fill value) = d.fill value := by
  rw [Decomposition.pieces, Decomposition.fill, List.flatMap_append, flatMap_fill_chars,
    List.flatMap_assoc]
  simp only [List.flatMap_cons, flatMap_fill_chars, Piece.fill]

theorem replaceAll_eq_flatMap (value : List Char → List Char) (cs : List Char) :
    replaceAll value cs =
      (pieces cs).flatMap (Piece.fill fun inner => value (tokenName inner).toList) := by
  fun_induction pieces cs with
  | case1 => rw [replaceAll, List.flatMap_nil]
  | case2 c cs inner rest h ih =>
      have hways := head?_tokenWays (c :: cs)
      rw [h, Option.map_some] at hways
      rw [replaceAll_of_some hways, ih, List.flatMap_cons, Piece.fill]
  | case3 c cs h ih =>
      have hways := head?_tokenWays (c :: cs)
      rw [h, Option.map_none] at hways
      rw [replaceAll_of_none hways, ih, List.flatMap_cons, Piece.fill, List.singleton_append]

theorem Decomposition.replaceAll_text (value : List Char → List Char) (d : Decomposition) :
    replaceAll value d.text = d.fill fun inner => value (tokenName inner).toList := by
  rw [replaceAll_eq_flatMap, d.pieces_text, d.flatMap_pieces]

/-- The text that is given for a name, or nothing. -/
def given (texts : Table String) (key : List Char) : List Char :=
  ((texts.get? (String.ofList key)).getD "").toList

theorem text_eq_fill (texts : Table String) :
    Piece.text texts = Piece.fill fun inner => given texts (tokenName inner).toList := by
  funext p
  cases p with
  | char c => rfl
  | token inner => rw [Piece.text, Piece.fill, given, String.ofList_toList]

theorem substitute_of_text {name : String} {d : Decomposition} (h : d.text = name.toList)
    (texts : Table String) :
    substitute texts name =
      String.ofList (d.fill fun inner => given texts (tokenName inner).toList) := by
  rw [substitute, ← h, d.pieces_text, text_eq_fill, d.flatMap_pieces]

theorem substitute_token {inner : List Char} (h : IsInner inner) (texts : Table String) :
    substitute texts (String.ofList (token inner)) = (texts.get? (tokenName inner)).getD "" := by
  have htext : Decomposition.text
      ⟨[], [(inner, [])], plain_nil, by simpa using h, by simpa using plain_nil⟩ =
        (String.ofList (token inner)).toList := by
    simp [Decomposition.text, Decomposition.fill]
  rw [substitute_of_text htext, Decomposition.fill, List.flatMap_singleton, List.append_nil,
    List.nil_append, given, String.ofList_toList, String.ofList_toList]

theorem filterMap_missing_chars (texts : Table String) (l : List Char) :
    (l.map Piece.char).filterMap (Piece.missing? texts) = [] := by
  rw [List.filterMap_map, List.filterMap_eq_nil_iff]
  intro c _
  rfl

theorem filterMap_missing_token (texts : Table String) (inner : List Char) (ps : List Piece) :
    (Piece.token inner :: ps).filterMap (Piece.missing? texts) =
      [tokenName inner].filter (fun key => key ∉ texts.keys) ++
        ps.filterMap (Piece.missing? texts) := by
  rw [List.filterMap_cons, Piece.missing?]
  by_cases hkey : tokenName inner ∈ texts.keys
  · rw [if_pos (Table.contains_eq_true_iff.2 hkey)]
    simp [hkey]
  · rw [if_neg (mt Table.contains_eq_true_iff.1 hkey)]
    simp [hkey]

theorem Decomposition.filterMap_missing (texts : Table String) (d : Decomposition) :
    d.pieces.filterMap (Piece.missing? texts) =
      (d.tokens.map tokenName).filter fun key => key ∉ texts.keys := by
  rw [Decomposition.pieces, Decomposition.tokens, List.filterMap_append, filterMap_missing_chars,
    List.nil_append]
  induction d.rest with
  | nil => rfl
  | cons p rest ih =>
      rw [List.flatMap_cons, List.cons_append, filterMap_missing_token, List.filterMap_append,
        filterMap_missing_chars, List.nil_append, ih, ← List.filter_append]
      rfl

/-- The name of a token has no blanks around it, unless there is nothing else. -/
theorem tokenName_cases {inner : List Char} (h : IsInner inner) :
    (¬ Text.Blank inner ∧ Text.Trims inner (tokenName inner).toList) ∨
      (Text.Blank inner ∧ ∃ c, inner.getLast? = some c ∧ (tokenName inner).toList = [c]) := by
  by_cases hblank : Text.Blank inner
  · have hlast := List.getLast?_eq_some_getLast h.ne_nil
    refine Or.inr ⟨hblank, inner.getLast h.ne_nil, hlast, ?_⟩
    rw [tokenName_of_blank hblank, hlast, String.toList_ofList]
    rfl
  · refine Or.inl ⟨hblank, ?_⟩
    rw [tokenName_of_not_blank hblank, String.toList_ofList]
    exact Text.trims_trim inner

/-- **Substituting fills in tokens.** A name is cut at its tokens in exactly one way. The plain
texts between them are kept, and each token is replaced by the text for its name, or by nothing and
with a warning if there is none. The name of a token is what stands between its braces, without the
blanks around it; or the last blank, if there is nothing else. Replacing the matches of the pattern
of a token, from left to right, comes to the same. -/
theorem substitute_decomposition (texts : Table String) (name : String) :
    (∃! d : Decomposition, d.text = name.toList) ∧
      ∀ d : Decomposition, d.text = name.toList →
        substitute texts name =
            String.ofList (d.fill fun inner => given texts (tokenName inner).toList) ∧
          warnings texts name =
            ((d.tokens.map tokenName).filter fun key => key ∉ texts.keys).map (fun key =>
              ⟨.warn, .expanding,
                "No substitution for path token '" ++ key ++ "' in '" ++ name ++ "'"⟩) ∧
          (∀ inner ∈ d.tokens,
            (¬ Text.Blank inner ∧ Text.Trims inner (tokenName inner).toList) ∨
              (Text.Blank inner ∧
                ∃ c, inner.getLast? = some c ∧ (tokenName inner).toList = [c])) ∧
          substitute texts name = String.ofList (replaceAll (given texts) name.toList) := by
  refine ⟨existsUnique_decomposition name.toList, ?_⟩
  intro d hd
  refine ⟨substitute_of_text hd texts, ?_, ?_, ?_⟩
  · rw [warnings, ← hd, d.pieces_text, d.filterMap_missing]
    rfl
  · intro inner hinner
    obtain ⟨p, hp, rfl⟩ := List.mem_map.1 hinner
    exact tokenName_cases (d.rest_inner p hp)
  · rw [substitute_of_text hd texts, ← hd, d.replaceAll_text]

/-- The name `{{{ a b }}-{{  }}{{no}}}}`. -/
def nested : Decomposition where
  first := ['\x7b']
  rest := [(" a b ".toList, ['-']), ("  ".toList, []), ("no".toList, ['\x7d', '\x7d'])]
  first_plain := plain_of_not_opened (by decide)
  rest_inner := by
    simp only [List.forall_mem_cons]
    exact ⟨by decide, by decide, by decide, by simp⟩
  rest_plain := by
    simp only [List.forall_mem_cons]
    exact ⟨plain_of_not_opened (by decide), plain_of_not_opened (by decide),
      plain_of_not_opened (by decide), by simp⟩

/-- The text that is given for `a b` holds a token, which stays. -/
theorem substitute_decomposition_nested :
    nested.text =
        "\x7b\x7b\x7b a b \x7d\x7d-\x7b\x7b  \x7d\x7d\x7b\x7bno\x7d\x7d\x7d\x7d".toList ∧
      substitute [("a b", "\x7b\x7bno\x7d\x7d")] (String.ofList nested.text) =
        "\x7b\x7b\x7bno\x7d\x7d-\x7d\x7d" ∧
      warnings [("a b", "\x7b\x7bno\x7d\x7d")] (String.ofList nested.text) =
        [" ", "no"].map (warning (String.ofList nested.text)) := by
  have hname : nested.text = (String.ofList nested.text).toList := by rw [String.toList_ofList]
  obtain ⟨-, hall⟩ := substitute_decomposition [("a b", "\x7b\x7bno\x7d\x7d")]
    (String.ofList nested.text)
  obtain ⟨hsubstitute, hwarnings, -, -⟩ := hall nested hname
  refine ⟨by decide, ?_, ?_⟩
  · rw [hsubstitute]
    decide
  · rw [hwarnings]
    decide

end Scaffold.Segment
