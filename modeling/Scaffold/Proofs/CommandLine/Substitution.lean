import Scaffold.CommandLine.Arguments
import Scaffold.Proofs.Segment.Substitute
import Scaffold.Proofs.Table

/-!
# Keys of the command line and tokens of names

A substitution of the command line is written for a token. Blanks around its key do not count, nor
do blanks around the name of a token, so the two meet whatever blanks are written
(`trim_eq_tokenName_iff`). A token of blanks only has a name that is a blank, and no key is one.
-/

namespace Scaffold.CommandLine

variable {text : String} {key value inner : List Char}

/-- The text before the first equals sign, and the text behind it. -/
structure Splits (text : String) (key value : List Char) : Prop where
  toList_eq : text.toList = key ++ '=' :: value
  not_mem : '=' ∉ key

theorem splits_iff :
    Splits text key value ↔ text.toList.takeWhile (· != '=') = key ∧
      text.toList.dropWhile (· != '=') = '=' :: value := by
  constructor
  · rintro ⟨htext, hkey⟩
    have hpos : ∀ c ∈ key, (c != '=') = true := by
      intro c hc
      have hne : c ≠ '=' := fun h => hkey (h ▸ hc)
      simpa using hne
    rw [htext, List.takeWhile_append_of_pos hpos, List.dropWhile_append_of_pos hpos]
    simp
  · rintro ⟨rfl, hdrop⟩
    refine ⟨?_, ?_⟩
    · rw [← hdrop, List.takeWhile_append_dropWhile]
    · intro hmem
      simpa using List.mem_takeWhile_imp hmem

theorem Splits.unique {key' value' : List Char} (h : Splits text key value)
    (h' : Splits text key' value') : key = key' ∧ value = value' := by
  obtain ⟨hkey, hvalue⟩ := splits_iff.1 h
  obtain ⟨hkey', hvalue'⟩ := splits_iff.1 h'
  rw [hvalue] at hvalue'
  exact ⟨hkey.symm.trans hkey', (List.cons.inj hvalue').2⟩

theorem parseSubstitution_of_splits (h : Splits text key value) (hkey : ¬ Text.Blank key) :
    parseSubstitution text = .ok (String.ofList (Text.trim key), String.ofList value) := by
  obtain ⟨htake, hdrop⟩ := splits_iff.1 h
  rw [parseSubstitution, hdrop, htake]
  split
  · rename_i hnil
    cases hnil
  · rename_i hcons
    cases hcons
    split
    · rename_i hnil
      exact absurd (Text.trim_eq_nil_iff.1 hnil) hkey
    · rfl

theorem parseSubstitution_eq_ok_iff {p : String × String} :
    parseSubstitution text = .ok p ↔ ∃ key value, Splits text key value ∧ ¬ Text.Blank key ∧
      p = (String.ofList (Text.trim key), String.ofList value) := by
  constructor
  · intro h
    rw [parseSubstitution] at h
    split at h
    · cases h
    · rename_i c value hdrop
      have hc : c = '=' := by
        have hnot := List.head?_dropWhile_not (· != '=') text.toList
        rw [hdrop] at hnot
        simpa using hnot
      subst hc
      split at h
      · cases h
      · rename_i hne
        cases h
        exact ⟨_, value, splits_iff.2 ⟨rfl, hdrop⟩, mt Text.trim_eq_nil_iff.2 hne, rfl⟩
  · rintro ⟨key, value, hsplits, hkey, rfl⟩
    exact parseSubstitution_of_splits hsplits hkey

theorem isBlank_of_mem_tokenName (hblank : Text.Blank inner) :
    ∀ c ∈ (Segment.tokenName inner).toList, Text.isBlank c = true := by
  intro c hc
  rw [Segment.tokenName_of_blank hblank, String.toList_ofList, Option.mem_toList] at hc
  exact hblank c (List.mem_of_getLast? hc)

/-- The key of a substitution is the name of a token if they are the same up to blanks. -/
theorem trim_eq_tokenName_iff (hkey : ¬ Text.Blank key) :
    String.ofList (Text.trim key) = Segment.tokenName inner ↔ Text.trim key = Text.trim inner := by
  by_cases hblank : Text.Blank inner
  · have hne : Text.trim key ≠ [] := fun hnil => hkey (Text.trim_eq_nil_iff.1 hnil)
    apply iff_of_false
    · intro hname
      obtain ⟨c, rest, hcons⟩ := List.exists_cons_of_ne_nil hne
      have hfirst : Text.isBlank c = false := (Text.trims_trim key).head c (by rw [hcons]; rfl)
      have hc : Text.isBlank c = true := by
        apply isBlank_of_mem_tokenName hblank
        rw [← hname, String.toList_ofList, hcons]
        exact List.mem_cons_self
      rw [hfirst] at hc
      cases hc
    · rw [Text.trim_eq_nil_iff.2 hblank]
      exact hne
  · rw [Segment.tokenName_of_not_blank hblank, String.ofList_inj]

/-- The text is written for the token: its key is the text of the token, up to blanks. -/
def WrittenFor (inner : List Char) (text : String) : Prop :=
  ∃ key value, Splits text key value ∧ Text.trim key = Text.trim inner

theorem writtenFor_iff (h : Splits text key value) :
    WrittenFor inner text ↔ Text.trim key = Text.trim inner := by
  constructor
  · rintro ⟨key', value', hsplits, htrim⟩
    rw [(h.unique hsplits).1, htrim]
  · intro htrim
    exact ⟨key, value, h, htrim⟩

theorem fst_eq_tokenName_iff {p : String × String} (h : parseSubstitution text = .ok p) :
    p.1 = Segment.tokenName inner ↔ WrittenFor inner text := by
  obtain ⟨key, value, hsplits, hkey, rfl⟩ := parseSubstitution_eq_ok_iff.1 h
  rw [trim_eq_tokenName_iff hkey, writtenFor_iff hsplits]

/-- If no text is written for a token, no key is its name. -/
theorem tokenName_not_mem_keys {texts : List String} {pairs : List (String × String)}
    (h : List.Forall₂ (fun text p => parseSubstitution text = .ok p) texts pairs)
    (hnone : ∀ text ∈ texts, ¬ WrittenFor inner text) :
    Segment.tokenName inner ∉ Table.keys pairs := by
  intro hmem
  obtain ⟨p, hp, hname⟩ := List.mem_map.1 hmem
  obtain ⟨text, htext, hparse⟩ := Table.exists_mem_of_forall₂ h.flip hp
  exact hnone text htext ((fst_eq_tokenName_iff hparse).1 hname)

/-- **Keys and tokens agree.** A text is a substitution exactly if it has an equals sign and what
stands before the first one is not blank. A token is replaced by what stands behind the first equals
sign of the last substitution that is written for it, and by nothing if there is none. -/
theorem substitute_texts :
    (∀ text, (∃ p, parseSubstitution text = .ok p) ↔
      ∃ key value, Splits text key value ∧ ¬ Text.Blank key) ∧
    ∀ (a : Arguments) (texts : List String),
      List.Forall₂ (fun text p => parseSubstitution text = .ok p) texts a.substitutions →
      ∀ inner, Segment.IsInner inner →
        (∀ before text after key value, texts = before ++ text :: after →
          Splits text key value → Text.trim key = Text.trim inner →
          (∀ later ∈ after, ¬ WrittenFor inner later) →
          Segment.substitute a.texts (String.ofList (Segment.token inner)) =
            String.ofList value) ∧
        ((∀ text ∈ texts, ¬ WrittenFor inner text) →
          Segment.substitute a.texts (String.ofList (Segment.token inner)) = "") := by
  refine ⟨?_, ?_⟩
  · intro text
    constructor
    · rintro ⟨p, hp⟩
      obtain ⟨key, value, hsplits, hkey, -⟩ := parseSubstitution_eq_ok_iff.1 hp
      exact ⟨key, value, hsplits, hkey⟩
    · rintro ⟨key, value, hsplits, hkey⟩
      exact ⟨_, parseSubstitution_of_splits hsplits hkey⟩
  · intro a texts hparse inner hinner
    refine ⟨?_, ?_⟩
    · rintro before text after key value rfl hsplits htrim hlater
      obtain ⟨before', ⟨name, given⟩, after', hpairs, hp, hafter⟩ :=
        Table.exists_split_of_forall₂ hparse
      have hname : name = Segment.tokenName inner :=
        (fst_eq_tokenName_iff hp).2 ⟨key, value, hsplits, htrim⟩
      have hgiven : given = String.ofList value := by
        obtain ⟨key', value', hsplits', -, hpair⟩ := parseSubstitution_eq_ok_iff.1 hp
        rw [(Prod.mk.inj hpair).2, (hsplits.unique hsplits').2]
      rw [Segment.substitute_token hinner, Arguments.texts, hpairs, hname,
        Table.get?_ofPairs_of_last (tokenName_not_mem_keys hafter hlater), hgiven]
      rfl
    · intro hnone
      rw [Segment.substitute_token hinner, Arguments.texts,
        Table.get?_ofPairs_of_not_mem (tokenName_not_mem_keys hparse hnone)]
      rfl

/-- What a command line asks for that gives a text for `module` twice, with different blanks. -/
def repeated : Arguments where
  verbose := false
  root := "app"
  templates := "tpl"
  output := none
  substitutions := [("module", "game=1"), ("module", "shared"), ("other", " x")]

theorem substitute_texts_repeated :
    Arguments.read ["generate", "app", "-t", "tpl", "--arg", " module =game=1", "-a",
        "module\u2003=shared", "--arg=other= x"] = .ok repeated ∧
      Segment.substitute repeated.texts (String.ofList (Segment.token "\tmodule ".toList)) =
        "shared" ∧
      Segment.substitute repeated.texts (String.ofList (Segment.token "  ".toList)) = "" := by
  have hgame : Splits " module =game=1" " module ".toList "game=1".toList :=
    ⟨by decide, by decide⟩
  have hshared : Splits "module\u2003=shared" "module\u2003".toList "shared".toList :=
    ⟨by decide, by decide⟩
  have hother : Splits "other= x" "other".toList " x".toList := ⟨by decide, by decide⟩
  have hparse : List.Forall₂ (fun text p => parseSubstitution text = .ok p)
      [" module =game=1", "module\u2003=shared", "other= x"] repeated.substitutions :=
    .cons rfl (.cons rfl (.cons rfl .nil))
  obtain ⟨-, hall⟩ := substitute_texts
  refine ⟨by decide, ?_, ?_⟩
  · obtain ⟨hlast, -⟩ := hall repeated _ hparse "\tmodule ".toList (by decide)
    refine hlast [" module =game=1"] _ ["other= x"] _ _ rfl hshared (by decide) ?_
    intro later hlater
    rw [List.mem_singleton.1 hlater, writtenFor_iff hother]
    decide
  · obtain ⟨-, hnone⟩ := hall repeated _ hparse "  ".toList (by decide)
    apply hnone
    simp only [List.forall_mem_cons, writtenFor_iff hgame, writtenFor_iff hshared,
      writtenFor_iff hother]
    exact ⟨by decide, by decide, by decide, List.forall_mem_nil _⟩

end Scaffold.CommandLine
