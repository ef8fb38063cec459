import Mathlib.Data.List.Forall2
import Scaffold.Proofs.Codec.References
import Scaffold.Proofs.Codec.Unfold
import Scaffold.Proofs.Resolver.Resolvable

/-!
# Resolved types and definitions agree

A declared type can be resolved to a tree, and it has a definition that refers to other definitions.
If the table has definitions and no declared name is marked, resolving a declared name fails at most
because the name leads to one that reaches itself, and its tree is the unfolding of its definition
up to alias marks and labels (`resolveText_agrees`).

The tree of a reference is followed along its derivation. Under the assumption, a reference that is
met in a field is a name with one mark at most, and all others are names without a mark.
-/

namespace Scaffold

namespace Resolver

open Codec

variable {types : Declarations} {defs : Table Definition}

/-- Declared options are fields without a modifier. -/
theorem fieldOf_optionMembers (hmarks : ∀ n ∈ types.keys, ¬ Reference.Marked n)
    {items : List String} (hall : items.all types.contains = true) :
    List.Forall₂ (FieldOf types) (TypeExpr.optionMembers items)
      (items.map fun n => (n, ({ base := .reference n } : Field))) := by
  refine List.forall₂_map_left_iff.2 (List.forall₂_map_right_iff.2 (List.forall₂_same.2 ?_))
  intro item hitem
  have hdeclared := List.all_eq_true.1 hall item hitem
  refine ⟨rfl, item, rfl, ?_⟩
  rw [ofText_eq_ok_iff,
    splitModifier_eq_self (hmarks item (Table.contains_eq_true_iff.1 hdeclared))]
  exact ⟨ofName_eq_ok_iff.2 (Or.inl ⟨hdeclared, rfl⟩), rfl⟩

mutual

theorem RefTree.unfolds (hdefs : definitions types = .ok defs)
    (hmarks : ∀ n ∈ types.keys, ¬ Reference.Marked n) :
    ∀ {ref : Reference} {isAlias : Bool} {label : String} {tree : TypeTree},
      (plain types).RefTree ref isAlias label tree →
        ∀ (modifier : Option Modifier) (n : String) (base : Base), ref = mark modifier (.core n) →
          Base.ofName types n = .ok base →
            ∃ inner, BaseUnfolds defs base inner ∧ tree.erase = modified modifier inner
  | _, _, _, _, .declared hbody htree => by
      intro modifier n base href hbase
      -- the derivation is used before `href` fixes its reference
      obtain ⟨d, hget, hd⟩ := get?_of_definitions_ok hdefs hbody
      have hunfolds := ExprTree.unfolds hdefs hmarks htree _ d hd
      obtain ⟨rfl, rfl⟩ := mark_eq_core.1 href.symm
      rcases ofName_eq_ok_iff.1 hbase with ⟨-, rfl⟩ | ⟨hundeclared, -⟩
      · exact ⟨_, .reference hget hunfolds, rfl⟩
      · have hdeclared := isDeclared_of_get? hbody
        exact absurd (hdeclared.symm.trans hundeclared) (by simp)
  | _, _, _, _, .primitive hbody hkind => by
      intro modifier n base href hbase
      obtain ⟨rfl, rfl⟩ := mark_eq_core.1 href.symm
      rcases ofName_eq_ok_iff.1 hbase with ⟨hdeclared, -⟩ | ⟨-, kind, hkind', rfl⟩
      · obtain ⟨body, hbody'⟩ := Option.isSome_iff_exists.1 hdeclared
        exact absurd (hbody.symm.trans hbody') (by simp)
      · rw [hkind] at hkind'
        cases hkind'
        exact ⟨_, .primitive, rfl⟩
  | _, _, _, _, .optional hitem => by
      intro modifier n base href hbase
      obtain ⟨hmodifier, hinner⟩ := mark_eq_optional.1 href.symm
      obtain ⟨inner, hunfolds, herase⟩ :=
        RefTree.unfolds hdefs hmarks hitem none n base hinner hbase
      refine ⟨inner, hunfolds, ?_⟩
      rw [TypeTree.erase, herase, hmodifier]
      rfl
  | _, _, _, _, .array hitems => by
      intro modifier n base href hbase
      obtain ⟨hmodifier, hinner⟩ := mark_eq_array.1 href.symm
      obtain ⟨inner, hunfolds, herase⟩ :=
        RefTree.unfolds hdefs hmarks hitems none n base hinner hbase
      refine ⟨inner, hunfolds, ?_⟩
      rw [TypeTree.erase, herase, hmodifier]
      rfl

theorem ExprTree.unfolds (hdefs : definitions types = .ok defs)
    (hmarks : ∀ n ∈ types.keys, ¬ Reference.Marked n) :
    ∀ {expr : TypeExpr} {isAlias : Bool} {label : Option String} {tree : TypeTree},
      (plain types).ExprTree expr isAlias label tree →
        ∀ (owner : String) (d : Definition), Definition.ofExpr types owner expr = .ok d →
          Unfolds defs d tree.erase
  | _, _, _, _, .name htree => by
      intro owner d hd
      obtain ⟨base, hbase, rfl⟩ := ofExpr_name_eq_ok_iff.1 hd
      have href := Reference.ofText_eq_core (not_marked_of_ofName hmarks hbase)
      obtain ⟨inner, hinner, herase⟩ := RefTree.unfolds hdefs hmarks htree none _ base href hbase
      rw [herase]
      exact .synonym hinner
  | _, _, _, _, @ExprTree.choice _ items _ _ _ hall hoptions => by
      intro owner d hd
      have hdeclared : items.all types.contains = true := hall
      rw [ofExpr_choice hdeclared] at hd
      cases hd
      have hof := fieldOf_optionMembers hmarks hdeclared
      have hfields := MemberTrees.unfolds hdefs hmarks hoptions _ hof
      rw [TypeTree.erase, TypeTree.eraseMembers_ofPairs]
      refine .union ?_
      rw [unionFields, ← Table.ofPairs_map]
      exact hfields.ofPairs
  | _, _, _, _, @ExprTree.enumeration _ items _ _ hall => by
      intro owner d hd
      have hundeclared : ¬ items.all types.contains = true := hall
      rw [ofExpr_enumeration hundeclared] at hd
      cases hd
      exact .enumeration
  | _, _, _, _, .record hproperties => by
      intro owner d hd
      obtain ⟨fields, hfields, rfl⟩ := ofExpr_record_eq_ok_iff.1 hd
      have hof := List.forall₂_map_left_iff.2 hfields
      rw [TypeTree.erase, TypeTree.eraseMembers_ofPairs]
      exact .object (MemberTrees.unfolds hdefs hmarks hproperties _ hof).ofPairs

theorem MemberTrees.unfolds (hdefs : definitions types = .ok defs)
    (hmarks : ∀ n ∈ types.keys, ¬ Reference.Marked n) :
    ∀ {members : List (String × TypeExpr)} {trees : List (String × TypeTree)},
      (plain types).MemberTrees members trees →
        ∀ fields : List (String × Field), List.Forall₂ (FieldOf types) members fields →
          FieldsUnfold defs fields (TypeTree.eraseMembers trees)
  | _, _, .nil => by
      intro fields hfields
      cases hfields
      rw [TypeTree.eraseMembers]
      exact .nil
  | _, _, .cons (@ExprTree.name _ s _ _ _ href) hothers => by
      intro fields hfields
      obtain ⟨⟨key, field⟩, rest, hof, hrest, rfl⟩ := List.forall₂_cons_left_iff.1 hfields
      have hunfolds := MemberTrees.unfolds hdefs hmarks hothers rest hrest
      obtain ⟨hkey, text, htext, hfield⟩ := hof
      obtain ⟨hbase, hmodifier⟩ := ofText_eq_ok_iff.1 hfield
      have hmark := ofText_eq_mark (not_marked_of_ofName hmarks hbase)
      obtain rfl : s = text := TypeExpr.name.inj htext
      obtain ⟨inner, hinner, herase⟩ := RefTree.unfolds hdefs hmarks href _ _ _ hmark hbase
      obtain rfl : key = _ := hkey
      rw [TypeTree.eraseMembers, herase, hmodifier]
      exact .cons hinner hunfolds
  -- a field that has a definition is given by a name, so these members have none
  | _, _, .cons (.choice _ _) _ => by
      intro fields hfields
      obtain ⟨field, rest, ⟨-, text, htext, -⟩, -, -⟩ := List.forall₂_cons_left_iff.1 hfields
      cases htext
  | _, _, .cons (.enumeration _) _ => by
      intro fields hfields
      obtain ⟨field, rest, ⟨-, text, htext, -⟩, -, -⟩ := List.forall₂_cons_left_iff.1 hfields
      cases htext
  | _, _, .cons (.record _) _ => by
      intro fields hfields
      obtain ⟨field, rest, ⟨-, text, htext, -⟩, -, -⟩ := List.forall₂_cons_left_iff.1 hfields
      cases htext

end

/-- A name without a mark leads to what following references from it leads to. -/
theorem reaches_name_iff {r : Resolver} {n m : String} (h : ¬ Reference.Marked n) :
    r.Reaches (.name n) m ↔ Relation.ReflTransGen r.Refers n m := by
  rw [reaches_name, Reference.coreName_eq_self h]

section Agreement

variable (hdefs : definitions types = .ok defs) (hmarks : ∀ n ∈ types.keys, ¬ Reference.Marked n)
  {n : String} (hn : types.contains n = true)
include hdefs hmarks hn

/-- A name that has a definition leads to known names only. -/
theorem resolveText_ne_unknown (text : String) :
    ((plain types).resolveText n false).result ≠ .error (.unknown text) := by
  intro herror
  obtain ⟨hreach, hunknown⟩ := reaches_of_resolve_unknown herror
  rw [reaches_name_iff (hmarks n (Table.contains_eq_true_iff.1 hn))] at hreach
  rcases Relation.ReflTransGen.cases_tail hreach with rfl | ⟨m, -, hrefers⟩
  · exact hunknown (Or.inl hn)
  · exact hunknown (known_of_refers hdefs hmarks hrefers)

theorem resolveText_recursive_iff :
    (∃ path, ((plain types).resolveText n false).result = .error (.recursive path)) ↔
      ∃ m, Relation.ReflTransGen (Mentions types defs) n m ∧
        Relation.TransGen (Mentions types defs) m m := by
  have hmark := hmarks n (Table.contains_eq_true_iff.1 hn)
  constructor
  · rintro ⟨path, herror⟩
    obtain ⟨m, hreach, hdeclared, hcycle⟩ := reaches_self_of_resolve_recursive herror
    rw [reaches_name_iff hmark, Relation.reflTransGen_iff_eq_or_transGen] at hreach
    refine ⟨m, ?_, (transGen_refers_iff hdefs hmarks).1 ⟨hcycle, hdeclared⟩⟩
    rcases hreach with rfl | hreach
    · exact .refl
    · exact ((transGen_refers_iff hdefs hmarks).1 ⟨hreach, hdeclared⟩).to_reflTransGen
  · rintro ⟨m, hreach, hcycle⟩
    have hrefers : Relation.ReflTransGen (plain types).Refers n m := by
      rcases Relation.reflTransGen_iff_eq_or_transGen.1 hreach with rfl | hreach
      · exact .refl
      · exact ((transGen_refers_iff hdefs hmarks).2 hreach).1.to_reflTransGen
    have hloop := ((transGen_refers_iff hdefs hmarks).2 hcycle).1
    cases hresult : ((plain types).resolveText n false).result with
    | ok tree =>
        have hgrounded := (resolve_result_eq_ok_iff.1 hresult).grounded n (by
          rw [TypeExpr.mem_refs_name, Reference.coreName_eq_self hmark])
        exact absurd hloop (hgrounded.of_reaches hrefers).not_reaches_self
    | error e =>
        cases e with
        | unknown text => exact absurd hresult (resolveText_ne_unknown hdefs hmarks hn text)
        | recursive path => exact ⟨path, rfl⟩

theorem resolveText_unfolds {tree : TypeTree}
    (h : ((plain types).resolveText n false).result = .ok tree) :
    BaseUnfolds defs (.reference n) tree.erase := by
  have hmark := hmarks n (Table.contains_eq_true_iff.1 hn)
  cases resolve_result_eq_ok_iff.1 h with
  | name htree =>
      obtain ⟨inner, hinner, herase⟩ := htree.unfolds hdefs hmarks none n (.reference n)
        (Reference.ofText_eq_core hmark) (ofName_eq_ok_iff.2 (Or.inl ⟨hn, rfl⟩))
      rw [herase]
      exact hinner

end Agreement

/-- **Resolved types and definitions agree.** Let a table have definitions and no marked name.
Resolving a declared name meets no unknown name; it fails exactly if the name leads to one that
reaches itself, where a field that a later one replaces counts as well; and the tree it gives is, up
to alias marks and labels, what the definition unfolds to. If the sanitized names in each record
differ, no field is replaced, and the references are those of the definitions. -/
theorem resolveText_agrees {types : Declarations} {defs : Table Definition}
    (hdefs : definitions types = .ok defs) (hmarks : ∀ n ∈ types.keys, ¬ Reference.Marked n)
    {n : String} (hn : types.contains n = true) :
    (∀ text, ((plain types).resolveText n false).result ≠ .error (.unknown text)) ∧
      ((∃ path, ((plain types).resolveText n false).result = .error (.recursive path)) ↔
        ∃ m, Relation.ReflTransGen (Mentions types defs) n m ∧
          Relation.TransGen (Mentions types defs) m m) ∧
      (∀ tree, ((plain types).resolveText n false).result = .ok tree →
        ∀ unfolding, BaseUnfolds defs (.reference n) unfolding ↔ unfolding = tree.erase) ∧
      ((∀ k members, types.get? k = some (.record members) →
          (members.map fun member => Name.sanitize member.1).Nodup) →
        Mentions types defs = Codec.Refers defs) := by
  refine ⟨resolveText_ne_unknown hdefs hmarks hn, resolveText_recursive_iff hdefs hmarks hn, ?_,
    mentions_eq_refers⟩
  intro tree htree unfolding
  have hunfolds := resolveText_unfolds hdefs hmarks hn htree
  constructor
  · intro hunfolding
    exact hunfolding.unique hunfolds
  · rintro rfl
    exact hunfolds

/-- A record that holds itself, next to a union that names a member twice. -/
def chainTypes : Declarations :=
  [("Mark", .list ["red", "green"]), ("Any", .list ["Mark", "Mark"]),
    ("Step", .record [("mark", .name "Mark[]"), ("next", .name "Step?")])]

def chainDefinitions : Table Definition :=
  [("Mark", .enumeration ["red", "green"]), ("Any", .union ["Mark", "Mark"]),
    ("Step", .object [("mark", ⟨.reference "Mark", some .array⟩),
      ("next", ⟨.reference "Step", some .optional⟩)])]

theorem resolveText_chainTypes :
    definitions chainTypes = .ok chainDefinitions ∧
      (∀ n ∈ chainTypes.keys, ¬ Reference.Marked n) ∧
      (∃ path, ((plain chainTypes).resolveText "Step" false).result = .error (.recursive path)) ∧
      BaseUnfolds chainDefinitions (.reference "Any")
        (.union .bare [("Mark", .enumeration .bare [("red", 0), ("green", 1)])]) := by
  have hdefs : definitions chainTypes = .ok chainDefinitions := by decide
  have hmarks : ∀ n ∈ chainTypes.keys, ¬ Reference.Marked n := by decide
  obtain ⟨-, hrecursive, -⟩ := resolveText_agrees hdefs hmarks (n := "Step") (by decide)
  obtain ⟨-, -, htree, -⟩ := resolveText_agrees hdefs hmarks (n := "Any") (by decide)
  have hmark : (plain chainTypes).ExprTree (.name "Mark") false none
      (.enumeration ⟨true, some "Mark"⟩ [("red", 0), ("green", 1)]) :=
    .name (.declared rfl (.enumeration (by decide)))
  have hany : ((plain chainTypes).resolveText "Any" false).result = .ok (.union ⟨true, some "Any"⟩
      [("Mark", .enumeration ⟨true, some "Mark"⟩ [("red", 0), ("green", 1)])]) := by
    have hall : ["Mark", "Mark"].all (plain chainTypes).isDeclared = true := by decide
    exact resolve_result_eq_ok_iff.2
      (.name (.declared rfl (.choice hall (.cons hmark (.cons hmark .nil)))))
  refine ⟨hdefs, hmarks, hrecursive.2 ⟨"Step", .refl, .single (Or.inl ?_)⟩, ?_⟩
  · exact ⟨_, rfl, by decide⟩
  · exact (htree _ hany _).2 rfl

/-- The first field of the record leads back to it, and the second one replaces the first. -/
def replacedTypes : Declarations := [("A", .record [("x", .name "A"), ("x!", .name "int")])]

theorem resolveText_replacedTypes :
    definitions replacedTypes = .ok [("A", .object [("x", ⟨.primitive .int, none⟩)])] ∧
      (∀ n ∈ replacedTypes.keys, ¬ Reference.Marked n) ∧
      (∃ path, ((plain replacedTypes).resolveText "A" false).result =
        .error (.recursive path)) ∧
      ¬ ∃ m, Relation.ReflTransGen
            (Codec.Refers [("A", .object [("x", ⟨.primitive .int, none⟩)])]) "A" m ∧
          Relation.TransGen
            (Codec.Refers [("A", .object [("x", ⟨.primitive .int, none⟩)])]) m m := by
  have hdefs : definitions replacedTypes =
      .ok [("A", .object [("x", ⟨.primitive .int, none⟩)])] := by decide
  have hmarks : ∀ n ∈ replacedTypes.keys, ¬ Reference.Marked n := by decide
  have hreplaced : Mentions replacedTypes [("A", .object [("x", ⟨.primitive .int, none⟩)])]
      "A" "A" :=
    Or.inr ⟨_, rfl, [], "x", "A", [("x!", .name "int")], rfl, by decide, by decide⟩
  refine ⟨hdefs, hmarks, (resolveText_recursive_iff hdefs hmarks (by decide)).2
    ⟨"A", .refl, .single hreplaced⟩, ?_⟩
  rintro ⟨m, -, hcycle⟩
  obtain ⟨k, ⟨d, hd, hk⟩, -⟩ := Relation.TransGen.head'_iff.1 hcycle
  have hmem := Table.mem_of_get? hd
  simp only [List.mem_singleton, Prod.mk.injEq] at hmem
  rw [hmem.2] at hk
  simp [Definition.refs, Base.refs] at hk

end Resolver

end Scaffold
