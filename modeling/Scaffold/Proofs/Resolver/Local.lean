import Mathlib.Data.Set.Basic
import Scaffold.Proofs.Blueprint.Basic
import Scaffold.Proofs.Resolver.Tree

/-!
# Resolving is local

What an expression resolves to depends on the declarations of the names that it involves, and on
nothing else. It involves the names that it refers to and the items of its lists, since whether a
list is a choice depends on all of them; and what the bodies involve that it leads to. The other
declarations may be changed, removed or put into another order, and new ones may be added: neither
the outcome nor the log can tell.

The proof compares two runs. They look up the same names in the same order, so the stacks grow in
the same way and a cycle is reported with the same path.
-/

namespace Scaffold

namespace TypeExpr

mutual

/-- The items of the lists in an expression, as they are written. -/
def listItems : TypeExpr → List String
  | .name _ => []
  | .list items => items
  | .record fields => fieldListItems fields

/-- The items of the lists in the types of fields. -/
def fieldListItems : List (String × TypeExpr) → List String
  | [] => []
  | (_, type) :: rest => type.listItems ++ fieldListItems rest

end

theorem mem_listItems_record {fields : List (String × TypeExpr)} {n : String} :
    n ∈ (record fields).listItems ↔ ∃ field ∈ fields, n ∈ field.2.listItems := by
  rw [listItems]
  induction fields with
  | nil => simp [fieldListItems]
  | cons field rest ih => simp [fieldListItems, ih]

end TypeExpr

section Walk

variable {meaning meaning' : Meaning} {isAlias : Bool}

theorem Reference.resolve_congr {ref : Reference} (h : meaning ref.base = meaning' ref.base)
    (label : String) :
    ref.resolve meaning isAlias label = ref.resolve meaning' isAlias label := by
  induction ref generalizing isAlias label with
  | core n => rw [resolve, resolve, show meaning n = meaning' n from h]
  | optional inner ih => rw [resolve, resolve, ih h]
  | array inner ih => rw [resolve, resolve, ih h]

namespace TypeExpr

variable {isDeclared isDeclared' : String → Bool}

theorem resolveMembers_congr {members : List (String × TypeExpr)}
    (h : ∀ member ∈ members, member.2.resolve isDeclared meaning false none =
      member.2.resolve isDeclared' meaning' false none) :
    resolveMembers isDeclared meaning members = resolveMembers isDeclared' meaning' members := by
  induction members with
  | nil => rfl
  | cons member rest ih =>
      obtain ⟨hfirst, hrest⟩ := List.forall_mem_cons.1 h
      rw [resolveMembers, resolveMembers, hfirst, ih hrest]

/-- The walk over an expression asks which items of its lists are declared and what the names mean
that it refers to. -/
theorem resolve_congr {expr : TypeExpr}
    (hitems : ∀ item ∈ expr.listItems, isDeclared item = isDeclared' item)
    (hrefs : ∀ n ∈ expr.refs isDeclared, meaning n = meaning' n) (label : Option String) :
    expr.resolve isDeclared meaning isAlias label =
      expr.resolve isDeclared' meaning' isAlias label := by
  induction expr using TypeExpr.induct generalizing isAlias label with
  | name s =>
      rw [resolve_name, resolve_name]
      exact Reference.resolve_congr (hrefs (Reference.coreName s) (by simp)) _
  | list items =>
      have hall : items.all isDeclared = items.all isDeclared' := by
        rw [Bool.eq_iff_iff, List.all_eq_true, List.all_eq_true]
        exact forall₂_congr fun item hitem => by
          rw [hitems item (by rwa [listItems])]
      rw [resolve, resolve, ← hall]
      by_cases hchoice : items.all isDeclared = true
      · rw [if_pos hchoice, if_pos hchoice,
          @resolveOptions_eq_resolveMembers isDeclared,
          @resolveOptions_eq_resolveMembers isDeclared', resolveMembers_congr]
        intro member hmember
        obtain ⟨item, hitem, rfl⟩ := List.mem_map.1 hmember
        rw [resolve_name, resolve_name]
        exact Reference.resolve_congr (hrefs _ (mem_refs_list.2 ⟨hchoice, item, hitem, rfl⟩)) _
      · rw [if_neg hchoice, if_neg hchoice]
  | record fields ih =>
      rw [resolve, resolve, resolveFields_eq_resolveMembers, resolveFields_eq_resolveMembers,
        resolveMembers_congr]
      intro member hmember
      obtain ⟨field, hfield, rfl⟩ := List.mem_map.1 hmember
      apply ih field hfield
      · intro item hitem
        exact hitems item (mem_listItems_record.2 ⟨field, hfield, hitem⟩)
      · intro n hn
        exact hrefs n (mem_refs_record.2 ⟨field, hfield, hn⟩)

end TypeExpr

end Walk

namespace Resolver

variable {r r' : Resolver} {expr : TypeExpr} {n : String}

/-- The names that the expression refers to, and the items of its lists. -/
def mentioned (r : Resolver) (expr : TypeExpr) : List String :=
  expr.refs r.isDeclared ++ expr.listItems

/-- The name is mentioned in the expression, or in the body of a declared name to which the
expression leads. -/
def Involves (r : Resolver) (expr : TypeExpr) (n : String) : Prop :=
  n ∈ r.mentioned expr ∨
    ∃ m body, r.Reaches expr m ∧ r.types.get? m = some body ∧ n ∈ r.mentioned body

theorem Involves.of_mem_refs (h : n ∈ expr.refs r.isDeclared) : r.Involves expr n :=
  Or.inl (List.mem_append_left _ h)

theorem Involves.of_mem_listItems (h : n ∈ expr.listItems) : r.Involves expr n :=
  Or.inl (List.mem_append_right _ h)

theorem Involves.of_body {m : String} {body : TypeExpr} (hm : m ∈ expr.refs r.isDeclared)
    (hbody : r.types.get? m = some body) (h : r.Involves body n) : r.Involves expr n := by
  rcases h with hmem | ⟨k, inner, ⟨first, hfirst, hreach⟩, hinner, hmem⟩
  · exact Or.inr ⟨m, body, ⟨m, hm, .refl⟩, hbody, hmem⟩
  · exact Or.inr ⟨k, inner, ⟨m, hm, .head ⟨body, hbody, hfirst⟩ hreach⟩, hinner, hmem⟩

/-- What holds of the mentioned names, and passes from a name to those mentioned in its body, holds
of all names that the expression involves. -/
theorem Involves.of_closed {P : String → Prop} (hexpr : ∀ k ∈ r.mentioned expr, P k)
    (hclosed : ∀ m, P m → ∀ body ∈ r.types.get? m, ∀ k ∈ r.mentioned body, P k)
    (h : r.Involves expr n) : P n := by
  rcases h with hmem | ⟨m, body, hreaches, hbody, hmem⟩
  · exact hexpr n hmem
  · have hm : P m := by
      refine hreaches.of_closed ?_ ?_
      · intro k hk
        exact hexpr k (List.mem_append_left _ hk)
      · intro m' hm' inner hinner k hk
        exact hclosed m' hm' inner hinner k (List.mem_append_left _ hk)
    exact hclosed m hm body hbody n hmem

theorem isDeclared_congr (h : r.types.get? n = r'.types.get? n) :
    r.isDeclared n = r'.isDeclared n := by
  rw [isDeclared, isDeclared, Table.contains, Table.contains, h]

theorem wrap_congr (h : r.plugins = r'.plugins) : r.wrap = r'.wrap := by
  funext n isAlias tree
  rw [wrap, wrap, isPlugin, isPlugin, h]

/-- Two runs on an expression do the same, if the items of its lists are declared alike and the
names that it refers to mean the same. -/
theorem resolve_eq_of_meaning {meaning meaning' : Meaning}
    (hget : ∀ k, r.Involves expr k → r.types.get? k = r'.types.get? k)
    (hmeaning : ∀ k ∈ expr.refs r.isDeclared, meaning k = meaning' k) (isAlias : Bool)
    (label : Option String) :
    expr.resolve r.isDeclared meaning isAlias label =
      expr.resolve r'.isDeclared meaning' isAlias label := by
  refine TypeExpr.resolve_congr ?_ hmeaning label
  intro item hitem
  exact isDeclared_congr (hget item (.of_mem_listItems hitem))

theorem name_eq_of_agree (hplugins : r.plugins = r'.plugins) {stack : List String}
    (hn : r.types.get? n = r'.types.get? n)
    (h : ∀ body, r.types.get? n = some body →
      ∀ k, r.Involves body k → r.types.get? k = r'.types.get? k) :
    r.name stack n = r'.name stack n := by
  -- both runs have the same stack; the names that are not on it yet are counted in the first table
  induction stack using stack_induct r generalizing n with
  | push stack ih =>
      funext isAlias label
      cases hbody : r.types.get? n with
      | some body =>
          have hbody' : r'.types.get? n = some body := hn ▸ hbody
          by_cases hstack : n ∈ stack
          · rw [name_eq_of_mem hbody hstack, name_eq_of_mem hbody' hstack]
          · have hsame := h body hbody
            have hinner : body.resolve r.isDeclared (r.name (stack ++ [n])) true (some n) =
                body.resolve r'.isDeclared (r'.name (stack ++ [n])) true (some n) := by
              apply resolve_eq_of_meaning hsame
              intro m hm
              apply ih n body hbody hstack (hsame m (.of_mem_refs hm))
              intro inner hinner k hk
              exact hsame k (.of_body hm hinner hk)
            rw [name_eq_of_declared hbody hstack, name_eq_of_declared hbody' hstack, hinner,
              wrap_congr hplugins]
      | none =>
          have hbody' : r'.types.get? n = none := hn ▸ hbody
          cases hkind : Primitive.ofKeyword? n with
          | some kind =>
              rw [name_eq_of_primitive hbody hkind, name_eq_of_primitive hbody' hkind,
                wrap_congr hplugins]
          | none => rw [name_eq_of_unknown hbody hkind, name_eq_of_unknown hbody' hkind]

/-- Only the declarations of the names that an expression involves matter. -/
theorem resolve_eq_of_agree {types types' : Declarations} {plugins : List String}
    (h : ∀ k, Involves ⟨types, plugins⟩ expr k → types.get? k = types'.get? k) (isAlias : Bool) :
    resolve ⟨types, plugins⟩ expr isAlias = resolve ⟨types', plugins⟩ expr isAlias := by
  apply resolve_eq_of_meaning h
  intro m hm
  refine name_eq_of_agree ?_ (h m (.of_mem_refs hm)) ?_
  · rfl
  · intro body hbody k hk
    exact h k (.of_body hm hbody hk)

end Resolver

theorem Blueprint.get?_extend_of_not_mem {c : Config} {n : String}
    (h : n ∉ Table.keys (ownTypes c)) : (extend c).types.get? n = c.types.get? n := by
  have hnone : Table.get? (ownTypes c).reverse n = none := by
    rw [Table.get?_eq_none_iff, Table.keys, List.map_reverse, List.mem_reverse]
    exact h
  rw [extend, Table.get?_insertAll, hnone, Option.none_or]

namespace Resolver

/-- **Resolving is local.** If two tables agree outside a set of names, and the expression involves
no name of this set, it resolves to the same in both, with the same log. So the order of the
declarations does not matter, and the types that belong to every project change nothing for an
expression that does not involve them. -/
theorem resolve_local (plugins : List String) :
    (∀ (types types' : Declarations) (hidden : Set String) (expr : TypeExpr),
      (∀ n, n ∉ hidden → types.get? n = types'.get? n) →
      (∀ n ∈ hidden, ¬ Involves ⟨types, plugins⟩ expr n) →
      ∀ isAlias, resolve ⟨types, plugins⟩ expr isAlias = resolve ⟨types', plugins⟩ expr isAlias) ∧
    (∀ types types' : Declarations, types.keys.Nodup → types.Perm types' →
      ∀ expr isAlias,
        resolve ⟨types, plugins⟩ expr isAlias = resolve ⟨types', plugins⟩ expr isAlias) ∧
    (∀ (c : Config) (expr : TypeExpr),
      (∀ n ∈ Table.keys (Blueprint.ownTypes c), ¬ Involves ⟨c.types, plugins⟩ expr n) →
      ∀ isAlias, resolve ⟨c.types, plugins⟩ expr isAlias =
        resolve ⟨(Blueprint.extend c).types, plugins⟩ expr isAlias) := by
  refine ⟨?_, ?_, ?_⟩
  · intro types types' hidden expr hagree hhidden isAlias
    refine resolve_eq_of_agree ?_ isAlias
    intro n hn
    exact hagree n fun hmem => hhidden n hmem hn
  · intro types types' hnodup hperm expr isAlias
    refine resolve_eq_of_agree ?_ isAlias
    intro n _
    exact Table.get?_perm hnodup hperm n
  · intro c expr hown isAlias
    refine resolve_eq_of_agree ?_ isAlias
    intro n hn
    exact (Blueprint.get?_extend_of_not_mem fun hmem => hown n hmem hn).symm

/-- A type `Owner` whose list becomes a choice when the types of every project are added, and a
type `Cart` that has nothing to do with it. -/
def shop : Config where
  types := [("Cart", .record [("items", .name "Item[]?")]), ("Item", .list ["book", "pen"]),
    ("Owner", .list ["UserId"])]
  methods := [("buy", some [("cart", "Cart")])]
  auth := {}
  userState := "Cart"
  error := "string"

/-- The names that `Cart` involves. -/
def cartNames : List String := ["Cart", "Item", "book", "pen"]

theorem mem_cartNames {n : String} (h : Involves ⟨shop.types, []⟩ (.name "Cart") n) :
    n ∈ cartNames := by
  refine h.of_closed ?_ ?_
  · decide
  · decide

/-- The types of `Cart` in another order, beside another `Owner`. -/
def cartTypes : Declarations :=
  [("Item", .list ["book", "pen"]), ("Owner", .name "Cart"),
    ("Cart", .record [("items", .name "Item[]?")])]

theorem resolve_local_cart :
    resolve ⟨shop.types, []⟩ (.name "Cart") true =
        resolve ⟨cartTypes, []⟩ (.name "Cart") true ∧
      resolve ⟨shop.types, []⟩ (.name "Cart") true =
        resolve ⟨shop.types.reverse, []⟩ (.name "Cart") true ∧
      resolve ⟨shop.types, []⟩ (.name "Cart") true =
        resolve ⟨(Blueprint.extend shop).types, []⟩ (.name "Cart") true := by
  obtain ⟨hagree, hperm, hown⟩ := resolve_local []
  have hsame : ∀ n ∈ cartNames, shop.types.get? n = cartTypes.get? n := by
    simp only [cartNames, List.forall_mem_cons]
    exact ⟨rfl, rfl, rfl, rfl, by simp⟩
  have hother : ∀ n ∈ Table.keys (Blueprint.ownTypes shop), n ∉ cartNames := by decide
  refine ⟨?_, ?_, ?_⟩
  · refine hagree shop.types cartTypes {n | n ∉ cartNames} (.name "Cart") ?_ ?_ true
    · intro n hn
      exact hsame n (not_not.1 hn)
    · intro n hn h
      exact hn (mem_cartNames h)
  · exact hperm shop.types shop.types.reverse (by decide) (List.reverse_perm _).symm _ true
  · refine hown shop (.name "Cart") ?_ true
    intro n hn h
    exact hother n hn (mem_cartNames h)

end Resolver

end Scaffold
