import Mathlib.Data.List.Chain
import Mathlib.Logic.Relation
import Scaffold.Proofs.Resolver.Walk

/-!
# Following references

The declarations are a graph: a declared name refers to the names that its body refers to. A name
is grounded if following references from it comes to an end and meets known names only. Since
`Grounded` is an inductive predicate, it is also the induction along references: a grounded name
does not reach itself, and a tree can be built for it from the trees of the names it refers to.
-/

namespace Scaffold

namespace Resolver

variable {r : Resolver}

/-- A resolver without plugins. -/
def plain (types : Declarations) : Resolver := { types }

/-- The body of the first name refers to the second. -/
def Refers (r : Resolver) (n m : String) : Prop :=
  ∃ body, r.types.get? n = some body ∧ m ∈ body.refs r.isDeclared

/-- The expression leads to the name, through the bodies of any number of declared names. -/
def Reaches (r : Resolver) (expr : TypeExpr) (n : String) : Prop :=
  ∃ m ∈ expr.refs r.isDeclared, Relation.ReflTransGen r.Refers m n

/-- The name is declared, or it is the keyword of a built-in type. -/
def Known (r : Resolver) (n : String) : Prop :=
  r.isDeclared n = true ∨ ∃ kind, Primitive.ofKeyword? n = some kind

/-- Following references from the name comes to an end, and meets known names only. -/
inductive Grounded (r : Resolver) : String → Prop
  | declared {n : String} {body : TypeExpr} (hbody : r.types.get? n = some body)
      (hrefs : ∀ m ∈ body.refs r.isDeclared, Grounded r m) : Grounded r n
  | primitive {n : String} {kind : Primitive} (hbody : r.types.get? n = none)
      (hkind : Primitive.ofKeyword? n = some kind) : Grounded r n

theorem isDeclared_of_get? {n : String} {body : TypeExpr} (h : r.types.get? n = some body) :
    r.isDeclared n = true := by
  simp [isDeclared, Table.contains, h]

theorem exists_body_of_isDeclared {n : String} (h : r.isDeclared n = true) :
    ∃ body, r.types.get? n = some body :=
  Option.isSome_iff_exists.1 h

/-- A name that refers to others is declared. -/
theorem Refers.isDeclared {n m : String} (h : r.Refers n m) : r.isDeclared n = true := by
  obtain ⟨body, hbody, -⟩ := h
  exact isDeclared_of_get? hbody

theorem reaches_name {s n : String} :
    r.Reaches (.name s) n ↔ Relation.ReflTransGen r.Refers (Reference.coreName s) n := by
  simp only [Reaches, TypeExpr.mem_refs_name, exists_eq_left]

/-- What holds of the names that an expression refers to, and passes along references, holds of all
names to which the expression leads. -/
theorem Reaches.of_closed {expr : TypeExpr} {n : String} {P : String → Prop}
    (hexpr : ∀ k ∈ expr.refs r.isDeclared, P k)
    (hclosed : ∀ m, P m → ∀ body ∈ r.types.get? m, ∀ k ∈ body.refs r.isDeclared, P k)
    (h : r.Reaches expr n) : P n := by
  obtain ⟨m, hm, hreach⟩ := h
  induction hreach with
  | refl => exact hexpr m hm
  | tail _ hrefers ih =>
      obtain ⟨body, hbody, hrefs⟩ := hrefers
      exact hclosed _ ih body hbody _ hrefs

namespace Grounded

theorem known {n : String} (h : r.Grounded n) : r.Known n := by
  cases h with
  | declared hbody _ => exact Or.inl (isDeclared_of_get? hbody)
  | primitive _ hkind => exact Or.inr ⟨_, hkind⟩

theorem of_refers {n m : String} (h : r.Grounded n) (hm : r.Refers n m) : r.Grounded m := by
  obtain ⟨body, hbody, hrefs⟩ := hm
  cases h with
  | declared hbody' hgrounded =>
      rw [hbody] at hbody'
      cases hbody'
      exact hgrounded m hrefs
  | primitive hnone _ =>
      rw [hbody] at hnone
      cases hnone

theorem of_reaches {n m : String} (h : r.Grounded n) (hm : Relation.ReflTransGen r.Refers n m) :
    r.Grounded m := by
  induction hm with
  | refl => exact h
  | tail _ hrefers ih => exact ih.of_refers hrefers

/-- A grounded name does not reach itself: a way back would be one for every name on it. -/
theorem not_reaches_self {n : String} (h : r.Grounded n) : ¬ Relation.TransGen r.Refers n n := by
  induction h with
  | @declared n body hbody _ ih =>
      intro hcycle
      obtain ⟨m, hm, hback⟩ := Relation.TransGen.head'_iff.1 hcycle
      obtain ⟨body', hbody', hrefs⟩ := hm
      rw [hbody] at hbody'
      cases hbody'
      exact ih m hrefs (Relation.TransGen.tail' hback ⟨body, hbody, hrefs⟩)
  | primitive hbody _ =>
      intro hcycle
      obtain ⟨m, ⟨body, hbody', -⟩, -⟩ := Relation.TransGen.head'_iff.1 hcycle
      rw [hbody] at hbody'
      cases hbody'

end Grounded

/-- The last name of a chain reaches itself if it stands in the chain before. -/
theorem reaches_self_of_isChain {R : String → String → Prop} {names : List String} {n : String}
    (hchain : (names ++ [n]).IsChain R) (hn : n ∈ names) : Relation.TransGen R n n := by
  obtain ⟨before, after, rfl⟩ := List.append_of_mem hn
  have hloop : (n :: (after ++ [n])).IsChain R := by
    have : before ++ n :: after ++ [n] = before ++ (n :: (after ++ [n])) := by simp
    rw [this] at hchain
    exact hchain.right_of_append
  cases after with
  | nil => exact Relation.TransGen.single (List.isChain_cons_cons.1 hloop).1
  | cons m rest =>
      rw [List.cons_append, List.isChain_cons_cons] at hloop
      have hback : Relation.ReflTransGen R m n :=
        List.relationReflTransGen_of_exists_isChain_cons _ hloop.2 (by simp)
      exact Relation.TransGen.head' hloop.1 hback

end Resolver

end Scaffold
