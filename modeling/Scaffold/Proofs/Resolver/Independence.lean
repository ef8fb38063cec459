import Scaffold.Proofs.Resolver.Local
import Scaffold.Proofs.Resolver.Stack

/-!
# The stack does not change a result

While the body of a declared name is resolved, the name is on the stack, so most of an expression is
resolved under some stack. The stack can make this fail, where a name on it is met again; it has no
other effect. If no name on the stack is met, the run under the stack is the run under the empty
one, step by step (`resolve_eq_of_avoids`), and otherwise there is no result (`resolve_stack_iff`).

The two runs are compared along the references of a grounded name. Below the name, one of them goes
on under the stack with the name added, and the other one under the name alone. Neither stack is
empty, so both are compared with a run under the empty stack.
-/

namespace Scaffold

namespace Resolver

variable {r : Resolver} {stack : List String} {n : String} {expr : TypeExpr} {isAlias : Bool}
  {label : Option String}

theorem name_eq_of_avoids (hgrounded : r.Grounded n) (havoids : r.Avoids stack n) :
    r.name stack n = r.name [] n := by
  induction hgrounded generalizing stack with
  | @declared n body hbody hrefs ih =>
      have hn : r.Grounded n := .declared hbody hrefs
      have hinner : body.resolve r.isDeclared (r.name (stack ++ [n])) true (some n) =
          body.resolve r.isDeclared (r.name ([] ++ [n])) true (some n) := by
        refine TypeExpr.resolve_congr (fun _ _ => rfl) (fun m hm => ?_) (some n)
        calc r.name (stack ++ [n]) m
            = r.name [] m := ih m hm (havoids.push hbody hn hm)
          _ = r.name ([] ++ [n]) m := (ih m hm ((avoids_nil r n).push hbody hn hm)).symm
      funext isAlias label
      rw [name_eq_of_declared hbody (havoids.not_mem hbody),
        name_eq_of_declared hbody ((avoids_nil r n).not_mem hbody), hinner]
  | primitive hbody hkind =>
      funext isAlias label
      rw [name_eq_of_primitive hbody hkind, name_eq_of_primitive hbody hkind]

/-- If no name on the stack is met, the stack makes no difference, not even to the log. -/
theorem resolve_eq_of_avoids (hgrounded : ∀ m ∈ expr.refs r.isDeclared, r.Grounded m)
    (havoids : ∀ m ∈ expr.refs r.isDeclared, r.Avoids stack m) :
    expr.resolve r.isDeclared (r.name stack) isAlias label =
      expr.resolve r.isDeclared (r.name []) isAlias label := by
  refine TypeExpr.resolve_congr (fun _ _ => rfl) (fun m hm => ?_) label
  exact name_eq_of_avoids (hgrounded m hm) (havoids m hm)

theorem forall_avoids_iff (hstack : ∀ k ∈ stack, r.isDeclared k = true) :
    (∀ m ∈ expr.refs r.isDeclared, r.Avoids stack m) ↔ ∀ k ∈ stack, ¬ r.Reaches expr k := by
  constructor
  · rintro h k hk ⟨m, hm, hreach⟩
    exact h m hm k hk (hstack k hk) hreach
  · intro h m hm k hk _ hreach
    exact h k hk ⟨m, hm, hreach⟩

/-- A run that has a result is the run under the empty stack. -/
theorem resolve_eq_of_ok {tree : TypeTree}
    (h : (expr.resolve r.isDeclared (r.name stack) isAlias label).result = .ok tree) :
    expr.resolve r.isDeclared (r.name stack) isAlias label =
      expr.resolve r.isDeclared (r.name []) isAlias label := by
  obtain ⟨htree, havoids⟩ := resolve_ok_iff.1 h
  exact resolve_eq_of_avoids htree.grounded havoids

theorem resolve_result_stack_iff {tree : TypeTree}
    (hstack : ∀ k ∈ stack, r.isDeclared k = true) :
    (expr.resolve r.isDeclared (r.name stack) isAlias label).result = .ok tree ↔
      (expr.resolve r.isDeclared (r.name []) isAlias label).result = .ok tree ∧
        ∀ k ∈ stack, ¬ r.Reaches expr k := by
  constructor
  · intro h
    refine ⟨?_, (forall_avoids_iff hstack).1 (resolve_ok_iff.1 h).2⟩
    rw [← resolve_eq_of_ok h, h]
  · rintro ⟨h, hreaches⟩
    have hgrounded := (resolve_ok_iff.1 h).1.grounded
    rw [resolve_eq_of_avoids hgrounded ((forall_avoids_iff hstack).2 hreaches), h]

/-- **The stack does not change a result.** Under a stack of declared names, an expression resolves
to a tree exactly if it does so under the empty stack and leads to no name on the stack; and
likewise a text, which refers to the name at its core. -/
theorem resolve_stack_iff (r : Resolver) {stack : List String}
    (hstack : ∀ k ∈ stack, r.isDeclared k = true) (isAlias : Bool) (label : Option String)
    (tree : TypeTree) :
    (∀ expr : TypeExpr,
      (expr.resolve r.isDeclared (r.name stack) isAlias label).result = .ok tree ↔
        (expr.resolve r.isDeclared (r.name []) isAlias label).result = .ok tree ∧
          ∀ k ∈ stack, ¬ r.Reaches expr k) ∧
    ∀ s : String,
      ((Reference.ofText s).resolve (r.name stack) isAlias (label.getD s)).result = .ok tree ↔
        ((Reference.ofText s).resolve (r.name []) isAlias (label.getD s)).result = .ok tree ∧
          ∀ k ∈ stack, ¬ Relation.ReflTransGen r.Refers (Reference.coreName s) k := by
  refine ⟨fun expr => resolve_result_stack_iff hstack, fun s => ?_⟩
  have hname := @resolve_result_stack_iff r stack (.name s) isAlias label tree hstack
  simpa only [TypeExpr.resolve_name, reaches_name] using hname

/-- The types of a shop whose items are handled by a plugin. -/
def itemShop : Resolver := ⟨shop.types, ["Item"]⟩

/-- The tree of `Cart?` under the label `Basket`. -/
def basket : TypeTree :=
  .optional ⟨false, some "Basket"⟩ (.object ⟨true, some "Cart"⟩
    [("items", .optional ⟨false, some "Item[]?"⟩ (.array ⟨false, some "Item[]"⟩
      (.plugin ⟨false, some "Item"⟩
        (.enumeration ⟨true, some "Item"⟩ [("book", 0), ("pen", 1)]))))])

theorem resolve_stack_iff_basket :
    (∀ k ∈ ["Owner"], itemShop.isDeclared k = true) ∧
      (TypeExpr.resolve itemShop.isDeclared (itemShop.name ["Owner"]) (.name "Cart?") false
        (some "Basket")).result = .ok basket ∧
      (∀ k ∈ ["Owner", "Item"], itemShop.isDeclared k = true) ∧
      ((Reference.ofText "Cart?").resolve (itemShop.name ["Owner", "Item"]) false
        "Basket").result ≠ .ok basket := by
  have hitem : itemShop.RefTree (.core "Item") false "Item" (.plugin ⟨false, some "Item"⟩
      (.enumeration ⟨true, some "Item"⟩ [("book", 0), ("pen", 1)])) :=
    @RefTree.declared _ _ _ false _ _ rfl (.enumeration (by decide))
  have hitems : itemShop.MemberTrees (TypeExpr.fieldMembers [("items", .name "Item[]?")])
      [("items", .optional ⟨false, some "Item[]?"⟩ (.array ⟨false, some "Item[]"⟩
        (.plugin ⟨false, some "Item"⟩
          (.enumeration ⟨true, some "Item"⟩ [("book", 0), ("pen", 1)]))))] :=
    .cons (.name (.optional (.array hitem))) .nil
  have hcart : itemShop.ExprTree (.name "Cart?") false (some "Basket") basket :=
    .name (.optional (@RefTree.declared _ _ _ false _ _ rfl (.record hitems)))
  have howner : ∀ k ∈ ["Owner"], itemShop.isDeclared k = true := by decide
  have hboth : ∀ k ∈ ["Owner", "Item"], itemShop.isDeclared k = true := by decide
  refine ⟨howner, ?_, hboth, fun h => ?_⟩
  · rw [(resolve_stack_iff itemShop howner false (some "Basket") basket).1, resolve_ok_iff]
    refine ⟨⟨hcart, fun m _ => avoids_nil itemShop m⟩, ?_⟩
    intro k hk hreaches
    have hmem : k ∈ ["Cart", "Item"] := hreaches.of_closed (by decide) (by decide)
    rw [List.mem_singleton.1 hk] at hmem
    revert hmem
    decide
  · obtain ⟨-, hreaches⟩ :=
      ((resolve_stack_iff itemShop hboth false (some "Basket") basket).2 "Cart?").1 h
    have hrefers : itemShop.Refers "Cart" "Item" := ⟨_, rfl, by decide⟩
    exact hreaches "Item" (by decide) (.single hrefers)

end Resolver

end Scaffold
