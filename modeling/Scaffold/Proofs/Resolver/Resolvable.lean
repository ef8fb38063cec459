import Scaffold.Proofs.Resolver.Stack

/-!
# Which expressions can be resolved

An expression can be resolved exactly if every name that it leads to is known and no declared name
that it leads to reaches itself (`exists_resolve_ok_iff`). How often a name is met on different ways
does not matter.

For the direction from the names to the result, the errors are looked at. A name that is not known
is one that is reached. The names on the stack are declared, each stands there once and refers to
the next, so the path of a recursive name is a way from the name back to itself. The same facts
say that an error can be believed (`resolve_error_cases`).
-/

namespace Scaffold

namespace Resolver

variable {r : Resolver} {stack : List String} {n label : String} {isAlias : Bool}

/-- A stack under which a name can be looked up: its names are declared, each of them stands there
once and refers to the next, and the last one refers to the name. -/
structure Leads (r : Resolver) (stack : List String) (n : String) : Prop where
  declared : ∀ k ∈ stack, r.isDeclared k = true
  nodup : stack.Nodup
  chain : (stack ++ [n]).IsChain r.Refers

theorem leads_nil (r : Resolver) (n : String) : r.Leads [] n :=
  ⟨by simp, List.nodup_nil, List.isChain_singleton n⟩

theorem Leads.push {body : TypeExpr} {m : String} (h : r.Leads stack n)
    (hbody : r.types.get? n = some body) (hn : n ∉ stack)
    (hm : m ∈ body.refs r.isDeclared) : r.Leads (stack ++ [n]) m := by
  refine ⟨?_, ?_, ?_⟩
  · intro k hk
    rcases List.mem_append.1 hk with hk | hk
    · exact h.declared k hk
    · rw [List.mem_singleton.1 hk]
      exact isDeclared_of_get? hbody
  · refine List.nodup_append.2 ⟨h.nodup, by simp, ?_⟩
    intro k hk k' hk' heq
    rw [List.mem_singleton.1 hk'] at heq
    exact hn (heq ▸ hk)
  · refine List.IsChain.append h.chain (List.isChain_singleton m) ?_
    intro k hk k' hk'
    simp only [List.getLast?_append, List.getLast?_singleton, Option.mem_def, Option.some_or,
      Option.some.injEq, List.head?_cons] at hk hk'
    rw [← hk, ← hk']
    exact ⟨body, hbody, hm⟩

/-- Looking a name up fails because the name is on the stack, because a name fails that its body
refers to, or because it is not known. -/
theorem name_error_cases {e : ResolveError}
    (h : (r.name stack n isAlias label).result = .error e) :
    (n ∈ stack ∧ e = .recursive (stack ++ [n])) ∨
      (∃ body, r.types.get? n = some body ∧ n ∉ stack ∧ ∃ m ∈ body.refs r.isDeclared,
        ∃ isAlias label, (r.name (stack ++ [n]) m isAlias label).result = .error e) ∨
      (¬ r.Known n ∧ e = .unknown n) := by
  cases hbody : r.types.get? n with
  | some body =>
      by_cases hn : n ∈ stack
      · rw [name_on_stack hbody hn] at h
        cases h
        exact Or.inl ⟨hn, rfl⟩
      · rw [name_declared hbody hn, Outcome.map_eq_error_iff] at h
        exact Or.inr (Or.inl ⟨body, rfl, hn, TypeExpr.exists_mem_refs_of_error h⟩)
  | none =>
      cases hkind : Primitive.ofKeyword? n with
      | some kind =>
          rw [name_primitive hbody hkind] at h
          cases h
      | none =>
          rw [name_unknown hbody hkind] at h
          cases h
          refine Or.inr (Or.inr ⟨?_, rfl⟩)
          simp [Known, isDeclared, Table.contains, hbody, hkind]

/-- The path of a recursive name is a stack under which a name on it is met again. It starts where
the look-up started. -/
theorem exists_leads_of_name_error {path : List String}
    (h : (r.name stack n isAlias label).result = .error (.recursive path))
    (hleads : r.Leads stack n) :
    ∃ names last, path = names ++ [last] ∧ r.Leads names last ∧ last ∈ names ∧
      stack ++ [n] <+: path := by
  -- each look-up makes the stack longer, so the induction is on the names that are not on it yet
  induction stack using stack_induct r generalizing n isAlias label with
  | push stack ih =>
      rcases name_error_cases h with
        ⟨hn, he⟩ | ⟨body, hbody, hn, m, hm, isAlias, label, herror⟩ | ⟨-, he⟩
      · cases he
        exact ⟨stack, n, rfl, hleads, hn, List.prefix_rfl⟩
      · obtain ⟨names, last, hpath, hlast, hmem, hstart⟩ :=
          ih n body hbody hn herror (hleads.push hbody hn hm)
        exact ⟨names, last, hpath, hlast, hmem, (List.prefix_append _ _).trans hstart⟩
      · cases he

theorem reaches_of_name_error {text : String}
    (h : (r.name stack n isAlias label).result = .error (.unknown text)) :
    Relation.ReflTransGen r.Refers n text ∧ ¬ r.Known text := by
  induction stack using stack_induct r generalizing n isAlias label with
  | push stack ih =>
      rcases name_error_cases h with
        ⟨-, he⟩ | ⟨body, hbody, hn, m, hm, isAlias, label, herror⟩ | ⟨hunknown, he⟩
      · cases he
      · obtain ⟨hreach, hunknown⟩ := ih n body hbody hn herror
        exact ⟨.head ⟨body, hbody, hm⟩ hreach, hunknown⟩
      · cases he
        exact ⟨.refl, hunknown⟩

/-- A name that is not known is one that the expression leads to. -/
theorem reaches_of_resolve_unknown {expr : TypeExpr} {text : String}
    (h : (r.resolve expr isAlias).result = .error (.unknown text)) :
    r.Reaches expr text ∧ ¬ r.Known text := by
  obtain ⟨m, hm, isAlias, label, herror⟩ := TypeExpr.exists_mem_refs_of_error h
  obtain ⟨hreach, hunknown⟩ := reaches_of_name_error herror
  exact ⟨⟨m, hm, hreach⟩, hunknown⟩

/-- The path of a recursive name starts with a name that the expression refers to. -/
theorem exists_path_of_resolve_recursive {expr : TypeExpr} {path : List String}
    (h : (r.resolve expr isAlias).result = .error (.recursive path)) :
    ∃ first names last, path = first :: names ++ [last] ∧ first ∈ expr.refs r.isDeclared ∧
      r.Leads (first :: names) last ∧ last ∈ first :: names := by
  obtain ⟨m, hm, isAlias, label, herror⟩ := TypeExpr.exists_mem_refs_of_error h
  obtain ⟨names, last, rfl, hleads, hmem, hstart⟩ :=
    exists_leads_of_name_error herror (leads_nil r m)
  obtain ⟨first, rest, rfl⟩ := List.exists_cons_of_ne_nil (List.ne_nil_of_mem hmem)
  have hfirst : m = first := by simpa using hstart
  exact ⟨first, rest, last, rfl, hfirst ▸ hm, hleads, hmem⟩

/-- If a name is recursive, the expression leads to a declared name that reaches itself. -/
theorem reaches_self_of_resolve_recursive {expr : TypeExpr} {path : List String}
    (h : (r.resolve expr isAlias).result = .error (.recursive path)) :
    ∃ n, r.Reaches expr n ∧ r.isDeclared n = true ∧ Relation.TransGen r.Refers n n := by
  obtain ⟨first, names, last, -, hfirst, hleads, hmem⟩ := exists_path_of_resolve_recursive h
  refine ⟨last, ⟨first, hfirst, ?_⟩, hleads.declared last hmem,
    reaches_self_of_isChain hleads.chain hmem⟩
  exact List.relationReflTransGen_of_exists_isChain_cons (names ++ [last]) hleads.chain (by simp)

/-- **Which expressions can be resolved.** Resolving always ends; it has a result exactly if every
name that the expression leads to is known and no declared name that it leads to reaches itself. -/
theorem exists_resolve_ok_iff (r : Resolver) (expr : TypeExpr) (isAlias : Bool) :
    ((∃ tree, (r.resolve expr isAlias).result = .ok tree) ↔
      (∀ n, r.Reaches expr n → r.Known n) ∧
        ∀ n, r.Reaches expr n → r.isDeclared n = true → ¬ Relation.TransGen r.Refers n n) ∧
      ∀ s, r.resolveText s isAlias = r.resolve (.name s) isAlias := by
  refine ⟨⟨?_, ?_⟩, fun s => rfl⟩
  · rintro ⟨tree, htree⟩
    have hgrounded := (resolve_result_eq_ok_iff.1 htree).grounded
    refine ⟨?_, ?_⟩
    · rintro n ⟨m, hm, hreach⟩
      exact ((hgrounded m hm).of_reaches hreach).known
    · rintro n ⟨m, hm, hreach⟩ -
      exact ((hgrounded m hm).of_reaches hreach).not_reaches_self
  · rintro ⟨hknown, hacyclic⟩
    apply Outcome.exists_ok_of_forall_ne_error
    rintro (text | path) herror
    · obtain ⟨hreach, hunknown⟩ := reaches_of_resolve_unknown herror
      exact hunknown (hknown text hreach)
    · obtain ⟨n, hreach, hdeclared, hcycle⟩ := reaches_self_of_resolve_recursive herror
      exact hacyclic n hreach hdeclared hcycle

/-! ## What an error says -/

/-- A name that is not known is read off the expression, or off a body to which it leads. -/
theorem mem_refs_of_reaches {expr : TypeExpr} {x : String} (h : r.Reaches expr x) :
    x ∈ expr.refs r.isDeclared ∨
      ∃ n body, r.Reaches expr n ∧ r.types.get? n = some body ∧ x ∈ body.refs r.isDeclared := by
  obtain ⟨m, hm, hreach⟩ := h
  rcases Relation.ReflTransGen.cases_tail hreach with rfl | ⟨n, hn, body, hbody, hx⟩
  · exact Or.inl hm
  · exact Or.inr ⟨n, body, ⟨m, hm, hn⟩, hbody, hx⟩

/-- **Errors can be believed.** A name that is reported as unknown is written in the expression, or
in a body to which it leads, and is neither declared nor built-in. A path that is reported as
recursive starts in the expression, follows references, and ends at the first name that it meets
for the second time. -/
theorem resolve_error_cases {expr : TypeExpr} {e : ResolveError}
    (h : (r.resolve expr isAlias).result = .error e) :
    (∃ x, e = .unknown x ∧ e.message = "invalid type expression: '" ++ x ++ "'" ∧
        ¬ Reference.Marked x ∧ x ∉ r.types.keys ∧ (∀ kind : Primitive, x ≠ kind.keyword) ∧
        (x ∈ expr.refs r.isDeclared ∨
          ∃ n body, r.Reaches expr n ∧ r.types.get? n = some body ∧
            x ∈ body.refs r.isDeclared)) ∨
      ∃ first names last, e = .recursive (first :: names ++ [last]) ∧
        e.message = "recursive type reference detected: "
          ++ " -> ".intercalate (first :: names ++ [last]) ∧
        first ∈ expr.refs r.isDeclared ∧ (first :: names ++ [last]).IsChain r.Refers ∧
        (first :: names).Nodup ∧ (∀ n ∈ first :: names, n ∈ r.types.keys) ∧
        last ∈ first :: names := by
  cases e with
  | unknown x =>
      obtain ⟨hreaches, hunknown⟩ := reaches_of_resolve_unknown h
      have hrefs := mem_refs_of_reaches hreaches
      refine Or.inl ⟨x, rfl, rfl, ?_, ?_, ?_, hrefs⟩
      · rcases hrefs with hx | ⟨_, _, _, _, hx⟩
        · exact TypeExpr.not_marked_of_mem_refs hx
        · exact TypeExpr.not_marked_of_mem_refs hx
      · intro hdeclared
        exact hunknown (Or.inl (Table.contains_eq_true_iff.2 hdeclared))
      · intro kind hkind
        exact hunknown (Or.inr ⟨kind, Primitive.ofKeyword?_eq_some_iff.2 hkind⟩)
  | recursive path =>
      obtain ⟨first, names, last, rfl, hfirst, hleads, hmem⟩ := exists_path_of_resolve_recursive h
      refine Or.inr ⟨first, names, last, rfl, rfl, hfirst, hleads.chain, hleads.nodup, ?_, hmem⟩
      intro n hn
      exact Table.contains_eq_true_iff.1 (hleads.declared n hn)

/-- A cycle through an optional value, a choice and a field inside a field, and a wrong name below
another type. -/
def maze : Declarations :=
  [("Door", .record [("key", .name "Key?")]), ("Key", .list ["Lock"]),
    ("Lock", .record [("of", .record [("doors", .name "Door[]")])]),
    ("Wall", .record [("stone", .name "Stone[]?")])]

theorem resolve_error_cases_maze :
    (resolve ⟨maze, []⟩ (.record [("start", .name "Lock[]")]) false).result =
        .error (.recursive ["Lock", "Door", "Key", "Lock"]) ∧
      "Lock" ∈ (TypeExpr.record [("start", .name "Lock[]")]).refs (isDeclared ⟨maze, []⟩) ∧
      ["Lock", "Door", "Key", "Lock"].IsChain (Refers ⟨maze, []⟩) ∧
      (resolve ⟨maze, []⟩ (.list ["Wall"]) true).result = .error (.unknown "Stone") ∧
      ∃ n body, Reaches ⟨maze, []⟩ (.list ["Wall"]) n ∧ maze.get? n = some body ∧
        "Stone" ∈ body.refs (isDeclared ⟨maze, []⟩) := by
  have hcycle : (resolve ⟨maze, []⟩ (.record [("start", .name "Lock[]")]) false).result =
      .error (.recursive ["Lock", "Door", "Key", "Lock"]) := by with_unfolding_all rfl
  have hstone : (resolve ⟨maze, []⟩ (.list ["Wall"]) true).result =
      .error (.unknown "Stone") := by with_unfolding_all rfl
  rcases resolve_error_cases hcycle with
    ⟨x, hx, -⟩ | ⟨first, names, last, hpath, -, hfirst, hchain, -⟩
  · cases hx
  · have hnames : ["Lock", "Door", "Key", "Lock"] = first :: names ++ [last] :=
      ResolveError.recursive.inj hpath
    have hlock : "Lock" = first := (List.cons.inj hnames).1
    rw [← hnames] at hchain
    refine ⟨hcycle, hlock ▸ hfirst, hchain, hstone, ?_⟩
    rcases resolve_error_cases hstone with ⟨x, hx, -, -, -, -, hwritten⟩ | ⟨_, _, _, hpath, -⟩
    · cases hx
      exact hwritten.resolve_left (by decide)
    · cases hpath

end Resolver

end Scaffold
