import Scaffold.Generate.Run
import Scaffold.Proofs.Files.Create

/-!
# Runs on a device

A run on a device comes to an outcome and leaves a state of the device; its log plays no part in
that. `Ends` says so for any log that there is at the start. It is what sequences of steps are
followed by: every step has one lemma that says how it ends, and two lemmas put steps together, one
for a step that succeeds and one for a step that fails.
-/

namespace Scaffold

namespace Run

variable {σ ε ε' α β : Type} {s s₁ s₂ : σ} {x : Run (StateM σ) ε α}
  {f : α → Run (StateM σ) ε β} {r r' : Except ε α}

/-- What a run comes to, and the state that it leaves. -/
def on (x : Run (StateM σ) ε α) (s : σ) : Except ε α × σ :=
  let end' := (x.run.run []).run s
  (end'.1.1, end'.2)

instance [DecidableEq σ] [DecidableEq α] (x : Run (StateM σ) ε α) (s s' : σ) (a : α) :
    Decidable (x.on s = (.ok a, s')) :=
  match x.on s with
  | (.error _, _) => isFalse (by simp)
  | (.ok b, t) => decidable_of_iff (b = a ∧ t = s') (by simp)

instance [DecidableEq σ] (x : Run (StateM σ) ε α) (s s' : σ) :
    Decidable (∃ e, x.on s = (.error e, s')) :=
  match x.on s with
  | (.error _, t) => decidable_of_iff (t = s') (by simp)
  | (.ok _, _) => isFalse (by simp)

instance [DecidableEq σ] (x : Run (StateM σ) GenerateError α) (s s' : σ) (p : String)
    (cause : IoError) : Decidable (x.on s = (.error (.io p cause), s')) :=
  match x.on s with
  | (.ok _, _) => isFalse (by simp)
  | (.error e, t) =>
      match e with
      | .io q cause' => decidable_of_iff (q = p ∧ cause' = cause ∧ t = s') (by simp [and_assoc])
      | .load _ | .schema _ | .render _ _ | .emptyUnion _ | .noTemplates | .noName =>
          isFalse (by simp)

/-- In the first state, the run comes to the outcome and leaves the second state. -/
def Ends (x : Run (StateM σ) ε α) (s : σ) (r : Except ε α) (s' : σ) : Prop :=
  ∀ log, ∃ log', (x.run.run log).run s = ((r, log'), s')

theorem run_bind_eq (x : Run (StateM σ) ε α) (f : α → Run (StateM σ) ε β) (log : List Event)
    (s : σ) :
    ((x >>= f).run.run log).run s =
      match (x.run.run log).run s with
      | ((.ok a, log'), s') => ((f a).run.run log').run s'
      | ((.error e, log'), s') => ((.error e, log'), s') := by
  have hrun : ((x >>= f).run.run log).run s =
      let end' := (x.run.run log).run s
      (StateT.run (ExceptT.bindCont f end'.1.1) end'.1.2).run end'.2 := rfl
  rw [hrun]
  rcases (x.run.run log).run s with ⟨⟨r, log'⟩, s'⟩
  cases r <;> rfl

namespace Ends

theorem on_eq (h : x.Ends s r s₁) : x.on s = (r, s₁) := by
  obtain ⟨log', hlog⟩ := h []
  simp [on, hlog]

/-- A run ends in one way only. -/
theorem unique (h : x.Ends s r s₁) (h' : x.Ends s r' s₂) : r = r' ∧ s₁ = s₂ := by
  have heq := h.on_eq.symm.trans h'.on_eq
  exact ⟨congrArg Prod.fst heq, congrArg Prod.snd heq⟩

theorem pure (a : α) (s : σ) : (Pure.pure a : Run (StateM σ) ε α).Ends s (.ok a) s :=
  fun log => ⟨log, rfl⟩

theorem throw (e : ε) (s : σ) :
    (MonadExcept.throw e : Run (StateM σ) ε α).Ends s (.error e) s :=
  fun log => ⟨log, rfl⟩

theorem bind_ok {a : α} {r : Except ε β} (hx : x.Ends s (.ok a) s₁) (hf : (f a).Ends s₁ r s₂) :
    (x >>= f).Ends s r s₂ := by
  intro log
  obtain ⟨log₁, hlog₁⟩ := hx log
  obtain ⟨log₂, hlog₂⟩ := hf log₁
  exact ⟨log₂, by rw [run_bind_eq, hlog₁]; exact hlog₂⟩

theorem bind_error {e : ε} (hx : x.Ends s (.error e) s₁) :
    (x >>= f).Ends s (.error e) s₁ := by
  intro log
  obtain ⟨log₁, hlog₁⟩ := hx log
  exact ⟨log₁, by rw [run_bind_eq, hlog₁]⟩

theorem leave (events : List Event) (s : σ) :
    (Run.leave events : Run (StateM σ) ε Unit).Ends s (.ok ()) s :=
  fun log => ⟨log ++ events, rfl⟩

theorem ofLogged (x : Logged ε α) (s : σ) :
    (Run.ofLogged x : Run (StateM σ) ε α).Ends s x.result s :=
  bind_ok (leave x.log s) fun log => ⟨log, rfl⟩

theorem ofFiles {g : IoError → ε} {x : StateM σ (Except IoError α)} {r : Except IoError α}
    (h : x.run s = (r, s₁)) : (Run.ofFiles g x).Ends s (r.mapError g) s₁ := by
  intro log
  refine ⟨log, ?_⟩
  change ((((x.run s).1.mapError g), log), (x.run s).2) = _
  rw [h]

theorem lift {x : StateM σ α} {a : α} (h : x.run s = (a, s₁)) :
    @Ends σ ε α (ExceptT.lift (StateT.lift x)) s (.ok a) s₁ := by
  intro log
  refine ⟨log, ?_⟩
  change ((Except.ok (x.run s).1, log), (x.run s).2) = _
  rw [h]

theorem mapError (g : ε → ε') (h : x.Ends s r s₁) : (x.mapError g).Ends s (r.mapError g) s₁ := by
  intro log
  obtain ⟨log₁, hlog₁⟩ := h log
  refine ⟨log₁, ?_⟩
  change ((((x.run.run log).run s).1.1.mapError g, ((x.run.run log).run s).1.2),
    ((x.run.run log).run s).2) = _
  rw [hlog₁]

end Ends

end Run

end Scaffold
