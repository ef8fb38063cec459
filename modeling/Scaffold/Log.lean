/-!
# Log events

Reading, resolving and generating leave a log. `Logged` is a computation that may fail and that
leaves its log either way; `result` forgets the log, and is compatible with sequencing
(`result_bind`), so a statement about outcomes need not mention logs.
-/

namespace Scaffold

/-- How much an event matters, the least first. -/
inductive Level where
  | trace
  | debug
  | info
  | warn
  | error
deriving Repr, DecidableEq

namespace Level

/-- The rank of a level. -/
def rank : Level → Nat
  | .trace => 0
  | .debug => 1
  | .info => 2
  | .warn => 3
  | .error => 4

/-- The name of a level in a log line. -/
def label : Level → String
  | .trace => "TRACE"
  | .debug => "DEBUG"
  | .info => "INFO"
  | .warn => "WARN"
  | .error => "ERROR"

end Level

/-- The activity that an event comes from. -/
inductive Activity where
  | reading
  | resolving
  | describing
  | generating
  | expanding
  | program
deriving Repr, DecidableEq

/-- The name of an activity in a log line. -/
def Activity.label : Activity → String
  | .reading => "protoforge_schema::parser"
  | .resolving => "protoforge_schema::ir"
  | .describing => "protoforge_codegen::enrich"
  | .generating => "protoforge_codegen::generator"
  | .expanding => "protoforge_codegen::template"
  | .program => "protoforge"

/-- An event. -/
structure Event where
  level : Level
  activity : Activity
  text : String
deriving Repr, DecidableEq

/-- An outcome and the log that was left on the way to it. -/
structure Logged (ε α : Type) where
  log : List Event
  result : Except ε α

namespace Logged

variable {ε ε' α β : Type}

/-- Leaves one event. -/
def tell (level : Level) (activity : Activity) (text : String) : Logged ε Unit :=
  ⟨[⟨level, activity, text⟩], .ok ()⟩

/-- An outcome without a log. -/
def ofExcept (result : Except ε α) : Logged ε α := ⟨[], result⟩

/-- Fails. -/
def fail (e : ε) : Logged ε α := ⟨[], .error e⟩

/-- Goes on with the value, unless there is none. -/
def andThen (x : Logged ε α) (f : α → Logged ε β) : Logged ε β :=
  match x.result with
  | .ok a => ⟨x.log ++ (f a).log, (f a).result⟩
  | .error e => ⟨x.log, .error e⟩

instance : Monad (Logged ε) where
  pure a := ⟨[], .ok a⟩
  bind := andThen

/-- Changes the error. -/
def mapError (f : ε → ε') (x : Logged ε α) : Logged ε' α := ⟨x.log, x.result.mapError f⟩

@[simp] theorem result_pure (a : α) : (pure a : Logged ε α).result = .ok a := rfl

@[simp] theorem result_fail (e : ε) : (fail e : Logged ε α).result = .error e := rfl

@[simp] theorem result_tell (level : Level) (activity : Activity) (text : String) :
    (tell level activity text : Logged ε Unit).result = .ok () := rfl

@[simp] theorem result_ofExcept (x : Except ε α) : (ofExcept x).result = x := rfl

@[simp] theorem result_bind (x : Logged ε α) (f : α → Logged ε β) :
    (x >>= f).result = x.result >>= fun a => (f a).result := by
  show (andThen x f).result = _
  unfold andThen
  cases x.result <;> rfl

@[simp] theorem result_map (f : α → β) (x : Logged ε α) :
    (f <$> x).result = f <$> x.result := by
  show (andThen x fun a => pure (f a)).result = _
  unfold andThen
  cases x.result <;> rfl

@[simp] theorem result_mapError (f : ε → ε') (x : Logged ε α) :
    (x.mapError f).result = x.result.mapError f := rfl

end Logged

end Scaffold
