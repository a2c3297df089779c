import BuilderGen.Log.Event

/-!
# Computations that report events

A computation reports events up to its result, which may be a failure. What follows a failure does
not happen, but what was reported before it stays.
-/

namespace BuilderGen.Log

/-- The events of a computation, and its result. -/
structure Traced (ε α : Type) where
  events : List Event
  result : Except ε α

namespace Traced

variable {ε ε' α β : Type}

/-- The computation that reports nothing. -/
def ofExcept (r : Except ε α) : Traced ε α := ⟨[], r⟩

/-- The computation that reports one event. -/
def report (e : Event) : Traced ε Unit := ⟨[e], .ok ()⟩

/-- One computation behind another. -/
def andThen (x : Traced ε α) (f : α → Traced ε β) : Traced ε β :=
  match x.result with
  | .error e => ⟨x.events, .error e⟩
  | .ok a => ⟨x.events ++ (f a).events, (f a).result⟩

instance : Monad (Traced ε) where
  pure a := ⟨[], .ok a⟩
  bind := andThen

@[simp] theorem events_pure (a : α) : (pure a : Traced ε α).events = [] := rfl

@[simp] theorem result_pure (a : α) : (pure a : Traced ε α).result = .ok a := rfl

theorem bind_eq (x : Traced ε α) (f : α → Traced ε β) : x >>= f = x.andThen f := rfl

/-- Behind a success the next computation takes place. -/
theorem bind_of_ok {x : Traced ε α} {a : α} (f : α → Traced ε β) (h : x.result = .ok a) :
    x >>= f = ⟨x.events ++ (f a).events, (f a).result⟩ := by
  simp [bind_eq, andThen, h]

/-- Behind a failure nothing takes place, and what was reported stays. -/
theorem bind_of_error {x : Traced ε α} {e : ε} (f : α → Traced ε β) (h : x.result = .error e) :
    x >>= f = ⟨x.events, .error e⟩ := by
  simp [bind_eq, andThen, h]

/-- The result of a sequence hangs on the results alone, not on what is reported. -/
theorem result_bind (x : Traced ε α) (f : α → Traced ε β) :
    (x >>= f).result = x.result.bind fun a => (f a).result := by
  rcases h : x.result with e | a
  · simp [bind_of_error f h, Except.bind]
  · simp [bind_of_ok f h, Except.bind]

/-- A computation for each element of a list, up to the first failure. -/
def each (f : α → Traced ε β) : List α → Traced ε (List β)
  | [] => pure []
  | a :: rest => do
    let b ← f a
    let bs ← each f rest
    return b :: bs

/-- The computation whose failure is a result. -/
def attempt (x : Traced ε α) : Traced ε' (Except ε α) := ⟨x.events, .ok x.result⟩

end Traced

end BuilderGen.Log
