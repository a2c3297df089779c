/-!
# Results that may be faults

When a sequence of steps succeeds and with which fault it fails, and when two results come to the
same.

* `bind_ok`, `bind_error`: a step behind another one;
* `map_ok`, `map_error`, `mapError_ok`, `mapError_error`: a change to the value, or to the fault;
* `andThen_ok`, `andThen_error`: a step behind a check;
* `Agree`: both results are values that are related, or both are faults that are.
-/

namespace BuilderGen.Result

variable {ε ε' δ δ' α α' β β' : Type}

/-! ## 1. Sequences -/

/-- A sequence succeeds if both of its steps do. -/
theorem bind_ok {x : Except ε α} {f : α → Except ε β} {b : β} :
    x.bind f = .ok b ↔ ∃ a, x = .ok a ∧ f a = .ok b := by
  cases x with
  | error e => simp [Except.bind]
  | ok a => simp [Except.bind]

/-- A sequence fails with the fault of its first step that fails. -/
theorem bind_error {x : Except ε α} {f : α → Except ε β} {e : ε} :
    x.bind f = .error e ↔ x = .error e ∨ ∃ a, x = .ok a ∧ f a = .error e := by
  cases x with
  | error e' => simp [Except.bind]
  | ok a => simp [Except.bind]

theorem map_ok {x : Except ε α} {f : α → β} {b : β} :
    x.map f = .ok b ↔ ∃ a, x = .ok a ∧ f a = b := by
  cases x with
  | error e => simp [Except.map]
  | ok a => simp [Except.map]

theorem map_error {x : Except ε α} {f : α → β} {e : ε} : x.map f = .error e ↔ x = .error e := by
  cases x with
  | error e' => simp [Except.map]
  | ok a => simp [Except.map]

theorem mapError_ok {x : Except ε α} {f : ε → δ} {a : α} : x.mapError f = .ok a ↔ x = .ok a := by
  cases x with
  | error e =>
    constructor
    · intro h
      cases h
    · intro h
      cases h
  | ok b =>
    constructor
    · intro h
      cases h
      rfl
    · intro h
      cases h
      rfl

theorem mapError_error {x : Except ε α} {f : ε → δ} {d : δ} :
    x.mapError f = .error d ↔ ∃ e, x = .error e ∧ f e = d := by
  cases x with
  | error e =>
    constructor
    · intro h
      exact ⟨e, rfl, Except.error.inj h⟩
    · rintro ⟨_, h, rfl⟩
      cases h
      rfl
  | ok b =>
    constructor
    · intro h
      cases h
    · rintro ⟨_, h, -⟩
      cases h

/-- A row of checks passes if both of its parts do. -/
theorem andThen_ok {x : Except ε Unit} {y : Except ε α} {a : α} :
    (x >>= fun _ => y) = .ok a ↔ x = .ok () ∧ y = .ok a := by
  show x.bind (fun _ => y) = .ok a ↔ _
  rw [bind_ok]
  exact ⟨fun ⟨_, h⟩ => h, fun h => ⟨(), h⟩⟩

/-- A row of checks fails with the fault of its first part that fails. -/
theorem andThen_error {x : Except ε Unit} {y : Except ε α} {e : ε} :
    (x >>= fun _ => y) = .error e ↔ x = .error e ∨ x = .ok () ∧ y = .error e := by
  show x.bind (fun _ => y) = .error e ↔ _
  rw [bind_error]
  exact or_congr_right ⟨fun ⟨_, h⟩ => h, fun h => ⟨(), h⟩⟩

/-! ## 2. Agreement -/

/-- **Both results are values that are related, or both are faults that are.** -/
inductive Agree (E : ε → ε' → Prop) (R : α → α' → Prop) : Except ε α → Except ε' α' → Prop where
  | ok {a : α} {a' : α'} : R a a' → Agree E R (.ok a) (.ok a')
  | error {e : ε} {e' : ε'} : E e e' → Agree E R (.error e) (.error e')

namespace Agree

variable {E : ε → ε' → Prop} {F : δ → δ' → Prop} {R : α → α' → Prop} {S : β → β' → Prop}
  {x : Except ε α} {y : Except ε' α'}

/-- If one of the results is a value, so is the other. -/
theorem exists_ok (h : Agree E R x y) {a : α} (hx : x = .ok a) : ∃ a', y = .ok a' ∧ R a a' := by
  subst hx
  cases h with
  | ok hr => exact ⟨_, rfl, hr⟩

/-- If the values hang together by a function, so do the successes. -/
theorem toOption {f : α → α'} (h : Agree E (fun a a' => a' = f a) x y) :
    y.toOption = x.toOption.map f := by
  cases h with
  | ok hr => exact congrArg some hr
  | error _ => rfl

theorem bind {f : α → Except ε β} {g : α' → Except ε' β'} (h : Agree E R x y)
    (hf : ∀ a a', R a a' → Agree E S (f a) (g a')) : Agree E S (x.bind f) (y.bind g) := by
  cases h with
  | ok hr => exact hf _ _ hr
  | error he => exact .error he

theorem mapError {f : ε → δ} {g : ε' → δ'} (h : Agree E R x y)
    (hf : ∀ e e', E e e' → F (f e) (g e')) : Agree F R (x.mapError f) (y.mapError g) := by
  cases h with
  | ok hr => exact .ok hr
  | error he => exact .error (hf _ _ he)

end Agree

end BuilderGen.Result
