import BuilderGen.Log.Traced
import BuilderGen.Proofs.Result
import Mathlib.Data.List.Perm.Basic

/-!
# One computation for each element of a list

* `result_each_ok`, `result_each_error`: a computation for each element succeeds if all of them do,
  and fails with a fault of one of them;
* `result_each_eq_error`: it fails with the fault of the first one that fails;
* `exists_of_mem_result_each`, `exists_mem_of_result_each`: each value is that of one of the
  elements, and each element has a value;
* `agree_each`: two computations that agree on each element agree on the list;
* `agree_each_of_perm`: in another order a computation comes to the same;
* `events_each_of_ok`, `events_each_of_error`: what is reported up to the first failure.
-/

namespace BuilderGen.Log.Traced

open BuilderGen.Result

variable {ε ε' α β β' : Type}

/-! ## 1. Results -/

theorem result_each_cons (f : α → Traced ε β) (a : α) (rest : List α) :
    (each f (a :: rest)).result =
      (f a).result.bind fun b => (each f rest).result.bind fun bs => .ok (b :: bs) := by
  rw [each, result_bind]
  simp only [result_bind, result_pure]

/-- A computation for each element succeeds exactly if each of them does, value by value. -/
theorem result_each_ok {f : α → Traced ε β} {l : List α} {bs : List β} :
    (each f l).result = .ok bs ↔ List.Forall₂ (fun a b => (f a).result = .ok b) l bs := by
  induction l generalizing bs with
  | nil => rw [List.forall₂_nil_left_iff, each, result_pure, Except.ok.injEq, eq_comm]
  | cons a rest ih =>
    rw [result_each_cons, List.forall₂_cons_left_iff, bind_ok]
    refine exists_congr fun b => ?_
    rw [bind_ok]
    constructor
    · intro ⟨hb, bs', hbs, e⟩
      exact ⟨bs', hb, ih.1 hbs, (Except.ok.inj e).symm⟩
    · intro ⟨bs', hb, hbs, e⟩
      exact ⟨hb, bs', ih.2 hbs, congrArg Except.ok e.symm⟩

/-- Each value is that of one of the elements. -/
theorem exists_of_mem_result_each {f : α → Traced ε β} {l : List α} {bs : List β}
    (h : (each f l).result = .ok bs) {b : β} (hb : b ∈ bs) : ∃ a ∈ l, (f a).result = .ok b := by
  have hall := result_each_ok.1 h
  clear h
  induction hall with
  | nil => cases hb
  | cons ha _ ih =>
    rcases List.mem_cons.1 hb with rfl | hb
    · exact ⟨_, List.mem_cons_self, ha⟩
    · obtain ⟨a, hmem, ha⟩ := ih hb
      exact ⟨a, List.mem_cons_of_mem _ hmem, ha⟩

/-- Each element has its value among the values. -/
theorem exists_mem_of_result_each {f : α → Traced ε β} {l : List α} {bs : List β}
    (h : (each f l).result = .ok bs) {a : α} (ha : a ∈ l) : ∃ b ∈ bs, (f a).result = .ok b := by
  have hall := result_each_ok.1 h
  clear h
  induction hall with
  | nil => cases ha
  | cons hb _ ih =>
    rcases List.mem_cons.1 ha with rfl | ha
    · exact ⟨_, List.mem_cons_self, hb⟩
    · obtain ⟨b, hmem, hb⟩ := ih ha
      exact ⟨b, List.mem_cons_of_mem _ hmem, hb⟩

/-- A computation for each element fails only with a fault of one of them. -/
theorem result_each_error {f : α → Traced ε β} {l : List α} {e : ε}
    (h : (each f l).result = .error e) : ∃ a ∈ l, (f a).result = .error e := by
  induction l with
  | nil => cases h
  | cons a rest ih =>
    rw [result_each_cons, bind_error] at h
    rcases h with h | ⟨b, -, h⟩
    · exact ⟨a, List.mem_cons_self, h⟩
    · rcases bind_error.1 h with h | ⟨bs, -, h⟩
      · obtain ⟨a', ha', he⟩ := ih h
        exact ⟨a', List.mem_cons_of_mem _ ha', he⟩
      · cases h

/-- **A computation for each element fails with a fault exactly if one of them does and those in
front of it succeed.** -/
theorem result_each_eq_error {f : α → Traced ε β} {l : List α} {e : ε} :
    (each f l).result = .error e ↔ ∃ front a back, l = front ++ a :: back ∧
      (∀ x ∈ front, ∃ b, (f x).result = .ok b) ∧ (f a).result = .error e := by
  induction l with
  | nil =>
    refine iff_of_false (fun h => nomatch h) ?_
    rintro ⟨front, a, back, h, -⟩
    exact absurd h.symm (List.append_ne_nil_of_right_ne_nil _ (List.cons_ne_nil _ _))
  | cons a rest ih =>
    rw [result_each_cons, bind_error]
    constructor
    · rintro (h | ⟨b, hb, h⟩)
      · exact ⟨[], a, rest, rfl, fun _ hx => absurd hx List.not_mem_nil, h⟩
      · rcases bind_error.1 h with h | ⟨bs, -, h⟩
        · obtain ⟨front, a', back, rfl, hfront, ha⟩ := ih.1 h
          exact ⟨a :: front, a', back, rfl, List.forall_mem_cons.2 ⟨⟨b, hb⟩, hfront⟩, ha⟩
        · cases h
    · rintro ⟨front, a', back, hl, hfront, ha⟩
      cases front with
      | nil =>
        cases hl
        exact .inl ha
      | cons x front =>
        cases hl
        obtain ⟨⟨b, hb⟩, hfront⟩ := List.forall_mem_cons.1 hfront
        exact .inr ⟨b, hb, bind_error.2 (.inl (ih.2 ⟨front, a', back, rfl, hfront, ha⟩))⟩

/-- Each element may be told by another name. -/
theorem result_each_map {γ : Type} {f : β → Traced ε γ} {g : α → β} {l : List α} :
    (each f (l.map g)).result = (each (fun a => f (g a)) l).result := by
  induction l with
  | nil => rfl
  | cons a rest ih => rw [List.map_cons, result_each_cons, result_each_cons, ih]

/-- Two computations with the same results on each element have the same result on the list. -/
theorem result_each_congr {f g : α → Traced ε β} {l : List α}
    (h : ∀ a ∈ l, (f a).result = (g a).result) : (each f l).result = (each g l).result := by
  induction l with
  | nil => rfl
  | cons a rest ih =>
    obtain ⟨ha, hrest⟩ := List.forall_mem_cons.1 h
    rw [result_each_cons, result_each_cons, ha, ih hrest]

/-! ## 2. Agreement -/

/-- Two computations that agree on each element agree on the list. -/
theorem agree_each {E : ε → ε' → Prop} {S : β → β' → Prop} {f : α → Traced ε β}
    {g : α → Traced ε' β'} {l : List α} (h : ∀ a ∈ l, Agree E S (f a).result (g a).result) :
    Agree E (List.Forall₂ S) (each f l).result (each g l).result := by
  induction l with
  | nil => exact .ok .nil
  | cons a rest ih =>
    obtain ⟨ha, hrest⟩ := List.forall_mem_cons.1 h
    rw [result_each_cons, result_each_cons]
    refine ha.bind fun b b' hb => (ih hrest).bind fun bs bs' hbs => ?_
    exact .ok (.cons hb hbs)

/-- A success carries over to another order, with the values in that order. -/
theorem exists_result_each_of_perm {f : α → Traced ε β} {l l' : List α} (hp : l.Perm l')
    {bs : List β} (h : (each f l).result = .ok bs) :
    ∃ bs', (each f l').result = .ok bs' ∧ bs.Perm bs' := by
  obtain ⟨bs', hbs', hperm⟩ := List.perm_comp_forall₂ hp.symm (result_each_ok.1 h)
  exact ⟨bs', result_each_ok.2 hbs', hperm.symm⟩

/-- **In another order a computation for each element comes to the same values in that order**, if
all its faults are alike. -/
theorem agree_each_of_perm {E : ε → ε → Prop} {f : α → Traced ε β} {l l' : List α}
    (hp : l.Perm l')
    (hE : ∀ a b e e', (f a).result = .error e → (f b).result = .error e' → E e e') :
    Agree E List.Perm (each f l).result (each f l').result := by
  cases hl : (each f l).result with
  | ok bs =>
    obtain ⟨bs', hbs', hperm⟩ := exists_result_each_of_perm hp hl
    rw [hbs']
    exact .ok hperm
  | error e =>
    cases hl' : (each f l').result with
    | ok bs' =>
      obtain ⟨bs, hbs, -⟩ := exists_result_each_of_perm hp.symm hl'
      rw [hl] at hbs
      cases hbs
    | error e' =>
      obtain ⟨a, -, ha⟩ := result_each_error hl
      obtain ⟨b, -, hb⟩ := result_each_error hl'
      exact .error (hE a b e e' ha hb)

/-! ## 3. Events -/

/-- Nothing is reported when only the value changes. -/
theorem events_bind_pure (x : Traced ε α) (g : α → β) :
    (x >>= fun a => pure (g a)).events = x.events := by
  cases hx : x.result with
  | error e => rw [bind_of_error _ hx]
  | ok a =>
    rw [bind_of_ok _ hx, events_pure]
    exact List.append_nil _

section

variable {f : α → Traced ε β} {a : α} (rest : List α)

/-- Behind a success the rest of the list is reported on. -/
theorem events_each_of_ok {b : β} (h : (f a).result = .ok b) :
    (each f (a :: rest)).events = (f a).events ++ (each f rest).events := by
  rw [each, bind_of_ok _ h]
  dsimp only
  rw [events_bind_pure]

/-- Behind a failure nothing is reported. -/
theorem events_each_of_error {e : ε} (h : (f a).result = .error e) :
    (each f (a :: rest)).events = (f a).events := by
  rw [each, bind_of_error _ h]

end

end BuilderGen.Log.Traced
