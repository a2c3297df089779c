import BuilderGen.Hierarchy.Lineage
import Mathlib.Logic.Relation
import Mathlib.Order.WellFounded

/-!
# Visits of a graph of parents

What a visit settles, what it fails with, and why it ends:

* `Consistent`: each settled node came behind all its parents, and its lineage follows from theirs.
  A visit keeps this, and settles its node (`visit_reaches`);
* a visit fails only with a node that is its own ancestor (`visit_error`);
* `Nested`: the visits that a visit makes. No chain of them is endless, whatever the graph
  (`nested_wellFounded`);
* so the table of all lineages is there exactly if no node is its own ancestor (`table_ok`,
  `table_error`), every lineage in it follows from those of the parents, and no other table has
  such lineages (`table_eq`).
-/

namespace BuilderGen.Lineage

open Relation

variable {n : Nat} {parents : Fin n → List (Fin n)} {s s' : Settled n}

/-- The node `p` is a parent of the node `i`. -/
def HasParent (parents : Fin n → List (Fin n)) (i p : Fin n) : Prop := p ∈ parents i

/-! ## 1. Settled nodes -/

@[simp] theorem has_nil (i : Fin n) : Settled.has [] i = false := rfl

theorem has_cons {i j : Fin n} {l : List (Fin n)} :
    Settled.has ((j, l) :: s) i = true ↔ i = j ∨ s.has i = true := by
  by_cases h : i = j
  · simp [Settled.has, h]
  · have hb : (i == j) = false := beq_false_of_ne h
    simp only [Settled.has, List.lookup_cons, hb, h, false_or]

@[simp] theorem lineage_cons_self (i : Fin n) (l : List (Fin n)) :
    Settled.lineage ((i, l) :: s) i = l := by
  simp [Settled.lineage]

theorem lineage_cons_of_ne {i j : Fin n} (l : List (Fin n)) (h : i ≠ j) :
    Settled.lineage ((j, l) :: s) i = s.lineage i := by
  have hb : (i == j) = false := beq_false_of_ne h
  simp only [Settled.lineage, List.lookup_cons, hb]

/-- What was settled stays settled. -/
theorem has_of_suffix {i : Fin n} (h : s <:+ s') (hi : s.has i = true) : s'.has i = true := by
  induction s' with
  | nil => rwa [List.suffix_nil.1 h] at hi
  | cons e rest ih =>
    rcases List.suffix_cons_iff.1 h with rfl | h
    · exact hi
    · exact has_cons.2 (.inr (ih h))

/-! ## 2. Consistency -/

/-- **Each settled node came behind all its parents, and its lineage follows from theirs.** -/
inductive Consistent (parents : Fin n → List (Fin n)) : Settled n → Prop where
  | nil : Consistent parents []
  | settle {s : Settled n} {i : Fin n} (hs : Consistent parents s) (hi : s.has i = false)
      (hp : ∀ p ∈ parents i, s.has p = true) :
      Consistent parents ((i, lineageFrom ((parents i).map s.lineage) i) :: s)

namespace Consistent

/-- A lineage is never settled twice. -/
theorem lineage_of_suffix (hc : Consistent parents s') (h : s <:+ s') {i : Fin n}
    (hi : s.has i = true) : s'.lineage i = s.lineage i := by
  induction hc with
  | nil => rw [List.suffix_nil.1 h]
  | @settle r j hr hj hp ih =>
    rcases List.suffix_cons_iff.1 h with rfl | h
    · rfl
    · have hij : i ≠ j := by
        rintro rfl
        have hi' : Settled.has r i = true := has_of_suffix ‹_› hi
        rw [hj] at hi'
        cases hi'
      rw [lineage_cons_of_ne _ hij, ih h]

/-- The lineage of a settled node follows from the lineages of its parents. -/
theorem lineage_eq (hc : Consistent parents s) {i : Fin n} (hi : s.has i = true) :
    s.lineage i = lineageFrom ((parents i).map s.lineage) i := by
  -- the parents of `i` are settled in the front part, where nothing changes behind it
  suffices h : ∃ r : Settled n, r <:+ s ∧ (∀ p ∈ parents i, r.has p = true) ∧
      s.lineage i = lineageFrom ((parents i).map r.lineage) i by
    obtain ⟨r, hr, hp, h⟩ := h
    rw [h]
    congr 1
    exact List.map_congr_left fun p hpi => (hc.lineage_of_suffix hr (hp p hpi)).symm
  induction hc with
  | nil => simp at hi
  | @settle r j hr hj hp ih =>
    by_cases hij : i = j
    · subst hij
      exact ⟨r, List.suffix_cons _ _, hp, lineage_cons_self _ _⟩
    · obtain ⟨t, ht, htp, e⟩ := ih ((has_cons.1 hi).resolve_left hij)
      exact ⟨t, ht.trans (List.suffix_cons _ _), htp, by rw [lineage_cons_of_ne _ hij, e]⟩

/-- Above a settled node there is no cycle. -/
theorem acc (hc : Consistent parents s) {i : Fin n} (hi : s.has i = true) :
    Acc (fun p j => HasParent parents j p) i := by
  induction hc generalizing i with
  | nil => simp at hi
  | settle hr hj hp ih =>
    rcases has_cons.1 hi with rfl | hi
    · exact ⟨_, fun p hpi => ih (hp p hpi)⟩
    · exact ih hi

end Consistent

/-! ## 3. What a visit settles -/

/-- What a visit makes of settled nodes: some nodes off the path are settled as well. -/
structure Reaches (parents : Fin n → List (Fin n)) (fresh : List (Fin n)) (s s' : Settled n) :
    Prop where
  consistent : Consistent parents s'
  suffix : s <:+ s'
  new : ∀ j, s'.has j = true → s.has j = true ∨ j ∈ fresh

theorem Reaches.refl (hc : Consistent parents s) (fresh : List (Fin n)) :
    Reaches parents fresh s s :=
  ⟨hc, List.suffix_refl s, fun _ => .inl⟩

theorem Reaches.trans {s'' : Settled n} {fresh : List (Fin n)} (h : Reaches parents fresh s s')
    (h' : Reaches parents fresh s' s'') : Reaches parents fresh s s'' :=
  ⟨h'.consistent, h.suffix.trans h'.suffix, fun j hj => (h'.new j hj).elim (h.new j) .inr⟩

theorem mem_leave {fresh : List (Fin n)} {i j : Fin n} : j ∈ leave fresh i ↔ j ∈ fresh ∧ j ≠ i := by
  simp [leave]

/-- Settling the visited node behind its parents. -/
theorem Reaches.settle {fresh : List (Fin n)} {i : Fin n}
    (h : Reaches parents (leave fresh i) s s') (hi : s.has i = false) (hif : i ∈ fresh)
    (hp : ∀ p ∈ parents i, s'.has p = true) :
    Reaches parents fresh s ((i, lineageFrom ((parents i).map s'.lineage) i) :: s') where
  consistent := by
    refine .settle h.consistent ?_ hp
    -- the node was on the path, so no visit above it has settled it
    refine Bool.eq_false_iff.2 fun hi' => ?_
    rcases h.new i hi' with hs | hf
    · rw [hi] at hs
      cases hs
    · exact (mem_leave.1 hf).2 rfl
  suffix := h.suffix.trans (List.suffix_cons _ _)
  new j hj := by
    rcases has_cons.1 hj with rfl | hj
    · exact .inr hif
    · exact (h.new j hj).imp_right fun hf => (mem_leave.1 hf).1

/-- A visit keeps consistency, and settles its node; a row of visits settles all its nodes. -/
theorem visit_reaches_and_visitAll_reaches (parents : Fin n → List (Fin n)) :
    (∀ s fresh i, Consistent parents s → ∀ s', visit parents s fresh i = .ok s' →
      Reaches parents fresh s s' ∧ s'.has i = true) ∧
    ∀ s fresh nodes, Consistent parents s → ∀ s', visitAll parents s fresh nodes = .ok s' →
      Reaches parents fresh s s' ∧ ∀ p ∈ nodes, s'.has p = true := by
  apply visit.mutual_induct
  -- a visit of a settled node
  case case1 =>
    intro s fresh i hi hc s' h
    rw [visit, if_pos hi] at h
    cases h
    exact ⟨.refl hc fresh, hi⟩
  -- a visit whose parents fail
  case case2 =>
    intro s fresh i hi hif k hv _ hc s' h
    rw [visit, if_neg hi, if_pos hif, hv] at h
    cases h
  -- a visit that settles its node
  case case3 =>
    intro s fresh i hi hif r hv ih hc s' h
    rw [visit, if_neg hi, if_pos hif, hv] at h
    cases h
    obtain ⟨hr, hp⟩ := ih hc r hv
    exact ⟨hr.settle (Bool.eq_false_iff.2 hi) hif hp, has_cons.2 (.inl rfl)⟩
  -- a visit of a node on the path
  case case4 =>
    intro s fresh i hi hif hc s' h
    rw [visit, if_neg hi, if_neg hif] at h
    cases h
  -- no visits
  case case5 =>
    intro s fresh hc s' h
    rw [visitAll] at h
    cases h
    exact ⟨.refl hc fresh, by simp⟩
  -- a row whose first visit fails
  case case6 =>
    intro s fresh p rest k hv _ hc s' h
    rw [visitAll, hv] at h
    cases h
  -- a row behind its first visit
  case case7 =>
    intro s fresh p rest r hv ih ih' hc s' h
    rw [visitAll, hv] at h
    obtain ⟨hr, hp⟩ := ih hc r hv
    obtain ⟨hr', hps⟩ := ih' hr.consistent s' h
    refine ⟨hr.trans hr', fun q hq => ?_⟩
    rcases List.mem_cons.1 hq with rfl | hq
    · exact has_of_suffix hr'.suffix hp
    · exact hps q hq

/-- **A visit keeps consistency, and settles its node.** -/
theorem visit_reaches {fresh : List (Fin n)} {i : Fin n} (hc : Consistent parents s)
    (h : visit parents s fresh i = .ok s') : Reaches parents fresh s s' ∧ s'.has i = true :=
  (visit_reaches_and_visitAll_reaches parents).1 s fresh i hc s' h

/-- A row of visits keeps consistency, and settles all its nodes. -/
theorem visitAll_reaches {fresh nodes : List (Fin n)} (hc : Consistent parents s)
    (h : visitAll parents s fresh nodes = .ok s') :
    Reaches parents fresh s s' ∧ ∀ p ∈ nodes, s'.has p = true :=
  (visit_reaches_and_visitAll_reaches parents).2 s fresh nodes hc s' h

/-! ## 4. What a visit fails with -/

/-- A visit fails with a node that is its own ancestor, if all nodes on the path lead to the visited
one; a row of visits does, if they lead to all its nodes. -/
theorem visit_error_and_visitAll_error (parents : Fin n → List (Fin n)) :
    (∀ s fresh i, Consistent parents s →
      (∀ a, a ∉ fresh → s.has a = false → TransGen (HasParent parents) a i) →
      ∀ k, visit parents s fresh i = .error k → TransGen (HasParent parents) k k) ∧
    ∀ s fresh nodes, Consistent parents s →
      (∀ a, a ∉ fresh → s.has a = false → ∀ p ∈ nodes, TransGen (HasParent parents) a p) →
      ∀ k, visitAll parents s fresh nodes = .error k → TransGen (HasParent parents) k k := by
  apply visit.mutual_induct
  -- a visit of a settled node
  case case1 =>
    intro s fresh i hi _ _ k h
    rw [visit, if_pos hi] at h
    cases h
  -- a visit whose parents fail
  case case2 =>
    intro s fresh i hi hif k hv ih hc hpath k' h
    rw [visit, if_neg hi, if_pos hif, hv] at h
    cases h
    refine ih hc (fun a ha hs p hp => ?_) k hv
    -- the path above a parent is the path above the node, and the node
    by_cases hai : a = i
    · exact .single (hai ▸ hp)
    · exact (hpath a (fun hf => ha (mem_leave.2 ⟨hf, hai⟩)) hs).tail hp
  -- a visit that settles its node
  case case3 =>
    intro s fresh i hi hif r hv _ _ _ k h
    rw [visit, if_neg hi, if_pos hif, hv] at h
    cases h
  -- a visit of a node on the path
  case case4 =>
    intro s fresh i hi hif _ hpath k h
    rw [visit, if_neg hi, if_neg hif] at h
    cases h
    exact hpath i hif (Bool.eq_false_iff.2 hi)
  -- no visits
  case case5 =>
    intro s fresh _ _ k h
    rw [visitAll] at h
    cases h
  -- a row whose first visit fails
  case case6 =>
    intro s fresh p rest k hv ih hc hpath k' h
    rw [visitAll, hv] at h
    cases h
    exact ih hc (fun a ha hs => hpath a ha hs p List.mem_cons_self) k hv
  -- a row behind its first visit
  case case7 =>
    intro s fresh p rest r hv _ ih hc hpath k h
    rw [visitAll, hv] at h
    obtain ⟨hr, -⟩ := visit_reaches hc hv
    refine ih hr.consistent (fun a ha hs q hq => hpath a ha ?_ q (List.mem_cons_of_mem p hq)) k h
    exact Bool.eq_false_iff.2 fun has => Bool.eq_false_iff.1 hs (has_of_suffix hr.suffix has)

/-- **A row of visits with all nodes off the path fails only with a node that is its own
ancestor.** -/
theorem visitAll_error {fresh nodes : List (Fin n)} (hc : Consistent parents s)
    (hf : ∀ a, a ∈ fresh) {k : Fin n} (h : visitAll parents s fresh nodes = .error k) :
    TransGen (HasParent parents) k k :=
  (visit_error_and_visitAll_error parents).2 s fresh nodes hc
    (fun a ha => absurd (hf a) ha) k h

/-! ## 5. Why visits end -/

/-- A visit, by the nodes off the path and the visited node. -/
abbrev Call (n : Nat) := List (Fin n) × Fin n

/-- The visits that a visit makes: those of the parents, with the node on the path. -/
def Nested (parents : Fin n → List (Fin n)) (callee caller : Call n) : Prop :=
  caller.2 ∈ caller.1 ∧ HasParent parents caller.2 callee.2 ∧ callee.1 = leave caller.1 caller.2

/-- **No chain of visits inside visits is endless**, whatever cycles the graph has. -/
theorem nested_wellFounded (parents : Fin n → List (Fin n)) : WellFounded (Nested parents) := by
  refine Subrelation.wf (r := fun a b : Call n => a.1.length < b.1.length) ?_
    (measure fun c : Call n => c.1.length).wf
  rintro ⟨fresh, p⟩ ⟨fresh', i⟩ ⟨hi, -, rfl⟩
  exact length_leave_lt hi

/-! ## 6. The table of all lineages -/

/-- **In a table of lineages each lineage follows from those of the parents, and there is no
cycle.** -/
theorem table_ok {v : Vector (List (Fin n)) n} (h : table parents = .ok v) :
    WellFounded (fun p i => HasParent parents i p) ∧
      ∀ i, v.get i = lineageFrom ((parents i).map v.get) i := by
  unfold table at h
  split at h
  · cases h
  · rename_i r hv
    cases h
    obtain ⟨hr, hall⟩ := visitAll_reaches .nil hv
    have hhas : ∀ i, r.has i = true := fun i => hall i (List.mem_finRange i)
    have hget : (Vector.ofFn r.lineage).get = r.lineage := by
      funext i
      exact Vector.getElem_ofFn i.isLt
    refine ⟨⟨fun i => hr.consistent.acc (hhas i)⟩, fun i => ?_⟩
    rw [hget]
    exact hr.consistent.lineage_eq (hhas i)

/-- **Without a table of lineages there is a cycle, through the node that is told.** -/
theorem table_error {k : Fin n} (h : table parents = .error k) :
    TransGen (HasParent parents) k k := by
  unfold table at h
  split at h
  · rename_i hv
    cases h
    exact visitAll_error .nil List.mem_finRange hv
  · cases h

/-- Where no node is its own ancestor, there is a table of lineages. -/
theorem exists_table (h : ∀ i, ¬ TransGen (HasParent parents) i i) :
    ∃ v, table parents = .ok v := by
  cases hv : table parents with
  | ok v => exact ⟨v, rfl⟩
  | error k => exact absurd (table_error hv) (h k)

/-- **There is no other table of lineages** than the one in which each lineage follows from those of
the parents, if these are shorter. -/
theorem table_eq {v : Vector (List (Fin n)) n}
    (hv : ∀ i, v.get i = lineageFrom ((parents i).map v.get) i)
    (hlt : ∀ i, ∀ p ∈ parents i, (v.get p).length < (v.get i).length) : table parents = .ok v := by
  have hwf : WellFounded fun p i => HasParent parents i p :=
    Subrelation.wf (fun hp => hlt _ _ hp) (measure fun i => (v.get i).length).wf
  obtain ⟨w, hw⟩ := exists_table fun i hi => hwf.transGen.irrefl.irrefl i (transGen_swap.2 hi)
  obtain ⟨-, heq⟩ := table_ok hw
  have hget : ∀ i, w.get i = v.get i := by
    intro i
    induction i using hwf.induction with
    | _ i ih => rw [heq, hv, List.map_congr_left ih]
  have hwv : w = v := Vector.ext fun i hi => hget ⟨i, hi⟩
  rw [hw, hwv]

end BuilderGen.Lineage
