/-!
# Sets of code points as strides

A property of characters is a set of code points. It is written down as a list of strides in
increasing order: alternating blocks of capital and small letters take one stride of step two
instead of one entry for every character. A case mapping is a list of strides that are shifted as a
whole.
-/

namespace BuilderGen.Text

/-! ## 1. Membership -/

/-- Every `step`-th code point from `first` up to `last`. -/
structure Stride where
  first : Nat
  last : Nat
  step : Nat

namespace Stride

/-- Whether a code point lies on the stride. -/
def holds (r : Stride) (n : Nat) : Bool :=
  r.first ≤ n && n ≤ r.last && (n - r.first) % r.step == 0

/-- Whether a code point lies on one of the strides. The list is in increasing order, so the search
stops at the first stride that starts behind the code point. -/
def within : List Stride → Nat → Bool
  | [], _ => false
  | r :: rest, n => if n < r.first then false else r.holds n || within rest n

@[simp] theorem within_nil (n : Nat) : within [] n = false := rfl

theorem within_cons (r : Stride) (rest : List Stride) (n : Nat) :
    within (r :: rest) n = if n < r.first then false else r.holds n || within rest n := rfl

/-- A code point that is found lies on one of the strides. -/
theorem exists_of_within {rs : List Stride} {n : Nat} (h : within rs n = true) :
    ∃ r ∈ rs, r.holds n = true := by
  induction rs with
  | nil => simp at h
  | cons r rest ih =>
    rw [within_cons] at h
    split at h
    · simp at h
    · cases hr : r.holds n with
      | true => exact ⟨r, by simp, hr⟩
      | false =>
        rw [hr, Bool.false_or] at h
        obtain ⟨q, hq, hn⟩ := ih h
        exact ⟨q, by simp [hq], hn⟩

end Stride

/-! ## 2. Mappings -/

/-- A stride whose code points are moved together: `first` goes to `target`. -/
structure Shift where
  first : Nat
  last : Nat
  step : Nat
  target : Nat

namespace Shift

/-- The stride of the code points that are moved. -/
def domain (s : Shift) : Stride := ⟨s.first, s.last, s.step⟩

/-- The image of a code point on one of the strides. -/
def image? : List Shift → Nat → Option Nat
  | [], _ => none
  | s :: rest, n => if s.domain.holds n then some (n - s.first + s.target) else image? rest n

@[simp] theorem image?_nil (n : Nat) : image? [] n = none := rfl

theorem image?_cons (s : Shift) (rest : List Shift) (n : Nat) :
    image? (s :: rest) n =
      if s.domain.holds n then some (n - s.first + s.target) else image? rest n := rfl

end Shift

end BuilderGen.Text
