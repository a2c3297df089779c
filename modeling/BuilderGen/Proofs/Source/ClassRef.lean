import BuilderGen.Proofs.Text.Segments
import BuilderGen.Source.ClassRef

/-!
# References from qualified names

A qualified name does not tell where its package ends. The reference to the class with the name is
made as if the package ended in front of the first capital letter at the start of a segment.

* `ofQualified_spec`: the reference shares out the segments of the name, and the class has some;
* `canonical_ofQualified`: it keeps the whole name, unless this starts with a dot;
* `ofQualified_append`: the package is found again if it has no capital letters and the first class
  has one.
-/

namespace BuilderGen.Source.ClassRef

/-! ## 1. Where the package ends -/

/-- The package never takes up the whole name. -/
theorem packageLength_lt {segments : List String} (hne : segments ≠ []) :
    packageLength segments < segments.length := by
  have hpos := List.length_pos_iff.2 hne
  unfold packageLength
  cases hindex : segments.findIdx? isClassSegment with
  | none =>
    rw [Option.getD_none]
    omega
  | some k =>
    rw [Option.getD_some]
    exact (List.findIdx?_eq_some_iff_findIdx_eq.1 hindex).1

/-- The package ends in front of a class if no segment before it has a capital letter. -/
theorem packageLength_append {front back : List String} {first : String}
    (hfront : ∀ s ∈ front, isClassSegment s = false) (hfirst : isClassSegment first = true) :
    packageLength (front ++ first :: back) = front.length := by
  have hnone : front.findIdx? isClassSegment = none := List.findIdx?_eq_none_iff.2 hfront
  unfold packageLength
  rw [List.findIdx?_append, hnone, List.findIdx?_cons, if_pos hfirst]
  simp

theorem ofQualified_eq {q : String} {front back : List String}
    (hq : Text.segments q = front ++ back) (hfront : packageLength (front ++ back) = front.length) :
    ofQualified q = ⟨Text.joinDots front, back⟩ := by
  unfold ofQualified
  dsimp only
  rw [hq, hfront, List.take_left, List.drop_left]

/-- **The segments of a qualified name are those of the package and the names of the class.** -/
theorem ofQualified_spec (q : String) : ∃ front back, Text.segments q = front ++ back ∧ back ≠ [] ∧
    ofQualified q = ⟨Text.joinDots front, back⟩ := by
  have hlt := packageLength_lt (Text.segments_ne_nil q)
  have hback : (Text.segments q).drop (packageLength (Text.segments q)) ≠ [] := by
    intro e
    have hle := List.drop_eq_nil_iff.1 e
    omega
  exact ⟨_, _, (List.take_append_drop _ _).symm, hback, rfl⟩

/-! ## 2. The whole name -/

/-- **The reference from a qualified name keeps the whole name**, unless this starts with a dot: then
the package may be empty, and no dot stands behind it. -/
theorem canonical_ofQualified {q : String} (hq : q.toList.head? ≠ some '.') :
    (ofQualified q).canonical = q := by
  obtain ⟨front, back, hsegments, hback, hclass⟩ := ofQualified_spec q
  have hjoin : Text.joinDots (front ++ back) = q := by rw [← hsegments, Text.joinDots_segments]
  rw [hclass]
  show (if (Text.joinDots front).isEmpty then Text.joinDots back
    else Text.joinDots front ++ "." ++ Text.joinDots back) = q
  by_cases hfront : front = []
  · rw [hfront]
    rw [hfront, List.nil_append] at hjoin
    exact hjoin
  · rw [Text.joinDots_append hfront hback] at hjoin
    have hpackage : ¬ (Text.joinDots front).isEmpty = true := by
      intro hempty
      -- Nothing would stand in front of the first dot.
      rw [String.isEmpty_iff.1 hempty] at hjoin
      apply hq
      rw [← hjoin]
      simp
    rw [if_neg hpackage]
    exact hjoin

/-- **The package of a qualified name is found again** if no segment of the package has a capital
letter at its front, and the first class has one. -/
theorem ofQualified_append {package nested : String}
    (hpackage : ∀ s ∈ Text.segments package, isClassSegment s = false)
    (hnested : ∀ s ∈ (Text.segments nested).head?, isClassSegment s = true) :
    ofQualified (if package.isEmpty then nested else package ++ "." ++ nested) =
      ⟨package, Text.segments nested⟩ := by
  obtain ⟨first, rest, hsegments⟩ := List.exists_cons_of_ne_nil (Text.segments_ne_nil nested)
  rw [hsegments] at hnested ⊢
  have hfirst : isClassSegment first = true := hnested first rfl
  cases hempty : package.isEmpty with
  | true =>
    have hname : Text.segments nested = [] ++ first :: rest := hsegments
    have hlength : packageLength ([] ++ first :: rest) = 0 :=
      packageLength_append (List.forall_mem_nil _) hfirst
    rw [if_pos rfl, ofQualified_eq hname hlength, String.isEmpty_iff.1 hempty]
    rfl
  | false =>
    have hname : Text.segments (package ++ "." ++ nested) =
        Text.segments package ++ first :: rest := by
      rw [Text.segments_append, hsegments]
    rw [if_neg Bool.false_ne_true, ofQualified_eq hname (packageLength_append hpackage hfirst),
      Text.joinDots_segments]

end BuilderGen.Source.ClassRef
