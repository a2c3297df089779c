import BuilderGen.Text.Segments
import BuilderGen.Text.Sorted

/-!
# Segments of dotted names, and sorted names

* `splitAtDots_append`, `joinDots_append`: a dot between two texts separates their segments, and a
  dot stands between two rows of names;
* `lastSegment_joinDots`: names without dots are the segments of their join, so the last of them is
  the last segment;
* `lastSegment_suffix`, `lastSegment_eq_iff`: a text ends with its last segment, and what stands in
  front of it ends with a dot;
* `pairwise_sortedSet`: the names of a sorted set increase.
-/

namespace BuilderGen.Text

/-! ## 1. Segments -/

/-- A text without a dot is one segment. -/
theorem splitAtDots_of_not_mem {s : List Char} (h : '.' ∉ s) : splitAtDots s = [s] := by
  induction s with
  | nil => rfl
  | cons c rest ih =>
    rw [List.mem_cons, not_or] at h
    rw [splitAtDots, if_neg (Ne.symm h.1), ih h.2]

theorem splitAtDots_append (s t : List Char) :
    splitAtDots (s ++ '.' :: t) = splitAtDots s ++ splitAtDots t := by
  induction s with
  | nil => simp [splitAtDots]
  | cons c rest ih =>
    rw [List.cons_append, splitAtDots, splitAtDots, ih]
    by_cases hc : c = '.'
    · rw [if_pos hc, if_pos hc, List.cons_append]
    · rw [if_neg hc, if_neg hc]
      cases hr : splitAtDots rest with
      | nil => exact absurd hr (splitAtDots_ne_nil rest)
      | cons w more => rfl

/-- The segments of two texts with a dot between them. -/
theorem segments_append (s t : String) : segments (s ++ "." ++ t) = segments s ++ segments t := by
  have htext : (s ++ "." ++ t).toList = s.toList ++ '.' :: t.toList := by simp
  rw [segments, htext, splitAtDots_append, List.map_append]
  rfl

theorem segments_of_not_mem {s : String} (h : '.' ∉ s.toList) : segments s = [s] := by
  rw [segments, splitAtDots_of_not_mem h, List.map_singleton, String.ofList_toList]

theorem dot_not_mem_of_mem_splitAtDots {s w : List Char} (hw : w ∈ splitAtDots s) : '.' ∉ w := by
  induction s generalizing w with
  | nil =>
    rw [splitAtDots, List.mem_singleton] at hw
    rw [hw]
    exact List.not_mem_nil
  | cons c rest ih =>
    unfold splitAtDots at hw
    by_cases hc : c = '.'
    · rw [if_pos hc, List.mem_cons] at hw
      rcases hw with hw | hw
      · rw [hw]
        exact List.not_mem_nil
      · exact ih hw
    · rw [if_neg hc] at hw
      cases hrest : splitAtDots rest with
      | nil => exact absurd hrest (splitAtDots_ne_nil rest)
      | cons v more =>
        rw [hrest] at hw ih
        rcases List.mem_cons.1 hw with hw | hw
        · rw [hw, List.mem_cons, not_or]
          exact ⟨Ne.symm hc, ih List.mem_cons_self⟩
        · exact ih (List.mem_cons_of_mem v hw)

theorem lastSegment_eq (s : String) :
    lastSegment s = String.ofList ((splitAtDots s.toList).getLast (splitAtDots_ne_nil _)) := by
  simp [lastSegment, segments]

/-- A name without a dot is its own last segment. -/
theorem lastSegment_of_not_mem {s : String} (h : '.' ∉ s.toList) : lastSegment s = s := by
  simp [lastSegment_eq, splitAtDots_of_not_mem h]

/-- Only a name without a dot is its own last segment. -/
theorem lastSegment_eq_self_iff {s : String} : lastSegment s = s ↔ '.' ∉ s.toList := by
  constructor
  · intro e
    rw [← e, lastSegment_eq, String.toList_ofList]
    exact dot_not_mem_of_mem_splitAtDots (List.getLast_mem _)
  · exact lastSegment_of_not_mem

/-- What stands in front of a dot does not count for the last segment. -/
theorem lastSegment_append (s t : String) : lastSegment (s ++ "." ++ t) = lastSegment t := by
  have h : (s ++ "." ++ t).toList = s.toList ++ '.' :: t.toList := by simp
  simp only [lastSegment_eq, h, splitAtDots_append]
  rw [List.getLast_append_of_ne_nil]

theorem joinDots_cons_cons (n k : String) (names : List String) :
    joinDots (n :: k :: names) = n ++ "." ++ joinDots (k :: names) := by
  apply String.toList_injective
  simp [joinDots, joinWithDots_cons_cons]

/-- Between two rows of names stands a dot. -/
theorem joinDots_append {front back : List String} (hfront : front ≠ []) (hback : back ≠ []) :
    joinDots (front ++ back) = joinDots front ++ "." ++ joinDots back := by
  induction front with
  | nil => exact absurd rfl hfront
  | cons k rest ih =>
    cases rest with
    | nil =>
      obtain ⟨n, more, rfl⟩ := List.exists_cons_of_ne_nil hback
      rw [List.singleton_append, joinDots_cons_cons, joinDots_singleton]
    | cons k' rest =>
      rw [List.cons_append, List.cons_append, joinDots_cons_cons, ← List.cons_append,
        ih (List.cons_ne_nil _ _), joinDots_cons_cons]
      simp only [String.append_assoc]

/-- One more name stands behind a dot. -/
theorem joinDots_concat {names : List String} (h : names ≠ []) (n : String) :
    joinDots (names ++ [n]) = joinDots names ++ "." ++ n := by
  rw [joinDots_append h (List.cons_ne_nil _ _), joinDots_singleton]

/-- **The last of some names is the last segment of the dotted name that they form.** -/
theorem lastSegment_joinDots {names : List String} (h : ∀ n ∈ names, '.' ∉ n.toList) :
    lastSegment (joinDots names) = names.getLast?.getD "" := by
  induction names with
  | nil => exact lastSegment_of_not_mem (by simp [joinDots, joinWithDots])
  | cons n rest ih =>
    obtain ⟨hn, hrest⟩ := List.forall_mem_cons.1 h
    cases rest with
    | nil => simp [lastSegment_of_not_mem hn]
    | cons k rest => rw [joinDots_cons_cons, lastSegment_append, ih hrest, List.getLast?_cons_cons]

/-- A text is its last segment, or has it behind a dot. -/
theorem eq_lastSegment_or (s : String) :
    s = lastSegment s ∨ ∃ front, s = front ++ "." ++ lastSegment s := by
  have hjoin : joinDots ((segments s).dropLast ++ [lastSegment s]) = s := by
    rw [lastSegment, List.dropLast_concat_getLast, joinDots_segments]
  by_cases hfront : (segments s).dropLast = []
  · rw [hfront, List.nil_append, joinDots_singleton] at hjoin
    exact .inl hjoin.symm
  · rw [joinDots_concat hfront] at hjoin
    exact .inr ⟨_, hjoin.symm⟩

/-- A text ends with its last segment. -/
theorem lastSegment_suffix (s : String) : (lastSegment s).toList <:+ s.toList := by
  rcases eq_lastSegment_or s with hs | ⟨front, hs⟩
  · exact ⟨[], by rw [List.nil_append, ← hs]⟩
  · exact ⟨(front ++ ".").toList, by rw [← String.toList_append, ← hs]⟩

/-- **What has a name without dots for its last segment** is this name, or has it behind a dot. -/
theorem lastSegment_eq_iff {s name : String} (hname : '.' ∉ name.toList) :
    lastSegment s = name ↔ s = name ∨ ∃ front, s = front ++ "." ++ name := by
  constructor
  · rintro rfl
    exact eq_lastSegment_or s
  · rintro (rfl | ⟨front, rfl⟩)
    · exact lastSegment_of_not_mem hname
    · rw [lastSegment_append, lastSegment_of_not_mem hname]

/-! ## 2. Sorted names -/

theorem pairwise_insertSorted {s : String} {l : List String} (h : l.Pairwise (· < ·)) :
    (insertSorted s l).Pairwise (· < ·) := by
  induction l with
  | nil => exact List.pairwise_singleton _ s
  | cons t rest ih =>
    obtain ⟨ht, hrest⟩ := List.pairwise_cons.1 h
    rw [insertSorted]
    by_cases hst : s < t
    · rw [if_pos hst]
      refine List.pairwise_cons.2 ⟨List.forall_mem_cons.2 ⟨hst, fun u hu => ?_⟩, h⟩
      exact String.lt_trans hst (ht u hu)
    · rw [if_neg hst]
      by_cases he : s = t
      · rw [if_pos he]
        exact h
      · rw [if_neg he]
        refine List.pairwise_cons.2 ⟨fun u hu => ?_, ih hrest⟩
        rcases mem_insertSorted.1 hu with rfl | hu
        · by_cases htu : t < u
          · exact htu
          · exact absurd (String.le_antisymm (String.not_lt.1 htu) (String.not_lt.1 hst)) he
        · exact ht u hu

/-- **The names of a sorted set increase.** -/
theorem pairwise_sortedSet (names : List String) : (sortedSet names).Pairwise (· < ·) := by
  induction names with
  | nil => exact .nil
  | cons s rest ih => exact pairwise_insertSorted ih

end BuilderGen.Text
