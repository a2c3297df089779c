/-!
# Dotted names

A qualified name is a sequence of segments with a dot between two of them. Every text can be read
this way: a text without a dot is one segment, and two dots in a row enclose an empty segment. So
splitting always gives at least one segment, and joining what was split gives the text back.
-/

namespace BuilderGen.Text

/-! ## 1. Splitting -/

/-- The segments of a text, as lists of characters. -/
def splitAtDots : List Char → List (List Char)
  | [] => [[]]
  | c :: rest =>
    if c = '.' then [] :: splitAtDots rest
    else
      match splitAtDots rest with
      | [] => [[c]]
      | s :: more => (c :: s) :: more

/-- The segments of a dotted name. -/
def segments (s : String) : List String := (splitAtDots s.toList).map String.ofList

theorem splitAtDots_ne_nil (s : List Char) : splitAtDots s ≠ [] := by
  cases s with
  | nil => simp [splitAtDots]
  | cons c rest =>
    unfold splitAtDots
    split
    · simp
    · split <;> simp

theorem segments_ne_nil (s : String) : segments s ≠ [] := by
  simp [segments, splitAtDots_ne_nil]

/-! ## 2. Joining -/

/-- The segments with a dot between two of them, as a list of characters. -/
def joinWithDots : List (List Char) → List Char
  | [] => []
  | [s] => s
  | s :: more => s ++ '.' :: joinWithDots more

theorem joinWithDots_cons_cons (s t : List Char) (more : List (List Char)) :
    joinWithDots (s :: t :: more) = s ++ '.' :: joinWithDots (t :: more) := rfl

/-- Joining the segments of a text gives the text. -/
theorem joinWithDots_splitAtDots (s : List Char) : joinWithDots (splitAtDots s) = s := by
  induction s with
  | nil => rfl
  | cons c rest ih =>
    have hne := splitAtDots_ne_nil rest
    unfold splitAtDots
    split
    · rename_i hc
      cases h : splitAtDots rest with
      | nil => exact absurd h hne
      | cons t more => rw [joinWithDots_cons_cons, ← h, ih, hc, List.nil_append]
    · cases h : splitAtDots rest with
      | nil => exact absurd h hne
      | cons t more =>
        rw [h] at ih
        cases more with
        | nil => simpa [joinWithDots] using ih
        | cons u more => simpa [joinWithDots_cons_cons] using ih

/-- The dotted name with the given segments. -/
def joinDots (names : List String) : String :=
  String.ofList (joinWithDots (names.map String.toList))

@[simp] theorem joinDots_singleton (s : String) : joinDots [s] = s := by
  simp [joinDots, joinWithDots]

/-- A dotted name is the join of its segments. -/
theorem joinDots_segments (s : String) : joinDots (segments s) = s := by
  simp [joinDots, segments, List.map_map, Function.comp_def, joinWithDots_splitAtDots]

/-! ## 3. Ends of a name -/

/-- The last segment: the simple name in a qualified one. -/
def lastSegment (s : String) : String := (segments s).getLast (segments_ne_nil s)

/-- The lists that arise by dropping segments from the front while one is left. -/
def properTails {α : Type} : List α → List (List α)
  | [] => []
  | a :: rest => (a :: rest) :: properTails rest

theorem mem_properTails {α : Type} {t l : List α} :
    t ∈ properTails l ↔ t ≠ [] ∧ t <:+ l := by
  induction l with
  | nil =>
    constructor
    · intro h
      simp [properTails] at h
    · rintro ⟨hne, hs⟩
      exact absurd (List.suffix_nil.1 hs) hne
  | cons a rest ih =>
    rw [properTails, List.mem_cons, ih, List.suffix_cons_iff]
    constructor
    · rintro (rfl | ⟨hne, hs⟩)
      · exact ⟨by simp, .inl rfl⟩
      · exact ⟨hne, .inr hs⟩
    · rintro ⟨hne, rfl | hs⟩
      · exact .inl rfl
      · exact .inr ⟨hne, hs⟩

end BuilderGen.Text
