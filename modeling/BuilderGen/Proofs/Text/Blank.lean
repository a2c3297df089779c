import BuilderGen.Text.Blank
import BuilderGen.Text.Numeric
import Mathlib.Data.List.TakeWhile

/-!
# Runs of characters, and blanks

* `StartsOutside`, `takeWhile_of_startsOutside`: a run of characters of one kind stops where a
  character of another kind stands;
* `isAlphanumeric_of_isBlank`: no blank is a letter or a number;
* `Trimmed`, `trim_eq_iff`: a trimmed text is what stands between the blanks at the two ends, with
  `trim_eq_self_iff`.
-/

namespace BuilderGen.Text

/-! ## 1. Runs -/

/-- A text that is empty, or whose first character is not of a kind. -/
def StartsOutside (kind : Char → Bool) (s : List Char) : Prop := ∀ c ∈ s.head?, kind c = false

section

variable {kind : Char → Bool}

theorem startsOutside_cons {c : Char} (hc : kind c = false) (rest : List Char) :
    StartsOutside kind (c :: rest) := by
  intro d hd
  cases hd
  exact hc

theorem startsOutside_append {s t : List Char} (hs : StartsOutside kind s)
    (ht : StartsOutside kind t) : StartsOutside kind (s ++ t) := by
  cases s with
  | nil => exact ht
  | cons c rest => exact startsOutside_cons (hs c rfl) _

theorem startsOutside_dropWhile (s : List Char) : StartsOutside kind (s.dropWhile kind) := by
  have hhead := List.head?_dropWhile_not kind s
  intro c hc
  rw [Option.mem_def.1 hc] at hhead
  exact hhead

/-- **A run of characters stops where the text behind it starts.** -/
theorem takeWhile_of_startsOutside {front rest : List Char} (hfront : ∀ c ∈ front, kind c = true)
    (hrest : StartsOutside kind rest) :
    (front ++ rest).takeWhile kind = front ∧ (front ++ rest).dropWhile kind = rest := by
  rw [List.takeWhile_append_of_pos hfront, List.dropWhile_append_of_pos hfront]
  cases rest with
  | nil => simp
  | cons c rest =>
    have hc : kind c = false := hrest c rfl
    simp [hc]

theorem dropWhile_of_startsOutside {s : List Char} (hs : StartsOutside kind s) :
    s.dropWhile kind = s :=
  (takeWhile_of_startsOutside (List.forall_mem_nil _) hs).2

end

/-! ## 2. Blanks -/

/-- A text of blanks alone. -/
def Blanks (s : List Char) : Prop := ∀ c ∈ s, isBlank c = true

theorem blanks_nil : Blanks [] := fun _ h => nomatch h

theorem Blanks.append {s t : List Char} (hs : Blanks s) (ht : Blanks t) : Blanks (s ++ t) :=
  fun c hc => (List.mem_append.1 hc).elim (hs c) (ht c)

theorem Blanks.reverse {s : List Char} (hs : Blanks s) : Blanks s.reverse :=
  fun c hc => hs c (List.mem_reverse.1 hc)

/-- A text is the blanks at its start, and the rest. -/
theorem exists_blanks (s : List Char) : ∃ w, Blanks w ∧ s = w ++ s.dropWhile isBlank :=
  ⟨s.takeWhile isBlank, fun _ hc => List.mem_takeWhile_imp hc, List.takeWhile_append_dropWhile.symm⟩

/-- **No blank is a letter or a number.** -/
theorem isAlphanumeric_of_isBlank {c : Char} (hc : isBlank c = true) :
    isAlphanumeric c = false := by
  have hpoints : ∀ r ∈ blankStrides, ∀ n ∈ List.range' r.first (r.last + 1 - r.first),
      Stride.within alphabeticStrides n = false ∧ Stride.within numericStrides n = false := by
    decide +kernel
  obtain ⟨r, hr, hholds⟩ := Stride.exists_of_within hc
  simp only [Stride.holds, Bool.and_eq_true, decide_eq_true_eq] at hholds
  obtain ⟨⟨hfirst, hlast⟩, -⟩ := hholds
  have hmem : c.toNat ∈ List.range' r.first (r.last + 1 - r.first) := by
    rw [List.mem_range'_1]
    omega
  obtain ⟨halphabetic, hnumeric⟩ := hpoints r hr _ hmem
  rw [isAlphanumeric, isAlphabetic, isNumeric, halphabetic, hnumeric]
  rfl

/-! ## 3. Trimming -/

/-- **A text is another one without the blanks around it.** -/
def Trimmed (s t : String) : Prop :=
  ∃ front back, Blanks front ∧ Blanks back ∧ s.toList = front ++ t.toList ++ back ∧
    StartsOutside isBlank t.toList ∧ StartsOutside isBlank t.toList.reverse

theorem trimEnd_of_blanks {s back : List Char} (hback : Blanks back)
    (hs : StartsOutside isBlank s.reverse) : trimEnd (s ++ back) = s := by
  rw [trimEnd, List.reverse_append, (takeWhile_of_startsOutside hback.reverse hs).2,
    List.reverse_reverse]

/-- **Trimming takes away exactly the blanks at the two ends.** -/
theorem trim_eq_iff {s t : String} : trim s = t ↔ Trimmed s t := by
  constructor
  · rintro rfl
    obtain ⟨front, hfront, hs⟩ := exists_blanks s.toList
    obtain ⟨back, hback, hrest⟩ := exists_blanks (trimStart s.toList).reverse
    have htoList : (trim s).toList = trimEnd (trimStart s.toList) := String.toList_ofList
    have hstart : trimStart s.toList = (trim s).toList ++ back.reverse := by
      rw [htoList, trimEnd, ← List.reverse_append, ← hrest, List.reverse_reverse]
    refine ⟨front, back.reverse, hfront, hback.reverse, ?_, ?_, ?_⟩
    · rw [List.append_assoc, ← hstart]
      exact hs
    · have hout : StartsOutside isBlank (trimStart s.toList) := startsOutside_dropWhile _
      intro c hc
      refine hout c ?_
      rw [hstart, List.head?_append, Option.mem_def.1 hc]
      rfl
    · rw [htoList, trimEnd, List.reverse_reverse]
      exact startsOutside_dropWhile _
  · rintro ⟨front, back, hfront, hback, hs, hstart, hstop⟩
    -- If nothing but blanks stands in the text, those behind `t` are taken away at its start.
    have hrest : ∃ rest, Blanks rest ∧ trimStart s.toList = t.toList ++ rest := by
      rw [trimStart, hs, List.append_assoc, List.dropWhile_append_of_pos hfront]
      cases ht : t.toList with
      | nil =>
        have hsub : back.dropWhile isBlank ⊆ back := (List.dropWhile_suffix _).subset
        exact ⟨back.dropWhile isBlank, fun c hc => hback c (hsub hc), rfl⟩
      | cons c rest =>
        rw [ht] at hstart
        have hout := startsOutside_cons (hstart c rfl) (rest ++ back)
        exact ⟨back, hback, dropWhile_of_startsOutside hout⟩
    obtain ⟨rest, hblank, hrest⟩ := hrest
    rw [trim, hrest, trimEnd_of_blanks hblank hstop, String.ofList_toList]

/-- A text stays as it is exactly if neither of its ends is a blank. -/
theorem trim_eq_self_iff {s : String} :
    trim s = s ↔ StartsOutside isBlank s.toList ∧ StartsOutside isBlank s.toList.reverse := by
  rw [trim_eq_iff]
  constructor
  · rintro ⟨-, -, -, -, -, hstart, hstop⟩
    exact ⟨hstart, hstop⟩
  · intro ⟨hstart, hstop⟩
    exact ⟨[], [], blanks_nil, blanks_nil, by simp, hstart, hstop⟩

/-- Names without blanks around them form such a dotted name. -/
theorem trim_append_dot {s t : String} (hs : trim s = s) (ht : trim t = t) :
    trim (s ++ "." ++ t) = s ++ "." ++ t := by
  rw [trim_eq_self_iff] at hs ht ⊢
  have hdot : ∀ rest, StartsOutside isBlank ('.' :: rest) := startsOutside_cons (by decide)
  have hl : (s ++ "." ++ t).toList = s.toList ++ '.' :: t.toList := by simp
  have hr : (s ++ "." ++ t).toList.reverse = t.toList.reverse ++ '.' :: s.toList.reverse := by simp
  rw [hr, hl]
  exact ⟨startsOutside_append hs.1 (hdot _), startsOutside_append ht.2 (hdot _)⟩

end BuilderGen.Text
