import BuilderGen.Proofs.Name.Written
import Mathlib.Data.List.Sort

/-!
# Names in other cases

A character in another case is one character or several. The first of them is a letter, or the
character itself if it has no other form. Those behind it may be marks, which no identifier holds.
Which characters have such forms is read off the tables: shifts move code points onto strides of
letters, so that only strides and expansions are looked at one by one.

* `Stride.within_of_holds`, `Stride.within_of_covers`: the search through a table finds what lies on
  a stride of it, or on one that it covers;
* `LeadsToLetters`: a case mapping whose forms start with letters;
* `Form`: a form of a character, with the condition on which no mark stands in it;
* `form_upperForm`, `form_lowerForm`: the forms of all characters. `markedCapitals` are the letters
  whose capital form has a mark, and the small form of the capital `I` with a dot has one;
* `isIdentifierChars_lowercase_iff`: an identifier that is lowered at its front stays one exactly if
  no such letter stands there.
-/

namespace BuilderGen.Text

/-! ## 1. Strides in a table -/

namespace Stride

/-- What lies on a stride of a table in increasing order is found in the table. -/
theorem within_of_holds {table : List Stride}
    (htable : table.Pairwise fun r q => r.first ≤ q.first) {r : Stride} (hr : r ∈ table) {n : Nat}
    (hn : r.holds n = true) : within table n = true := by
  induction table with
  | nil => cases hr
  | cons q rest ih =>
    obtain ⟨hq, hrest⟩ := List.pairwise_cons.1 htable
    have hlow : r.first ≤ n := by
      simp only [holds, Bool.and_eq_true, decide_eq_true_eq] at hn
      exact hn.1.1
    rw [within_cons]
    rcases List.mem_cons.1 hr with rfl | hr
    · rw [if_neg (Nat.not_lt.2 hlow), hn, Bool.true_or]
    · have hfirst := hq r hr
      rw [if_neg (by omega), ih hrest hr, Bool.or_true]

/-- Whether all code points on another stride lie on this one. -/
def includes (r q : Stride) : Bool :=
  r.first ≤ q.first && q.last ≤ r.last && (q.first - r.first) % r.step == 0 && q.step % r.step == 0

theorem holds_of_includes {r q : Stride} (hr : r.includes q = true) {n : Nat}
    (hn : q.holds n = true) : r.holds n = true := by
  simp only [includes, holds, Bool.and_eq_true, decide_eq_true_eq, beq_iff_eq] at hr hn ⊢
  obtain ⟨⟨⟨hfirst, hlast⟩, hoffset⟩, hstep⟩ := hr
  obtain ⟨⟨hlow, hhigh⟩, hn⟩ := hn
  have hsplit : n - r.first = (n - q.first) + (q.first - r.first) := by omega
  have hdvd : r.step ∣ n - q.first :=
    Nat.dvd_trans (Nat.dvd_of_mod_eq_zero hstep) (Nat.dvd_of_mod_eq_zero hn)
  refine ⟨⟨Nat.le_trans hfirst hlow, Nat.le_trans hhigh hlast⟩, ?_⟩
  rw [hsplit]
  exact Nat.mod_eq_zero_of_dvd (Nat.dvd_add hdvd (Nat.dvd_of_mod_eq_zero hoffset))

/-- Whether strides with rising last code points are included in a table in the same order, each in
the first one that goes as far. -/
def covered : List Stride → List Stride → Bool
  | [], _ => true
  | q :: more, table =>
    match table.dropWhile fun r => r.last < q.last with
    | [] => false
    | r :: rest => r.includes q && covered more (r :: rest)

theorem exists_includes_of_covered {ranges table : List Stride} (h : covered ranges table = true)
    {q : Stride} (hq : q ∈ ranges) : ∃ r ∈ table, r.includes q = true := by
  induction ranges generalizing table with
  | nil => cases hq
  | cons p more ih =>
    rw [covered] at h
    split at h
    · cases h
    · rename_i r rest hdrop
      have hsuffix : r :: rest <:+ table := hdrop ▸ List.dropWhile_suffix _
      obtain ⟨hincludes, hmore⟩ := Bool.and_eq_true_iff.1 h
      rcases List.mem_cons.1 hq with rfl | hq
      · exact ⟨r, hsuffix.subset List.mem_cons_self, hincludes⟩
      · obtain ⟨r', hr', hq'⟩ := ih hmore hq
        exact ⟨r', hsuffix.subset hr', hq'⟩

/-- Whether strides are included in those of a table. They are sorted, so that the table is gone
through once. -/
def covers (table ranges : List Stride) : Bool :=
  covered (ranges.insertionSort fun p q => p.last ≤ q.last) table

theorem within_of_covers {table : List Stride}
    (htable : table.Pairwise fun r q => r.first ≤ q.first) {ranges : List Stride}
    (hranges : covers table ranges = true) {q : Stride} (hq : q ∈ ranges) {n : Nat}
    (hn : q.holds n = true) : within table n = true := by
  obtain ⟨r, hr, hincludes⟩ :=
    exists_includes_of_covered hranges ((List.mem_insertionSort _).2 hq)
  exact within_of_holds htable hr (holds_of_includes hincludes hn)

/-- The stride of one code point. -/
def single (n : Nat) : Stride := ⟨n, n, 1⟩

theorem holds_single (n : Nat) : (single n).holds n = true := by
  simp [single, holds]

end Stride

/-! ## 2. Shifts -/

/-- The stride onto which a shift moves its code points. -/
def Shift.range (s : Shift) : Stride := ⟨s.target, s.target + (s.last - s.first), s.step⟩

theorem Shift.holds_range {s : Shift} {n : Nat} (hn : s.domain.holds n = true) :
    s.range.holds (n - s.first + s.target) = true := by
  rw [Shift.domain] at hn
  rw [Shift.range]
  simp only [Stride.holds, Bool.and_eq_true, decide_eq_true_eq, beq_iff_eq] at hn ⊢
  obtain ⟨⟨hlow, hhigh⟩, hstep⟩ := hn
  rw [Nat.add_sub_cancel]
  exact ⟨⟨Nat.le_add_left _ _, by omega⟩, hstep⟩

/-- An image lies in the range of one of the shifts. -/
theorem Shift.exists_of_image? {shifts : List Shift} {n m : Nat}
    (hm : Shift.image? shifts n = some m) : ∃ s ∈ shifts, s.range.holds m = true := by
  induction shifts with
  | nil => cases hm
  | cons s rest ih =>
    rw [Shift.image?_cons] at hm
    split at hm
    · rename_i hn
      cases hm
      exact ⟨s, List.mem_cons_self, Shift.holds_range hn⟩
    · obtain ⟨s', hs', hholds⟩ := ih hm
      exact ⟨s', List.mem_cons_of_mem _ hs', hholds⟩

/-! ## 3. Letters -/

theorem pairwise_alphabeticStrides :
    alphabeticStrides.Pairwise fun r q => r.first ≤ q.first := by
  have hchain : (alphabeticStrides.map Stride.first).IsChain (· ≤ ·) := by decide +kernel
  exact List.pairwise_map.1 hchain.pairwise

/-- The code points of letters are those of characters. -/
theorem isAlphabetic_ofNat {n : Nat} (hn : Stride.within alphabeticStrides n = true) :
    isAlphabetic (Char.ofNat n) = true := by
  have hrows : ∀ r ∈ alphabeticStrides,
      r.last < 0xD800 ∨ 0xDFFF < r.first ∧ r.last < 0x110000 := by
    decide +kernel
  obtain ⟨r, hr, hholds⟩ := Stride.exists_of_within hn
  simp only [Stride.holds, Bool.and_eq_true, decide_eq_true_eq] at hholds
  obtain ⟨⟨hfirst, hlast⟩, -⟩ := hholds
  have hvalid : n.isValidChar := by
    rcases hrows r hr with hlow | ⟨hlow, hhigh⟩
    · exact .inl (Nat.lt_of_le_of_lt hlast hlow)
    · exact .inr ⟨Nat.lt_of_lt_of_le hlow hfirst, Nat.lt_of_le_of_lt hlast hhigh⟩
  have hcode : (Char.ofNat n).toNat = n := by
    rw [Char.ofNat, dif_pos hvalid]
    rfl
  rw [isAlphabetic, hcode]
  exact hn

/-- **A case mapping leads to letters**: the ranges of its shifts and the first code points of its
expansions are those of letters. -/
structure LeadsToLetters (expansions : List (Nat × List Nat)) (shifts : List Shift) : Prop where
  ranges : Stride.covers alphabeticStrides (shifts.map Shift.range) = true
  firsts : Stride.covers alphabeticStrides
    (expansions.filterMap fun entry => entry.2.head?.map Stride.single) = true

section

variable {expansions : List (Nat × List Nat)} {shifts : List Shift}
  (h : LeadsToLetters expansions shifts)
include h

theorem LeadsToLetters.shift {n m : Nat} (hm : Shift.image? shifts n = some m) :
    isAlphabetic (Char.ofNat m) = true := by
  obtain ⟨s, hs, hholds⟩ := Shift.exists_of_image? hm
  exact isAlphabetic_ofNat (Stride.within_of_covers pairwise_alphabeticStrides h.ranges
    (List.mem_map_of_mem hs) hholds)

theorem LeadsToLetters.expansion {n first : Nat} {more : List Nat}
    (hentry : (n, first :: more) ∈ expansions) : isAlphabetic (Char.ofNat first) = true :=
  isAlphabetic_ofNat (Stride.within_of_covers pairwise_alphabeticStrides h.firsts
    (List.mem_filterMap.2 ⟨_, hentry, rfl⟩) (Stride.holds_single first))

end

theorem leadsToLetters_upper : LeadsToLetters upperExpansions upperShifts :=
  ⟨by decide +kernel, by decide +kernel⟩

theorem leadsToLetters_lower : LeadsToLetters lowerExpansions lowerShifts :=
  ⟨by decide +kernel, by decide +kernel⟩

end BuilderGen.Text

namespace BuilderGen.Name

open BuilderGen.Text

/-! ## 4. Forms of characters -/

/-- **A form of a character in another case**: a letter or the character itself, and behind it
characters of identifiers alone exactly if a condition holds. -/
def Form (c : Char) (plain : Prop) (form : List Char) : Prop :=
  ∃ d more, form = d :: more ∧ (d = c ∨ isAlphabetic d = true) ∧
    ((∀ e ∈ more, isIdentifierPart e = true) ↔ plain)

theorem isIdentifierStart_of_isAlphabetic {c : Char} (hc : isAlphabetic c = true) :
    isIdentifierStart c = true := by
  rw [isIdentifierStart, hc, Bool.true_or, Bool.true_or]

section

variable {c : Char} {plain : Prop} {form : List Char}

/-- A character of identifiers keeps to them in another case if the condition holds. -/
theorem Form.forall_mem_iff (hform : Form c plain form) (hc : isIdentifierPart c = true) :
    (∀ d ∈ form, isIdentifierPart d = true) ↔ plain := by
  obtain ⟨d, more, rfl, hd, hmore⟩ := hform
  have hpart : isIdentifierPart d = true := by
    rcases hd with rfl | hd
    · exact hc
    · exact isIdentifierPart_of_start (isIdentifierStart_of_isAlphabetic hd)
  rw [List.forall_mem_cons, and_iff_right hpart, hmore]

/-- **A text that starts with the form of a character is an identifier if the condition holds and
the rest is a part of one.** -/
theorem Form.isIdentifierChars_iff (hform : Form c plain form) (hc : isIdentifierStart c = true)
    {rest : List Char} : isIdentifierChars (form ++ rest) = true ↔
      plain ∧ ∀ d ∈ rest, isIdentifierPart d = true := by
  obtain ⟨d, more, rfl, hd, hmore⟩ := hform
  have hstart : isIdentifierStart d = true := by
    rcases hd with rfl | hd
    · exact hc
    · exact isIdentifierStart_of_isAlphabetic hd
  rw [List.cons_append, isIdentifierChars, hstart, Bool.true_and, List.all_append,
    Bool.and_eq_true, List.all_eq_true, List.all_eq_true, hmore]

end

/-- Whether an entry of a table of expansions has marks behind its first letter exactly if its code
point is among the given ones. -/
def isExpansion (marked : List Nat) : Nat × List Nat → Bool
  | (_, []) => false
  | (n, _ :: more) => (more.all fun k => isIdentifierPart (Char.ofNat k)) == !marked.contains n

/-- **What a case mapping gives is a form**, if it leads to letters and its expansions have marks
where they should. -/
theorem form_mapped {expansions : List (Nat × List Nat)} {shifts : List Shift} {marked : List Nat}
    (hletters : LeadsToLetters expansions shifts)
    (hexpansions : ∀ entry ∈ expansions, isExpansion marked entry = true)
    (hmarked : ∀ n ∈ marked, (expansions.lookup n).isSome = true) (c : Char) :
    Form c (c.toNat ∉ marked) (mapped expansions shifts c) := by
  unfold mapped
  split
  · rename_i image hi
    obtain ⟨front, back, hsplit, -⟩ := List.lookup_eq_some_iff.1 hi
    have hentry : (c.toNat, image) ∈ expansions := by simp [hsplit]
    have hmarks := hexpansions _ hentry
    cases image with
    | nil => cases hmarks
    | cons first more =>
      rw [isExpansion, beq_iff_eq] at hmarks
      have hfirst := hletters.expansion hentry
      refine ⟨Char.ofNat first, more.map Char.ofNat, rfl, .inr hfirst, ?_⟩
      rw [List.forall_mem_map, ← List.all_eq_true, hmarks]
      simp
  · rename_i hnone
    have hplain : c.toNat ∉ marked := fun hmem => by
      rw [← Option.not_isSome_iff_eq_none] at hnone
      exact hnone (hmarked _ hmem)
    have hno : (∀ e ∈ ([] : List Char), isIdentifierPart e = true) ↔ c.toNat ∉ marked :=
      iff_of_true (List.forall_mem_nil _) hplain
    split
    · rename_i n hn
      exact ⟨Char.ofNat n, [], rfl, .inr (hletters.shift hn), hno⟩
    · exact ⟨c, [], rfl, .inl rfl, hno⟩

/-- **The code points of the letters whose capital form has a mark in it.** No capital letter stands
for such a letter alone. -/
def markedCapitals : List Nat := [
  0x1F0, 0x390, 0x3B0, 0x1E96, 0x1E97, 0x1E98, 0x1E99, 0x1F50, 0x1F52, 0x1F54, 0x1F56, 0x1FB6,
  0x1FB7, 0x1FC6, 0x1FC7, 0x1FD2, 0x1FD3, 0x1FD6, 0x1FD7, 0x1FE2, 0x1FE3, 0x1FE4, 0x1FE6, 0x1FE7,
  0x1FF6, 0x1FF7
]

theorem form_upperForm (c : Char) : Form c (c.toNat ∉ markedCapitals) (upperForm c) :=
  form_mapped leadsToLetters_upper (by decide +kernel) (by decide +kernel) c

/-- The capital `I` with a dot, whose small form has the dot as a mark. -/
def dottedCapital : Char := '\u0130'

theorem form_lowerForm (c : Char) : Form c (c ≠ dottedCapital) (lowerForm c) := by
  have hform : Form c (c.toNat ∉ [0x130]) (lowerForm c) :=
    form_mapped leadsToLetters_lower (by decide) (by decide) c
  have hcode : c.toNat ∉ [0x130] ↔ c ≠ dottedCapital := by
    rw [List.mem_singleton]
    exact not_congr (Char.toNat_inj (d := dottedCapital))
  rwa [hcode] at hform

/-- A sigma is lowered to a sigma. -/
theorem form_lowerFormBetween (before : List Char) (c : Char) (after : List Char) :
    Form c (c ≠ dottedCapital) (lowerFormBetween before c after) := by
  unfold lowerFormBetween
  split
  · rename_i hc
    have hplain : c ≠ dottedCapital := by
      rw [hc]
      decide
    have hno : (∀ e ∈ ([] : List Char), isIdentifierPart e = true) ↔ c ≠ dottedCapital :=
      iff_of_true (List.forall_mem_nil _) hplain
    split
    · exact ⟨'ς', [], rfl, .inr rfl, hno⟩
    · exact ⟨'σ', [], rfl, .inr rfl, hno⟩
  · exact form_lowerForm c

/-! ## 5. Lowered texts -/

theorem forall_mem_lowercaseBehind_iff {s : List Char} (hs : ∀ c ∈ s, isIdentifierPart c = true)
    (before : List Char) : (∀ d ∈ lowercaseBehind before s, isIdentifierPart d = true) ↔
      dottedCapital ∉ s := by
  induction s generalizing before with
  | nil => simp [lowercaseBehind]
  | cons c rest ih =>
    obtain ⟨hc, hrest⟩ := List.forall_mem_cons.1 hs
    rw [lowercaseBehind, List.forall_mem_append, ih hrest,
      (form_lowerFormBetween before c rest).forall_mem_iff hc, List.mem_cons, not_or, ne_comm]

/-- **An identifier that is lowered at its front stays one exactly if no capital `I` with a dot
stands there.** -/
theorem isIdentifierChars_lowercase_iff {front rest : List Char}
    (h : isIdentifierChars (front ++ rest) = true) :
    isIdentifierChars (lowercase front ++ rest) = true ↔ dottedCapital ∉ front := by
  cases front with
  | nil => exact iff_of_true h List.not_mem_nil
  | cons c more =>
    rw [List.cons_append, isIdentifierChars, Bool.and_eq_true, List.all_eq_true,
      List.forall_mem_append] at h
    obtain ⟨hc, hmore, hrest⟩ := h
    rw [lowercase, lowercaseBehind, List.append_assoc,
      (form_lowerFormBetween [] c more).isIdentifierChars_iff hc, List.forall_mem_append,
      forall_mem_lowercaseBehind_iff hmore, List.mem_cons, not_or, ne_comm, and_iff_left hrest]

end BuilderGen.Name
