import BuilderGen.Name.Derived
import Mathlib.Data.List.Basic

/-!
# Names and how they are written

A name is written as it stands, or in backticks if it is a keyword. A name that does not start with
a backtick itself can be told from what is written, and so can every name that a setter lends to a
parameter.

* `exists_lowerForm`, `dot_not_mem_decapitalize`: lowering a letter brings in neither a backtick nor
  a dot;
* `slash_not_mem_capitalize`: raising the first letter does not bring in a slash;
* `Bare`: the names that do not start with a backtick;
* `escape_inj`, `escape_eq_iff`: such names are told apart as they are written;
* `escape_eq_escape_iff`: what other names are written like such a name;
* `behind?_eq_some`, `parameterName_getterName`: the words behind `set`, `get` and `is`.
-/

namespace BuilderGen.Text

/-! ## 1. Small and capital forms -/

/-- A shift moves code points to its target or behind it. -/
theorem le_of_image? {shifts : List Shift} {low n m : Nat} (hl : ∀ s ∈ shifts, low ≤ s.target)
    (hm : Shift.image? shifts n = some m) : low ≤ m := by
  induction shifts with
  | nil => cases hm
  | cons s rest ih =>
    obtain ⟨hs, hrest⟩ := List.forall_mem_cons.1 hl
    rw [Shift.image?_cons] at hm
    split at hm
    · cases hm
      omega
    · exact ih hrest hm

/-- A code point behind a character gives another one. -/
theorem ofNat_ne {n : Nat} {c : Char} (hc : c ≠ '\x00') (hn : c.toNat < n) : Char.ofNat n ≠ c := by
  intro e
  by_cases hv : n.isValidChar
  · rw [Char.ofNat, dif_pos hv] at e
    have : n = c.toNat := congrArg Char.toNat e
    omega
  · rw [Char.ofNat, dif_neg hv] at e
    exact hc e.symm

/-- No small form lies in front of the letter `a`. -/
theorem le_target_of_lowerShifts : ∀ s ∈ lowerShifts, 0x61 ≤ s.target := by
  decide +kernel

/-- The one small form of several characters is an `i` with a dot above. -/
theorem eq_of_lookup_lowerExpansions {n : Nat} {image : List Nat}
    (hi : lowerExpansions.lookup n = some image) : image = [0x69, 0x307] := by
  rw [lowerExpansions, List.lookup_cons] at hi
  split at hi
  · exact (Option.some.inj hi).symm
  · cases hi

/-- The small form of a character starts with a backtick only if the character is one. -/
theorem exists_lowerForm {c : Char} (hc : c ≠ '\x60') :
    ∃ d rest, lowerForm c = d :: rest ∧ d ≠ '\x60' := by
  unfold lowerForm mapped
  split
  · rename_i image hi
    exact ⟨Char.ofNat 0x69, [Char.ofNat 0x307], by rw [eq_of_lookup_lowerExpansions hi]; rfl,
      by decide⟩
  · split
    · rename_i n hn
      have hlow : 0x60 < n := le_of_image? le_target_of_lowerShifts hn
      exact ⟨Char.ofNat n, [], rfl, ofNat_ne (by decide) hlow⟩
    · exact ⟨c, [], rfl, hc⟩

/-- The small form of a character has a dot only if the character is one. -/
theorem dot_not_mem_lowerForm {c : Char} (hc : c ≠ '.') : '.' ∉ lowerForm c := by
  have hbehind : ∀ n, 0x61 ≤ n → '.' ≠ Char.ofNat n := fun n hn =>
    Ne.symm (ofNat_ne (by decide) (Nat.lt_of_lt_of_le (by decide) hn))
  unfold lowerForm mapped
  split
  · rename_i image hi
    rw [eq_of_lookup_lowerExpansions hi]
    decide
  · split
    · rename_i n hn
      rw [List.mem_singleton]
      exact hbehind n (le_of_image? le_target_of_lowerShifts hn)
    · rw [List.mem_singleton]
      exact Ne.symm hc

/-- **Lowering the first letter does not bring in a dot.** -/
theorem dot_not_mem_decapitalize {s : String} (hs : '.' ∉ s.toList) :
    '.' ∉ (decapitalize s).toList := by
  rw [decapitalize, String.toList_ofList]
  cases hl : s.toList with
  | nil => exact List.not_mem_nil
  | cons c rest =>
    rw [hl, List.mem_cons, not_or] at hs
    rw [decapitalizeChars, List.mem_append, not_or]
    exact ⟨dot_not_mem_lowerForm (Ne.symm hs.1), hs.2⟩

/-- No capital form lies in front of the letter `A`. -/
theorem le_target_of_upperShifts : ∀ s ∈ upperShifts, 0x41 ≤ s.target := by
  decide +kernel

theorem le_of_upperExpansions : ∀ entry ∈ upperExpansions, ∀ n ∈ entry.2, 0x41 ≤ n := by
  decide +kernel

/-- The capital form of a character has a slash only if the character is one. -/
theorem slash_not_mem_upperForm {c : Char} (hc : c ≠ '/') : '/' ∉ upperForm c := by
  have hbehind : ∀ n, 0x41 ≤ n → '/' ≠ Char.ofNat n := fun n hn =>
    Ne.symm (ofNat_ne (by decide) (Nat.lt_of_lt_of_le (by decide) hn))
  unfold upperForm mapped
  split
  · rename_i image hi
    intro hmem
    obtain ⟨n, hn, e⟩ := List.mem_map.1 hmem
    obtain ⟨before, after, hsplit, -⟩ := List.lookup_eq_some_iff.1 hi
    have hentry : (c.toNat, image) ∈ upperExpansions := by simp [hsplit]
    exact hbehind n (le_of_upperExpansions _ hentry n hn) e.symm
  · split
    · rename_i n hn
      rw [List.mem_singleton]
      exact hbehind n (le_of_image? le_target_of_upperShifts hn)
    · rw [List.mem_singleton]
      exact Ne.symm hc

/-- **Raising the first letter does not bring in a slash.** -/
theorem slash_not_mem_capitalize {s : String} (hs : '/' ∉ s.toList) :
    '/' ∉ (capitalize s).toList := by
  rw [capitalize, String.toList_ofList]
  cases hl : s.toList with
  | nil => exact List.not_mem_nil
  | cons c rest =>
    rw [hl, List.mem_cons, not_or] at hs
    rw [capitalizeChars, List.mem_append, not_or]
    exact ⟨slash_not_mem_upperForm (Ne.symm hs.1), hs.2⟩

end BuilderGen.Text

namespace BuilderGen.Name

/-! ## 2. Identifiers -/

theorem isIdentifierPart_of_mem {s : String} (h : isIdentifier s = true) {c : Char}
    (hc : c ∈ s.toList) : isIdentifierPart c = true := by
  unfold isIdentifier at h
  cases hl : s.toList with
  | nil =>
    rw [hl] at hc
    cases hc
  | cons d rest =>
    rw [hl] at h hc
    rw [isIdentifierChars, Bool.and_eq_true, List.all_eq_true] at h
    rcases List.mem_cons.1 hc with rfl | hc
    · exact isIdentifierPart_of_start h.1
    · exact h.2 c hc

theorem not_mem_of_isIdentifier {s : String} (h : isIdentifier s = true) {c : Char}
    (hc : isIdentifierPart c = false) : c ∉ s.toList := by
  intro hmem
  rw [isIdentifierPart_of_mem h hmem] at hc
  cases hc

/-- An identifier stays one with another one in front. -/
theorem isIdentifier_append {word s : String} (hw : isIdentifier word = true)
    (hs : isIdentifier s = true) : isIdentifier (word ++ s) = true := by
  have hparts : s.toList.all isIdentifierPart = true :=
    List.all_eq_true.2 fun c hc => isIdentifierPart_of_mem hs hc
  unfold isIdentifier at *
  rw [String.toList_append]
  cases hl : word.toList with
  | nil =>
    rw [hl] at hw
    cases hw
  | cons d rest =>
    rw [hl, isIdentifierChars, Bool.and_eq_true] at hw
    rw [List.cons_append, isIdentifierChars, List.all_append, hparts, Bool.and_true,
      Bool.and_eq_true]
    exact hw

/-! ## 3. Backticks -/

/-- **Whether a name does not start with a backtick**, and so cannot be taken for a keyword as it is
written. -/
def Bare (name : String) : Prop := name.toList.head? ≠ some '\x60'

theorem bare_of_isIdentifier {s : String} (h : isIdentifier s = true) : Bare s := fun hs =>
  not_mem_of_isIdentifier h (by decide) (List.mem_of_mem_head? hs)

/-- Lowering the first letter keeps a name bare. -/
theorem Bare.decapitalize {s : String} (h : Bare s) : Bare (Text.decapitalize s) := by
  unfold Bare Text.decapitalize at *
  rw [String.toList_ofList]
  cases hl : s.toList with
  | nil => simp [Text.decapitalizeChars]
  | cons c rest =>
    rw [hl] at h
    obtain ⟨d, more, hd, hne⟩ := Text.exists_lowerForm fun e => h (congrArg some e)
    rw [Text.decapitalizeChars, hd, List.cons_append, List.head?_cons]
    exact fun e => hne (Option.some.inj e)

theorem escape_of_not_mem {name : String} (h : name ∉ keywords) : escape name = name := if_neg h

theorem toList_escape_of_mem {name : String} (h : name ∈ keywords) :
    (escape name).toList = '\x60' :: name.toList ++ ['\x60'] := by
  rw [escape, if_pos h, String.toList_ofList]

/-- Backticks do not bring in a dot. -/
theorem dot_not_mem_escape {name : String} (h : '.' ∉ name.toList) :
    '.' ∉ (escape name).toList := by
  by_cases hk : name ∈ keywords
  · rw [toList_escape_of_mem hk]
    simp [h]
  · rw [escape_of_not_mem hk]
    exact h

/-- What is written for a keyword is no bare name. -/
theorem not_bare_escape {name : String} (h : name ∈ keywords) : ¬ Bare (escape name) := by
  intro hb
  exact hb (by rw [toList_escape_of_mem h]; rfl)

/-- **A name is written as a bare name that is no keyword only if it is this name.** -/
theorem escape_eq_iff {name other : String} (hb : Bare other) (hk : other ∉ keywords) :
    escape name = other ↔ name = other := by
  by_cases hn : name ∈ keywords
  · constructor
    · rintro rfl
      exact absurd hb (not_bare_escape hn)
    · rintro rfl
      exact absurd hn hk
  · rw [escape_of_not_mem hn]

/-- **Bare names are told apart as they are written.** -/
theorem escape_inj {v w : String} (hv : Bare v) (hw : Bare w) : escape v = escape w ↔ v = w := by
  refine ⟨fun e => ?_, congrArg escape⟩
  by_cases hkw : w ∈ keywords
  · by_cases hkv : v ∈ keywords
    · have hl := congrArg String.toList e
      rw [toList_escape_of_mem hkv, toList_escape_of_mem hkw] at hl
      exact String.toList_inj.1 (List.cons.inj (List.append_cancel_right hl)).2
    · rw [escape_of_not_mem hkv] at e
      exact absurd (e ▸ hv) (not_bare_escape hkw)
  · rw [escape_of_not_mem hkw] at e
    exact (escape_eq_iff hw hkw).1 e

theorem bare_of_mem_keywords {name : String} (h : name ∈ keywords) : Bare name := by
  have hall : ∀ k ∈ keywords, k.toList.head? ≠ some '\x60' := by decide
  exact hall name h

/-- A name that is written already is written as it stands. -/
theorem escape_escape (name : String) : escape (escape name) = escape name := by
  refine escape_of_not_mem fun hmem => ?_
  by_cases hn : name ∈ keywords
  · exact not_bare_escape hn (bare_of_mem_keywords hmem)
  · rw [escape_of_not_mem hn] at hmem
    exact hn hmem

/-- **A name is written like a bare one if it is this name, or if it is what is written for it.** -/
theorem escape_eq_escape_iff {v w : String} (hw : Bare w) :
    escape v = escape w ↔ v = w ∨ v = escape w := by
  constructor
  · intro e
    by_cases hv : v ∈ keywords
    · exact .inl ((escape_inj (bare_of_mem_keywords hv) hw).1 e)
    · rw [escape_of_not_mem hv] at e
      exact .inr e
  · rintro (rfl | rfl)
    · rfl
    · exact escape_escape w

/-! ## 4. Words in front -/

/-- What stands behind a word, if a text starts with the word. -/
theorem behind?_eq_some {word s rest : String} : behind? word s = some rest ↔ s = word ++ rest := by
  suffices h : ∀ w l r : List Char, w.isPrefixOf? l = some r ↔ l = w ++ r by
    rw [behind?, Option.map_eq_some_iff]
    constructor
    · rintro ⟨r, hr, rfl⟩
      rw [← String.toList_inj, String.toList_append, String.toList_ofList]
      exact (h _ _ _).1 hr
    · rintro rfl
      exact ⟨rest.toList, (h _ _ _).2 String.toList_append, String.ofList_toList⟩
  intro w
  induction w with
  | nil => exact fun l r => by simp [List.isPrefixOf?]
  | cons c w ih =>
    intro l r
    cases l with
    | nil => simp [List.isPrefixOf?]
    | cons d l =>
      by_cases hcd : c = d
      · simp [List.isPrefixOf?, hcd, ih]
      · simp [List.isPrefixOf?, hcd, Ne.symm hcd]

theorem without_append (word rest : String) : without word (word ++ rest) = rest := by
  rw [without, behind?_eq_some.2 rfl, Option.getD_some]

/-- A parameter has the name of the property, with `is` in front if it is a truth value. -/
theorem parameterName_getterName (property : String) (isTruthValue : Bool) :
    parameterName (getterName ("set" ++ property) isTruthValue) =
      if isTruthValue then "is" ++ property else Text.decapitalize property := by
  unfold parameterName getterName
  rw [without_append]
  cases isTruthValue with
  | false => rw [if_neg Bool.false_ne_true, if_neg Bool.false_ne_true, without_append]
  | true =>
    rw [if_pos rfl, if_pos rfl]
    have hget : behind? "get" ("is" ++ property) = none := by
      rw [Option.eq_none_iff_forall_ne_some]
      intro rest h
      have := congrArg String.toList (behind?_eq_some.1 h)
      simp at this
    rw [without, hget, Option.getD_none, Text.decapitalize, String.toList_append]
    have hi : Text.lowerForm 'i' = ['i'] := by decide
    show String.ofList (Text.lowerForm 'i' ++ 's' :: property.toList) = _
    rw [hi, ← String.toList_inj, String.toList_ofList, String.toList_append]
    rfl

end BuilderGen.Name
