import BuilderGen.Name.Derived
import Mathlib

/-!
# The name of an instance

An instance of a class has the name of the class, lowered at its front. How far the front goes is
decided by the first small letter of the name; what follows it stays as it is.

* `lowerForm_of_ascii`: the small form of an ASCII character, of which all shifts but one are clear;
* `acronymLength`, `instanceNameChars_eq`: how many characters are lowered;
* `lowercase_of_ascii`, `instanceNameChars_of_ascii`: in ASCII this is done character by character;
* `acronymLength_instanceNameChars_le`: the front of the new name goes no further than the old one;
* `instanceName_of_ascii`: what the name of an instance has in common with the name of its class.
-/

namespace BuilderGen.Text

/-! ## 1. Small forms in ASCII -/

/-- No shift moves a code point in front of all of them. -/
theorem image?_of_forall_lt {shifts : List Shift} {n : Nat} (h : ∀ s ∈ shifts, n < s.first) :
    Shift.image? shifts n = none := by
  induction shifts with
  | nil => rfl
  | cons s rest ih =>
    obtain ⟨hs, hrest⟩ := List.forall_mem_cons.1 h
    have hout : s.domain.holds n = false := by
      rw [Shift.domain, Stride.holds, decide_eq_false (Nat.not_le.2 hs), Bool.false_and,
        Bool.false_and]
    rw [Shift.image?_cons, hout, if_neg Bool.false_ne_true, ih hrest]

/-- In ASCII the capitals alone are moved. -/
theorem image?_lowerShifts_of_ascii {n : Nat} (hn : n < 128) : Shift.image? lowerShifts n =
    if 0x41 ≤ n ∧ n ≤ 0x5A then some (n + 32) else none := by
  have hbehind : ∀ s ∈ lowerShifts.tail, n < s.first := by
    have hlow : ∀ s ∈ lowerShifts.tail, 128 ≤ s.first := by decide +kernel
    exact fun s hs => Nat.lt_of_lt_of_le hn (hlow s hs)
  have hcapital : Stride.holds ⟨0x41, 0x5A, 1⟩ n = decide (0x41 ≤ n ∧ n ≤ 0x5A) := by
    simp [Stride.holds, Nat.mod_one]
  have hsplit : lowerShifts = ⟨0x41, 0x5A, 1, 0x61⟩ :: lowerShifts.tail := rfl
  rw [hsplit, Shift.image?_cons, Shift.domain, hcapital, image?_of_forall_lt hbehind]
  simp only [decide_eq_true_eq]
  split
  · have hcode : n - 0x41 + 0x61 = n + 32 := by omega
    rw [hcode]
  · rfl

/-- The capital letters of ASCII by their code points. -/
theorem isUpper_iff {c : Char} : c.isUpper = true ↔ 0x41 ≤ c.toNat ∧ c.toNat ≤ 0x5A := by
  simp [Char.isUpper, UInt32.le_iff_toNat_le]

/-- The small form of an ASCII character is the one that ASCII knows. -/
theorem lowerForm_of_ascii {c : Char} (hc : c.toNat < 128) : lowerForm c = [c.toLower] := by
  have hplain : lowerExpansions.lookup c.toNat = none := by
    have hne : c.toNat ≠ 0x130 := by omega
    simp [lowerExpansions, hne]
  rw [lowerForm, mapped, hplain, image?_lowerShifts_of_ascii hc]
  by_cases hupper : 0x41 ≤ c.toNat ∧ c.toNat ≤ 0x5A
  · rw [if_pos hupper, Char.toLower_eq_of_isUpper (isUpper_iff.2 hupper)]
  · rw [if_neg hupper, Char.toLower_eq_of_not_isUpper (isUpper_iff.not.2 hupper)]

end BuilderGen.Text

namespace BuilderGen.Name

open BuilderGen.Text

/-! ## 2. The front of a name -/

/-- **How many characters at the front of a class name are lowered**: all of them if no small letter
follows, else those in front of the one before the first small letter, but at least one. -/
def acronymLength (name : List Char) : Nat :=
  match name.findIdx? isLowercase with
  | none => name.length
  | some k => max 1 (k - 1)

theorem acronymLength_of_none {name : List Char} (h : name.findIdx? isLowercase = none) :
    acronymLength name = name.length := by
  rw [acronymLength, h]

theorem acronymLength_of_some {name : List Char} {k : Nat}
    (h : name.findIdx? isLowercase = some k) : acronymLength name = max 1 (k - 1) := by
  rw [acronymLength, h]

theorem acronymLength_le_length (name : List Char) : acronymLength name ≤ name.length := by
  cases h : name.findIdx? isLowercase with
  | none => exact Nat.le_of_eq (acronymLength_of_none h)
  | some k =>
    have hk := (List.findIdx?_eq_some_iff_findIdx_eq.1 h).1
    rw [acronymLength_of_some h]
    omega

theorem acronymLength_pos {name : List Char} (hname : name ≠ []) : 0 < acronymLength name := by
  cases h : name.findIdx? isLowercase with
  | none =>
    rw [acronymLength_of_none h]
    exact List.length_pos_of_ne_nil hname
  | some k =>
    rw [acronymLength_of_some h]
    omega

/-- A letter alone is lowered without regard to a context. -/
theorem lowercase_singleton (c : Char) : lowercase [c] = lowerForm c := by
  have hsigma : lowerForm 'Σ' = ['σ'] := rfl
  show lowerFormBetween [] c [] ++ [] = lowerForm c
  rw [List.append_nil, lowerFormBetween]
  split
  · rename_i hc
    rw [hc, hsigma]
    rfl
  · rfl

theorem decapitalizeChars_cons (c : Char) (rest : List Char) :
    decapitalizeChars (c :: rest) = lowercase [c] ++ rest := by
  rw [decapitalizeChars, lowercase_singleton]

/-- **The name of an instance is that of the class with its front lowered.** -/
theorem instanceNameChars_eq (name : List Char) : instanceNameChars name =
    lowercase (name.take (acronymLength name)) ++ name.drop (acronymLength name) := by
  unfold instanceNameChars
  cases h : name.findIdx? isLowercase with
  | none => rw [acronymLength_of_none h, List.take_length, List.drop_length, List.append_nil]
  | some k =>
    rw [acronymLength_of_some h]
    obtain ⟨c, rest, rfl⟩ : ∃ c rest, name = c :: rest :=
      List.exists_cons_of_ne_nil fun e => by simp [e] at h
    match k with
    | 0 => exact decapitalizeChars_cons c rest
    | 1 => exact decapitalizeChars_cons c rest
    | n + 2 =>
      have hfront : max 1 (n + 2 - 1) = n + 1 := by omega
      rw [hfront]

/-! ## 3. ASCII -/

/-- A text of ASCII characters. -/
def Ascii (s : List Char) : Prop := ∀ c ∈ s, c.toNat < 128

section

variable {c : Char} (hc : c.toNat < 128)
include hc

theorem isLowercase_of_ascii : isLowercase c = c.isLower := by
  have hall : ∀ n < 128, isLowercase (Char.ofNat n) = (Char.ofNat n).isLower := by decide +kernel
  have hcode := hall c.toNat hc
  rwa [Char.ofNat_toNat] at hcode

theorem toLower_lt_of_ascii : c.toLower.toNat < 128 := by
  by_cases hupper : c.isUpper = true
  · have hlast := (isUpper_iff.1 hupper).2
    have hvalid : (c.toNat + 32).isValidChar := .inl (by omega)
    rw [Char.toLower_eq_of_isUpper hupper, Char.toNat_ofNat, if_pos hvalid]
    omega
  · rw [Char.toLower_eq_of_not_isUpper hupper]
    exact hc

end

section

variable {name : List Char} (h : Ascii name)
include h

theorem lowercase_of_ascii : lowercase name = name.map Char.toLower := by
  suffices hbehind : ∀ before, lowercaseBehind before name = name.map Char.toLower from hbehind []
  induction name with
  | nil => exact fun before => rfl
  | cons c rest ih =>
    intro before
    obtain ⟨hc, hrest⟩ := List.forall_mem_cons.1 h
    have hsigma : c ≠ 'Σ' := by
      rintro rfl
      exact absurd hc (by decide)
    rw [lowercaseBehind, lowerFormBetween, if_neg hsigma, lowerForm_of_ascii hc, ih hrest]
    rfl

theorem ascii_take (n : Nat) : Ascii (name.take n) := fun c hc => h c (List.mem_of_mem_take hc)

/-- **In ASCII the front of the name is lowered character by character.** -/
theorem instanceNameChars_of_ascii : instanceNameChars name =
    (name.take (acronymLength name)).map Char.toLower ++ name.drop (acronymLength name) := by
  rw [instanceNameChars_eq, lowercase_of_ascii (ascii_take h _)]

theorem length_instanceNameChars : (instanceNameChars name).length = name.length := by
  rw [instanceNameChars_of_ascii h, List.length_append, List.length_map, ← List.length_append,
    List.take_append_drop]

theorem ascii_instanceNameChars : Ascii (instanceNameChars name) := by
  rw [instanceNameChars_of_ascii h]
  intro c hc
  rcases List.mem_append.1 hc with hc | hc
  · obtain ⟨d, hd, rfl⟩ := List.mem_map.1 hc
    exact toLower_lt_of_ascii (ascii_take h _ d hd)
  · exact h c (List.mem_of_mem_drop hc)

theorem findIdx?_isLowercase : name.findIdx? isLowercase = name.findIdx? Char.isLower := by
  induction name with
  | nil => rfl
  | cons c rest ih =>
    obtain ⟨hc, hrest⟩ := List.forall_mem_cons.1 h
    rw [List.findIdx?_cons, List.findIdx?_cons, isLowercase_of_ascii hc, ih hrest]

/-- A small letter stays where it is. -/
theorem getElem?_instanceNameChars {k : Nat} {c : Char} (hk : name[k]? = some c)
    (hc : c.isLower = true) : (instanceNameChars name)[k]? = some c := by
  have hlower : c.toLower = c := Char.toLower_eq_of_not_isUpper (Char.not_isUpper_of_isLower hc)
  rw [instanceNameChars_of_ascii h, List.getElem?_append, List.length_map, List.length_take,
    Nat.min_eq_left (acronymLength_le_length name)]
  split
  · rename_i hfront
    rw [List.getElem?_map, List.getElem?_take_of_lt hfront, hk, Option.map_some, hlower]
  · rename_i hback
    rw [List.getElem?_drop, Nat.add_sub_cancel' (Nat.not_lt.1 hback), hk]

/-- **The front of the name of an instance goes no further than that of the class name**, because
the first small letter of the class name is still one. -/
theorem acronymLength_instanceNameChars_le :
    acronymLength (instanceNameChars name) ≤ acronymLength name := by
  cases hfirst : name.findIdx? isLowercase with
  | none =>
    rw [acronymLength_of_none hfirst, ← length_instanceNameChars h]
    exact acronymLength_le_length _
  | some k =>
    obtain ⟨hk, hindex⟩ := List.findIdx?_eq_some_iff_findIdx_eq.1 hfirst
    have hsmall : isLowercase name[k] = true := by
      subst hindex
      exact List.findIdx_getElem
    have hget : (instanceNameChars name)[k]? = some name[k] := by
      have hascii := isLowercase_of_ascii (h _ (List.getElem_mem hk))
      exact getElem?_instanceNameChars h (List.getElem?_eq_getElem hk) (hascii ▸ hsmall)
    have hle : (instanceNameChars name).findIdx isLowercase ≤ k := by
      obtain ⟨hlt, hat⟩ := List.getElem?_eq_some_iff.1 hget
      by_contra hbehind
      have hnot := List.not_of_lt_findIdx (Nat.not_le.1 hbehind)
      rw [hat, hsmall] at hnot
      cases hnot
    have hfound : (instanceNameChars name).findIdx? isLowercase =
        some ((instanceNameChars name).findIdx isLowercase) := by
      have hlength := length_instanceNameChars h
      exact List.findIdx?_eq_some_iff_findIdx_eq.2 ⟨by omega, rfl⟩
    rw [acronymLength_of_some hfirst, acronymLength_of_some hfound]
    omega

/-- The front of the name of an instance is in small letters already. -/
theorem map_toLower_take : ((instanceNameChars name).take
      (acronymLength (instanceNameChars name))).map Char.toLower =
    (instanceNameChars name).take (acronymLength (instanceNameChars name)) := by
  have hle := acronymLength_instanceNameChars_le h
  have hfront : ∀ c ∈ (instanceNameChars name).take (acronymLength name), c.toLower = c := by
    intro c hc
    have hlength : ((name.take (acronymLength name)).map Char.toLower).length =
        acronymLength name := by
      rw [List.length_map, List.length_take, Nat.min_eq_left (acronymLength_le_length name)]
    rw [instanceNameChars_of_ascii h, List.take_left' hlength] at hc
    obtain ⟨d, -, rfl⟩ := List.mem_map.1 hc
    exact Char.toLower_toLower_eq_toLower d
  have hid : ∀ c ∈ (instanceNameChars name).take (acronymLength (instanceNameChars name)),
      c.toLower = id c :=
    fun c hc => hfront c ((List.take_prefix_take_left hle).subset hc)
  rw [List.map_congr_left hid, List.map_id]

end

/-! ## 4. Names of instances -/

/-- **What the name of an instance has in common with the ASCII name of its class.** It is as long,
differs in nothing but the case of letters, does not start with a capital, and ends like the name of
the class from the letter in front of its first small one on. The name of an instance would be its
own name again. -/
theorem instanceName_of_ascii {name : String} (h : ∀ c ∈ name.toList, c.toNat < 128) :
    (instanceName name).length = name.length ∧
    (instanceName name).toList.map Char.toLower = name.toList.map Char.toLower ∧
    (∀ c ∈ (instanceName name).toList.head?, c.isUpper = false) ∧
    (∀ k, name.toList.findIdx? Char.isLower = some k → 2 ≤ k →
      (instanceName name).toList.drop (k - 1) = name.toList.drop (k - 1)) ∧
    instanceName (instanceName name) = instanceName name := by
  have hascii : Ascii name.toList := h
  have hchars : (instanceName name).toList = instanceNameChars name.toList := String.toList_ofList
  refine ⟨?_, ?_, ?_, ?_, ?_⟩
  · rw [← String.length_toList, hchars, length_instanceNameChars hascii, String.length_toList]
  · have htwice : ∀ c ∈ name.toList.take (acronymLength name.toList),
        (Char.toLower ∘ Char.toLower) c = c.toLower :=
      fun c _ => Char.toLower_toLower_eq_toLower c
    rw [hchars, instanceNameChars_of_ascii hascii, List.map_append, List.map_map,
      List.map_congr_left htwice, ← List.map_append, List.take_append_drop]
  · intro c hc
    rw [hchars, instanceNameChars_of_ascii hascii] at hc
    cases hname : name.toList with
    | nil =>
      rw [hname] at hc
      cases hc
    | cons d rest =>
      rw [hname] at hc
      obtain ⟨n, hn⟩ := Nat.exists_eq_succ_of_ne_zero
        (Nat.ne_of_gt (acronymLength_pos (List.cons_ne_nil d rest)))
      rw [hn] at hc
      cases hc
      exact Char.isUpper_toLower_eq_false d
  · intro k hk hle
    rw [← findIdx?_isLowercase hascii] at hk
    have hfront : acronymLength name.toList = k - 1 := by
      rw [acronymLength_of_some hk]
      omega
    have hlength : ((name.toList.take (k - 1)).map Char.toLower).length = k - 1 := by
      rw [List.length_map, List.length_take, ← hfront,
        Nat.min_eq_left (acronymLength_le_length _)]
    rw [hchars, instanceNameChars_of_ascii hascii, hfront, List.drop_left' hlength]
  · rw [instanceName, hchars, instanceNameChars_of_ascii (ascii_instanceNameChars hascii),
      map_toLower_take hascii, List.take_append_drop]
    rfl

/-- An acronym may start behind other characters, and is not read again. -/
theorem instanceName_dollarXMLParser :
    (∀ c ∈ "$XMLParser".toList, c.toNat < 128) ∧
    instanceName "$XMLParser" = "$xmlParser" ∧
    "$XMLParser".toList.findIdx? Char.isLower = some 5 ∧
    (instanceName "$XMLParser").toList.drop 4 = "$XMLParser".toList.drop 4 ∧
    instanceName (instanceName "$XMLParser") = instanceName "$XMLParser" := by
  have hascii : ∀ c ∈ "$XMLParser".toList, c.toNat < 128 := by simp
  have hfirst : "$XMLParser".toList.findIdx? Char.isLower = some 5 := by decide
  obtain ⟨-, -, -, hback, htwice⟩ := instanceName_of_ascii hascii
  exact ⟨hascii, by decide, hfirst, hback 5 hfirst (by decide), htwice⟩

end BuilderGen.Name
