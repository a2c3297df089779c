import BuilderGen.Proofs.Name.Acronym
import BuilderGen.Proofs.Name.Letters

/-!
# Names derived from identifiers

A setter whose rest is an identifier lends its name to a property, a getter and a parameter, and a
class lends its name to instances and builders. The case of letters is changed on the way, which may
bring in a mark, and then the name is no identifier any more.

* `isIdentifier_capitalize_iff`, `isIdentifier_decapitalize_iff`, `isIdentifier_instanceName_iff`:
  when a changed identifier is one;
* `derivedNames_isIdentifier_iff`: when the names of properties, parameters and instances are.
-/

namespace BuilderGen.Name

open BuilderGen.Text

/-! ## 1. Changes of case -/

section

variable {s : String} (hs : isIdentifier s = true)
include hs

/-- An identifier starts with a character that may start one, and goes on with parts. -/
theorem exists_cons_of_isIdentifier : ∃ c rest, s.toList = c :: rest ∧
    isIdentifierStart c = true ∧ ∀ d ∈ rest, isIdentifierPart d = true := by
  unfold isIdentifier at hs
  cases hl : s.toList with
  | nil =>
    rw [hl] at hs
    cases hs
  | cons c rest =>
    rw [hl, isIdentifierChars, Bool.and_eq_true, List.all_eq_true] at hs
    exact ⟨c, rest, rfl, hs⟩

/-- **An identifier with a capital first letter is one unless the capital form has a mark.** -/
theorem isIdentifier_capitalize_iff : isIdentifier (capitalize s) = true ↔
    ∀ c ∈ s.toList.head?, c.toNat ∉ markedCapitals := by
  obtain ⟨c, rest, hl, hc, hrest⟩ := exists_cons_of_isIdentifier hs
  rw [isIdentifier, capitalize, String.toList_ofList, hl, capitalizeChars,
    (form_upperForm c).isIdentifierChars_iff hc, and_iff_left hrest]
  simp

/-- **An identifier with a small first letter is one unless it started with a dotted capital.** -/
theorem isIdentifier_decapitalize_iff : isIdentifier (decapitalize s) = true ↔
    s.toList.head? ≠ some dottedCapital := by
  obtain ⟨c, rest, hl, hc, hrest⟩ := exists_cons_of_isIdentifier hs
  rw [isIdentifier, decapitalize, String.toList_ofList, hl, decapitalizeChars,
    (form_lowerForm c).isIdentifierChars_iff hc, and_iff_left hrest]
  simp

/-- **The name of an instance is an identifier unless a dotted capital is lowered in it.** -/
theorem isIdentifier_instanceName_iff : isIdentifier (instanceName s) = true ↔
    dottedCapital ∉ s.toList.take (acronymLength s.toList) := by
  have hchars : isIdentifierChars (s.toList.take (acronymLength s.toList) ++
      s.toList.drop (acronymLength s.toList)) = true := by
    rw [List.take_append_drop]
    exact hs
  rw [isIdentifier, instanceName, String.toList_ofList, instanceNameChars_eq]
  exact isIdentifierChars_lowercase_iff hchars

end

/-! ## 2. Setters -/

/-- What a setter is: `set` and an identifier, which the property takes over with a small letter. -/
theorem propertyOfSetter?_eq_some {setter property : String} :
    propertyOfSetter? setter = some property ↔
      ∃ rest, setter = "set" ++ rest ∧ isIdentifier rest = true ∧ property = decapitalize rest := by
  unfold propertyOfSetter?
  constructor
  · intro h
    split at h
    · rename_i rest hrest
      by_cases hid : isIdentifier rest = true
      · rw [if_pos hid, Option.some.injEq] at h
        exact ⟨rest, behind?_eq_some.1 hrest, hid, h.symm⟩
      · rw [if_neg hid] at h
        cases h
    · cases h
  · rintro ⟨rest, rfl, hid, rfl⟩
    rw [behind?_eq_some.2 rfl]
    exact if_pos hid

/-- A text goes on behind a word with a character if it starts with both. -/
theorem concat_prefix_append_iff {word rest : List Char} {c : Char} :
    word ++ [c] <+: word ++ rest ↔ rest.head? = some c := by
  rw [List.prefix_append_right_inj]
  cases rest with
  | nil => simp
  | cons d more => simp [eq_comm]

/-- **When derived names are identifiers.** The property of a setter is one exactly if no capital
`I` with a dot stands behind `set`. A parameter has the name of the property, or keeps the word `is`
and is an identifier at any rate. Of an identifier, the form with a capital is an identifier exactly
if the first letter has no mark in its capital form, and the name of an instance exactly if no
capital `I` with a dot is among the letters that are lowered. -/
theorem derivedNames_isIdentifier_iff (setter s : String) :
    (∀ property, propertyOfSetter? setter = some property →
      (isIdentifier property = true ↔ ¬ "set".toList ++ [dottedCapital] <+: setter.toList) ∧
      parameterName (getterName setter false) = property ∧
      isIdentifier (parameterName (getterName setter true)) = true) ∧
    (isIdentifier s = true →
      (isIdentifier (capitalize s) = true ↔ ∀ c ∈ s.toList.head?, c.toNat ∉ markedCapitals) ∧
      (isIdentifier (instanceName s) = true ↔
        dottedCapital ∉ s.toList.take (acronymLength s.toList))) := by
  refine ⟨fun property hproperty => ?_, fun hs =>
    ⟨isIdentifier_capitalize_iff hs, isIdentifier_instanceName_iff hs⟩⟩
  obtain ⟨rest, rfl, hrest, rfl⟩ := propertyOfSetter?_eq_some.1 hproperty
  refine ⟨?_, ?_, ?_⟩
  · rw [isIdentifier_decapitalize_iff hrest, String.toList_append, concat_prefix_append_iff]
  · rw [parameterName_getterName, if_neg Bool.false_ne_true]
  · have his : isIdentifier "is" = true := rfl
    rw [parameterName_getterName, if_pos rfl]
    exact isIdentifier_append his hrest

/-- Three identifiers whose derived names have a mark in them: a setter, a name in small letters and
a class. -/
theorem not_isIdentifier_marked :
    propertyOfSetter? "set\u0130d" = some "i\u0307d" ∧ isIdentifier "i\u0307d" = false ∧
    isIdentifier "\u01F0ug" = true ∧ capitalize "\u01F0ug" = "J\u030Cug" ∧
    isIdentifier "J\u030Cug" = false ∧
    isIdentifier "URL\u0130X" = true ∧ instanceName "URL\u0130X" = "urli\u0307x" ∧
    isIdentifier "urli\u0307x" = false :=
  ⟨rfl, rfl, rfl, rfl, rfl, rfl, rfl, rfl⟩

/-- A dotted capital does no harm behind the letters that are lowered, nor does another capital. -/
theorem isIdentifier_derived_plain :
    propertyOfSetter? "set\u00C9\u0130" = some "\u00E9\u0130" ∧
    isIdentifier "\u00E9\u0130" = true ∧
    isIdentifier (parameterName (getterName "set\u00C9\u0130" true)) = true ∧
    isIdentifier "SSL\u0130ndex" = true ∧ isIdentifier (capitalize "SSL\u0130ndex") = true ∧
    isIdentifier (instanceName "SSL\u0130ndex") = true := by
  have hproperty : propertyOfSetter? "set\u00C9\u0130" = some "\u00E9\u0130" := rfl
  have hclass : isIdentifier "SSL\u0130ndex" = true := rfl
  obtain ⟨hsetter, hname⟩ := derivedNames_isIdentifier_iff "set\u00C9\u0130" "SSL\u0130ndex"
  obtain ⟨hiff, -, his⟩ := hsetter _ hproperty
  obtain ⟨hcapital, hinstance⟩ := hname hclass
  exact ⟨hproperty, hiff.2 (by decide), his, hclass, hcapital.2 (by simp [markedCapitals]),
    hinstance.2 (by decide)⟩

end BuilderGen.Name
