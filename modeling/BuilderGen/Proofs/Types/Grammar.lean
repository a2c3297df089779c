import BuilderGen.Proofs.Text.Blank
import BuilderGen.Types.TypeExpression
import Mathlib.Tactic

/-!
# The language of type expressions

    type  ::=  [ '?' 'extends' ]  name  [ '<' type (',' type)* '>' ]

Blanks may stand around every token, and one has to stand behind the word `extends`. A wildcard
means its bound, so it leaves no trace in the type.

* `TypeName`: the names of the language;
* `Bound`, `Writes`, `WritesArgs`, `WritesRow`: its sentences, each with the type that it writes;
* `WellNamed`, `wellNamed_iff_exists_writes`: the types that have a spelling;
* `readName_eq_ok`, `readBound_readName`: the readers of names, and of what may stand in front of
  them.
-/

namespace BuilderGen.Types

open BuilderGen.Text

/-! ## 1. Names -/

/-- **A name**: a run of letters, numbers and the characters `_`, `$` and `.`, which is not empty,
neither starts nor ends with a dot, and has no two dots in a row. -/
structure TypeName (s : List Char) : Prop where
  nonempty : s ≠ []
  chars : ∀ c ∈ s, isAlphanumeric c = true ∨ c = '_' ∨ c = '$' ∨ c = '.'
  start : s.head? ≠ some '.'
  stop : s.getLast? ≠ some '.'
  dots : ¬ ['.', '.'] <:+: s

theorem isNameChar_iff {c : Char} :
    isNameChar c = true ↔ isAlphanumeric c = true ∨ c = '_' ∨ c = '$' ∨ c = '.' := by
  simp only [isNameChar, Bool.or_eq_true, beq_iff_eq, or_assoc]

theorem hasDoubleDot_iff {s : List Char} : hasDoubleDot s = true ↔ ['.', '.'] <:+: s := by
  fun_induction hasDoubleDot s with
  | case1 rest => exact iff_of_true rfl ⟨[], rest, rfl⟩
  | case2 c rest hdots ih =>
    have hstart : ¬ ['.', '.'] <+: c :: rest := by
      intro hprefix
      obtain ⟨back, e⟩ := hprefix
      obtain ⟨rfl, rfl⟩ := List.cons.inj e
      exact hdots back rfl rfl
    rw [ih, List.infix_cons_iff, or_iff_right hstart]
  | case3 => exact iff_of_false nofun (by simp)

theorem typeName_iff {s : List Char} :
    TypeName s ↔ (∀ c ∈ s, isNameChar c = true) ∧ isName s = true := by
  have hname : isName s = true ↔
      s ≠ [] ∧ s.head? ≠ some '.' ∧ s.getLast? ≠ some '.' ∧ ¬ ['.', '.'] <:+: s := by
    simp [isName, ← hasDoubleDot_iff, and_assoc]
  rw [hname]
  constructor
  · intro hs
    exact ⟨fun c hc => isNameChar_iff.2 (hs.chars c hc), hs.nonempty, hs.start, hs.stop, hs.dots⟩
  · intro ⟨hchars, hnonempty, hstart, hstop, hdots⟩
    exact ⟨hnonempty, fun c hc => isNameChar_iff.1 (hchars c hc), hstart, hstop, hdots⟩

/-- No blank stands in a name. -/
theorem isNameChar_of_isBlank {c : Char} (hc : isBlank c = true) : isNameChar c = false := by
  rw [Bool.eq_false_iff, ne_eq, isNameChar_iff, isAlphanumeric_of_isBlank hc]
  intro hname
  rcases hname with hname | rfl | rfl | rfl
  · cases hname
  all_goals exact absurd hc (by decide)

/-- A name starts with a character that a name may hold. -/
theorem TypeName.exists_cons {s : List Char} (hs : TypeName s) :
    ∃ c rest, s = c :: rest ∧ isNameChar c = true := by
  cases s with
  | nil => exact absurd rfl hs.nonempty
  | cons c rest => exact ⟨c, rest, rfl, isNameChar_iff.2 (hs.chars c List.mem_cons_self)⟩

theorem TypeName.startsOutside_isBlank {s : List Char} (hs : TypeName s) (rest : List Char) :
    StartsOutside isBlank (s ++ rest) := by
  obtain ⟨c, tail, rfl, hc⟩ := hs.exists_cons
  refine startsOutside_cons (Bool.eq_false_iff.2 fun hblank => ?_) _
  rw [isNameChar_of_isBlank hblank] at hc
  cases hc

theorem exists_skipBlanks (s : List Char) : ∃ w, Blanks w ∧ s = w ++ skipBlanks s := exists_blanks s

/-- Blanks are skipped up to a text that starts with none. -/
theorem skipBlanks_append {w s : List Char} (hw : Blanks w) (hs : StartsOutside isBlank s) :
    skipBlanks (w ++ s) = s :=
  (takeWhile_of_startsOutside hw hs).2

/-- **What is read as a name is a name that goes on as far as possible, behind blanks.** -/
theorem readName_eq_ok {s name rest : List Char} : readName s = .ok (name, rest) ↔
    TypeName name ∧ StartsOutside isNameChar rest ∧ ∃ w, Blanks w ∧ s = w ++ (name ++ rest) := by
  constructor
  · intro hread
    obtain ⟨w, hw, hs⟩ := exists_blanks s
    dsimp only [readName] at hread
    split at hread
    · rename_i hname
      cases hread
      refine ⟨typeName_iff.2 ⟨fun c hc => List.mem_takeWhile_imp hc, hname⟩,
        startsOutside_dropWhile _, w, hw, ?_⟩
      rw [List.takeWhile_append_dropWhile]
      exact hs
    · cases hread
  · intro ⟨hname, hrest, w, hw, hs⟩
    obtain ⟨hchars, hisName⟩ := typeName_iff.1 hname
    obtain ⟨htake, hdrop⟩ := takeWhile_of_startsOutside hchars hrest
    dsimp only [readName]
    rw [hs, skipBlanks_append hw (hname.startsOutside_isBlank rest), htake, hdrop, if_pos hisName]

/-! ## 2. Sentences -/

/-- What may stand in front of a name: nothing, or the words of a wildcard with a blank behind. -/
inductive Bound : List Char → Prop where
  | none : Bound []
  | wildcard {u v w : List Char} : Blanks u → Blanks v → Blanks w → w ≠ [] →
    Bound (u ++ '?' :: (v ++ ("extends".toList ++ w)))

mutual

/-- **A text writes a type.** -/
inductive Writes : List Char → TypeExpression → Prop where
  | mk {bound u name v row : List Char} {args : List TypeExpression} :
    Bound bound → Blanks u → TypeName name → Blanks v → WritesArgs row args →
    Writes (bound ++ (u ++ (name ++ (v ++ row)))) (.mk (String.ofList name) args)

/-- A text writes the arguments behind a name. -/
inductive WritesArgs : List Char → List TypeExpression → Prop where
  | none : WritesArgs [] []
  | some {row w : List Char} {args : List TypeExpression} :
    WritesRow row args → Blanks w → WritesArgs ('<' :: (row ++ '>' :: w)) args

/-- A text writes the types between two brackets. -/
inductive WritesRow : List Char → List TypeExpression → Prop where
  | one {s : List Char} {t : TypeExpression} : Writes s t → WritesRow s [t]
  | more {s row : List Char} {t : TypeExpression} {args : List TypeExpression} :
    Writes s t → WritesRow row args → WritesRow (s ++ ',' :: row) (t :: args)

end

/-- A type all of whose names are names of the language. -/
inductive TypeExpression.WellNamed : TypeExpression → Prop where
  | mk {name : String} {args : List TypeExpression} :
    TypeName name.toList → (∀ t ∈ args, WellNamed t) → WellNamed (.mk name args)

mutual

theorem Writes.wellNamed {s : List Char} {t : TypeExpression} : Writes s t → t.WellNamed
  | .mk _ _ hname _ hargs => .mk (by rwa [String.toList_ofList]) hargs.wellNamed

theorem WritesArgs.wellNamed {s : List Char} {args : List TypeExpression} :
    WritesArgs s args → ∀ t ∈ args, t.WellNamed
  | .none => nofun
  | .some hrow _ => hrow.wellNamed

theorem WritesRow.wellNamed {s : List Char} {args : List TypeExpression} :
    WritesRow s args → ∀ t ∈ args, t.WellNamed
  | .one hs => List.forall_mem_singleton.2 hs.wellNamed
  | .more hs hrow => List.forall_mem_cons.2 ⟨hs.wellNamed, hrow.wellNamed⟩

end

/-- A row of types has a spelling if each of them has one. -/
theorem exists_writesRow {t : TypeExpression} {args : List TypeExpression}
    (hspelled : ∀ a ∈ t :: args, ∃ s, Writes s a) : ∃ row, WritesRow row (t :: args) := by
  induction args generalizing t with
  | nil =>
    obtain ⟨s, hs⟩ := hspelled t List.mem_cons_self
    exact ⟨s, .one hs⟩
  | cons next rest ih =>
    obtain ⟨⟨s, hs⟩, hrest⟩ := List.forall_mem_cons.1 hspelled
    obtain ⟨row, hrow⟩ := ih hrest
    exact ⟨s ++ ',' :: row, .more hs hrow⟩

/-- **Exactly the types with names of the language have a spelling.** -/
theorem wellNamed_iff_exists_writes {t : TypeExpression} : t.WellNamed ↔ ∃ s, Writes s t := by
  constructor
  · intro ht
    induction ht with
    | @mk name args hname _ ih =>
      have hargs : ∃ s, WritesArgs s args := by
        cases args with
        | nil => exact ⟨[], .none⟩
        | cons first rest =>
          obtain ⟨row, hrow⟩ := exists_writesRow ih
          exact ⟨_, .some hrow blanks_nil⟩
      obtain ⟨s, hs⟩ := hargs
      have hwrites := Writes.mk .none blanks_nil hname blanks_nil hs
      rw [String.ofList_toList] at hwrites
      exact ⟨_, hwrites⟩
  · intro hspelled
    obtain ⟨s, hs⟩ := hspelled
    exact hs.wellNamed

/-- Blanks behind a sentence belong to it. -/
theorem Writes.append_blanks {s w : List Char} {t : TypeExpression} (hs : Writes s t)
    (hw : Blanks w) : Writes (s ++ w) t := by
  cases hs with
  | mk hbound hu hname hv hargs =>
    cases hargs with
    | none =>
      have hwrites := Writes.mk hbound hu hname (hv.append hw) .none
      simpa only [List.append_assoc, List.append_nil] using hwrites
    | some hrow hback =>
      have hwrites := Writes.mk hbound hu hname hv (.some hrow (hback.append hw))
      simpa only [List.append_assoc, List.cons_append] using hwrites

/-! ## 3. The start of a sentence -/

theorem typeName_extends : TypeName "extends".toList := by
  have hchars : "extends".toList.all isNameChar = true := by decide +kernel
  have hname : isName "extends".toList = true := by decide
  exact typeName_iff.2 ⟨List.all_eq_true.1 hchars, hname⟩

/-- Behind a question mark stands the word `extends`. -/
theorem readBound_of_mark {s tail u : List Char} (hmark : skipBlanks s = '?' :: tail) :
    readBound s = .ok u ↔ readName tail = .ok ("extends".toList, u) := by
  unfold readBound
  rw [hmark]
  simp only
  constructor
  · intro hbound
    split at hbound
    · cases hbound
    · rename_i keyword behind hread
      rw [hread]
      by_cases hextends : keyword = "extends".toList
      · rw [if_pos hextends] at hbound
        cases hbound
        rw [hextends]
      · rw [if_neg hextends] at hbound
        cases hbound
  · intro hread
    rw [hread]
    rfl

theorem readBound_of_no_mark {s : List Char} (hmark : ∀ tail, skipBlanks s ≠ '?' :: tail) :
    readBound s = .ok (skipBlanks s) := by
  unfold readBound
  split
  · rename_i tail htail
    exact absurd htail (hmark tail)
  · rfl

/-- **A wildcard and a name are read from exactly the texts that start with them.** -/
theorem readBound_readName {s name rest : List Char} :
    (∃ u, readBound s = .ok u ∧ readName u = .ok (name, rest)) ↔
      TypeName name ∧ StartsOutside isNameChar rest ∧
        ∃ bound w, Bound bound ∧ Blanks w ∧ s = bound ++ (w ++ (name ++ rest)) := by
  constructor
  · intro ⟨u, hbound, hread⟩
    obtain ⟨hname, hrest, w, hw, hu⟩ := readName_eq_ok.1 hread
    refine ⟨hname, hrest, ?_⟩
    obtain ⟨front, hfront, hs⟩ := exists_skipBlanks s
    by_cases hmark : ∃ tail, skipBlanks s = '?' :: tail
    · obtain ⟨tail, htail⟩ := hmark
      have hkeyword := (readBound_of_mark htail).1 hbound
      obtain ⟨-, hout, v, hv, rfl⟩ := readName_eq_ok.1 hkeyword
      -- The name would be read as a part of the word if no blank stood between the two.
      have hblank : w ≠ [] := by
        intro hempty
        obtain ⟨c, back, rfl, hc⟩ := hname.exists_cons
        have hc' : isNameChar c = false := hout c (by rw [hu, hempty]; rfl)
        rw [hc] at hc'
        cases hc'
      refine ⟨_, [], .wildcard hfront hv hw hblank, blanks_nil, ?_⟩
      rw [hs, htail, hu]
      simp only [List.append_assoc, List.cons_append, List.nil_append]
    · have hplain := readBound_of_no_mark (not_exists.1 hmark)
      obtain rfl : skipBlanks s = u := Except.ok.inj (hplain.symm.trans hbound)
      refine ⟨[], front ++ w, .none, hfront.append hw, ?_⟩
      rw [List.nil_append, List.append_assoc, ← hu]
      exact hs
  · intro ⟨hname, hrest, bound, w, hbound, hw, hs⟩
    have hread : ∀ w, Blanks w → readName (w ++ (name ++ rest)) = .ok (name, rest) :=
      fun w hw => readName_eq_ok.2 ⟨hname, hrest, w, hw, rfl⟩
    cases hbound with
    | none =>
      have hskip : skipBlanks s = name ++ rest := by
        rw [hs]
        exact skipBlanks_append hw (hname.startsOutside_isBlank rest)
      have hmark : ∀ tail, skipBlanks s ≠ '?' :: tail := by
        intro tail htail
        obtain ⟨c, back, rfl, hc⟩ := hname.exists_cons
        obtain rfl : c = '?' := (List.cons.inj (hskip.symm.trans htail)).1
        exact absurd hc (by decide)
      refine ⟨_, readBound_of_no_mark hmark, ?_⟩
      rw [hskip]
      exact hread [] blanks_nil
    | @wildcard u v w' hu hv hw' hblank =>
      have hskip : skipBlanks s =
          '?' :: (v ++ ("extends".toList ++ (w' ++ (w ++ (name ++ rest))))) := by
        have hmark : ∀ rest, StartsOutside isBlank ('?' :: rest) := startsOutside_cons (by decide)
        rw [hs]
        simp only [List.append_assoc, List.cons_append]
        exact skipBlanks_append hu (hmark _)
      have hout : StartsOutside isNameChar (w' ++ (w ++ (name ++ rest))) := by
        obtain ⟨c, back, rfl⟩ := List.exists_cons_of_ne_nil hblank
        exact startsOutside_cons (isNameChar_of_isBlank (hw' c List.mem_cons_self)) _
      have hkeyword := readName_eq_ok.2 ⟨typeName_extends, hout, v, hv, rfl⟩
      refine ⟨_, (readBound_of_mark hskip).2 hkeyword, ?_⟩
      rw [← List.append_assoc]
      exact hread _ (hw'.append hw)

end BuilderGen.Types
