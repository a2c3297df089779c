import BuilderGen.Proofs.Result
import BuilderGen.Proofs.Types.Grammar

/-!
# Reading type expressions

The reader goes down into the arguments of a type and along their row. What it accepts are the
sentences of the language, each of them with the type that it writes, and it comes to an end on
every text.

* `readType_eq_ok`, `readArgs_eq_ok`: one step of the reader;
* `writes_of_read`, `read_of_writes`, `parse_eq_ok_iff`: what is read is a sentence, and each
  sentence is read;
* `Calls`, `wellFounded_calls`: no text makes the reader call itself without end;
* `sameWith_of_room_lt`: the fuel that it is given makes no difference;
* `reader_exact`: all of this together.
-/

namespace BuilderGen.Types

open BuilderGen.Result
open BuilderGen.Text

/-! ## 1. Steps -/

section

variable {fuel : Nat} {s rest : List Char}

/-- **One step into a type**: a name, and its arguments if a bracket follows it. -/
theorem readType_eq_ok {t : TypeExpression} : readType (fuel + 1) s = .ok (t, rest) ↔
    ∃ name behind, (∃ u, readBound s = .ok u ∧ readName u = .ok (name, behind)) ∧
      ((∀ tail, skipBlanks behind ≠ '<' :: tail) ∧ rest = skipBlanks behind ∧
          t = .mk (String.ofList name) [] ∨
        ∃ tail args, skipBlanks behind = '<' :: tail ∧ readArgs fuel tail = .ok (args, rest) ∧
          t = .mk (String.ofList name) args) := by
  constructor
  · intro hread
    rw [readType] at hread
    split at hread
    · cases hread
    · rename_i u hu
      split at hread
      · cases hread
      · rename_i name behind hname
        refine ⟨name, behind, ⟨u, hu, hname⟩, ?_⟩
        split at hread
        · rename_i tail htail
          split at hread
          · cases hread
          · rename_i args after hargs
            cases hread
            exact .inr ⟨tail, args, htail, hargs, rfl⟩
        · rename_i hbracket
          cases hread
          exact .inl ⟨hbracket, rfl, rfl⟩
  · intro ⟨name, behind, ⟨u, hu, hname⟩, hcases⟩
    rw [readType, hu]
    simp only [hname]
    rcases hcases with ⟨hbracket, rfl, rfl⟩ | ⟨tail, args, htail, hargs, rfl⟩
    · split
      · rename_i tail htail
        exact absurd htail (hbracket tail)
      · rfl
    · simp only [htail, hargs]

/-- **One step along a row**: a type, and then the end of the row or a comma and the rest of it. -/
theorem readArgs_eq_ok {args : List TypeExpression} : readArgs (fuel + 1) s = .ok (args, rest) ↔
    ∃ t behind, readType fuel s = .ok (t, behind) ∧
      (skipBlanks behind = '>' :: rest ∧ args = [t] ∨
        ∃ tail more, skipBlanks behind = ',' :: tail ∧ readArgs fuel tail = .ok (more, rest) ∧
          args = t :: more) := by
  constructor
  · intro hread
    rw [readArgs] at hread
    split at hread
    · cases hread
    · rename_i t behind ht
      refine ⟨t, behind, ht, ?_⟩
      split at hread
      · rename_i tail htail
        split at hread
        · cases hread
        · rename_i more after hmore
          cases hread
          exact .inr ⟨tail, more, htail, hmore, rfl⟩
      · rename_i tail htail
        cases hread
        exact .inl ⟨htail, rfl⟩
      · cases hread
  · intro ⟨t, behind, ht, hcases⟩
    rw [readArgs, ht]
    rcases hcases with ⟨hend, rfl⟩ | ⟨tail, more, htail, hmore, rfl⟩
    · simp only [hend]
    · simp only [htail, hmore]

end

/-! ## 2. Soundness -/

/-- **What is read is a sentence**, by induction on the fuel. -/
theorem writes_of_read (fuel : Nat) :
    (∀ s t rest, readType fuel s = .ok (t, rest) → ∃ front, Writes front t ∧ s = front ++ rest) ∧
    ∀ s args rest, readArgs fuel s = .ok (args, rest) →
      ∃ row, WritesRow row args ∧ s = row ++ '>' :: rest := by
  induction fuel with
  | zero => exact ⟨fun _ _ _ hread => (nomatch hread), fun _ _ _ hread => (nomatch hread)⟩
  | succ fuel ih =>
    obtain ⟨ihtype, ihargs⟩ := ih
    refine ⟨fun s t rest hread => ?_, fun s args rest hread => ?_⟩
    · obtain ⟨name, behind, hhead, hcases⟩ := readType_eq_ok.1 hread
      obtain ⟨hname, -, bound, w, hbound, hw, rfl⟩ := readBound_readName.1 hhead
      obtain ⟨v, hv, hbehind⟩ := exists_skipBlanks behind
      rcases hcases with ⟨-, rfl, rfl⟩ | ⟨tail, args, htail, hargs, rfl⟩
      · refine ⟨_, .mk hbound hw hname hv .none, ?_⟩
        rw [List.append_nil]
        simp only [List.append_assoc]
        rw [← hbehind]
      · obtain ⟨row, hrow, rfl⟩ := ihargs tail args rest hargs
        refine ⟨_, .mk hbound hw hname hv (.some hrow blanks_nil), ?_⟩
        rw [hbehind, htail]
        simp only [List.append_assoc, List.cons_append, List.nil_append]
    · obtain ⟨t, behind, ht, hcases⟩ := readArgs_eq_ok.1 hread
      obtain ⟨front, hfront, rfl⟩ := ihtype s t behind ht
      obtain ⟨v, hv, hbehind⟩ := exists_skipBlanks behind
      have hwrites := hfront.append_blanks hv
      rcases hcases with ⟨hend, rfl⟩ | ⟨tail, more, htail, hmore, rfl⟩
      · refine ⟨_, .one hwrites, ?_⟩
        rw [hbehind, hend, List.append_assoc]
      · obtain ⟨row, hrow, rfl⟩ := ihargs tail more rest hmore
        refine ⟨_, .more hwrites hrow, ?_⟩
        rw [hbehind, htail]
        simp only [List.append_assoc, List.cons_append]

/-! ## 3. Completeness -/

/-- What may follow a type: nothing, or a comma or a closing bracket. -/
def EndsType (rest : List Char) : Prop := ∀ c ∈ rest.head?, c = ',' ∨ c = '>'

theorem EndsType.startsOutside {rest : List Char} (hrest : EndsType rest) {kind : Char → Bool}
    (hcomma : kind ',' = false) (hbracket : kind '>' = false) : StartsOutside kind rest := by
  intro c hc
  rcases hrest c hc with rfl | rfl
  · exact hcomma
  · exact hbracket

theorem Writes.length_pos {s : List Char} {t : TypeExpression} (hs : Writes s t) :
    0 < s.length := by
  cases hs with
  | mk _ _ hname _ _ =>
    have hpos := List.length_pos_of_ne_nil hname.nonempty
    simp only [List.length_append]
    omega

/-- Behind a name the arguments start, or what follows the type. -/
theorem WritesArgs.startsOutside {row rest : List Char} {args : List TypeExpression}
    (hrow : WritesArgs row args) {kind : Char → Bool} (hopen : kind '<' = false)
    (hrest : StartsOutside kind rest) : StartsOutside kind (row ++ rest) := by
  cases hrow with
  | none => exact hrest
  | some _ _ => exact startsOutside_cons hopen _

theorem startsOutside_isNameChar_of_blanks {w : List Char} (hw : Blanks w) :
    StartsOutside isNameChar w :=
  fun c hc => isNameChar_of_isBlank (hw c (List.mem_of_mem_head? hc))

/-- **All of a sentence is read**, by induction on the fuel. -/
theorem read_of_writes (fuel : Nat) :
    (∀ s t rest, Writes s t → 2 * s.length ≤ fuel → EndsType rest →
      ∃ u, readType fuel (s ++ rest) = .ok (t, u) ∧ skipBlanks u = rest) ∧
    ∀ row args rest, WritesRow row args → 2 * row.length + 1 ≤ fuel →
      readArgs fuel (row ++ '>' :: rest) = .ok (args, rest) := by
  induction fuel with
  | zero =>
    refine ⟨fun s t rest hs hfuel => ?_, fun row args rest hrow hfuel => ?_⟩
    · have hpos := hs.length_pos
      omega
    · omega
  | succ fuel ih =>
    obtain ⟨ihtype, ihargs⟩ := ih
    refine ⟨fun s t rest hs hfuel hrest => ?_, fun row args rest hrow hfuel => ?_⟩
    · have hblank : StartsOutside isBlank rest := hrest.startsOutside (by decide) (by decide)
      have hchar : StartsOutside isNameChar rest := hrest.startsOutside (by decide) (by decide)
      cases hs with
      | @mk bound w name v row args hbound hw hname hv hargs =>
        have hout : StartsOutside isNameChar (v ++ (row ++ rest)) :=
          startsOutside_append (startsOutside_isNameChar_of_blanks hv)
            (hargs.startsOutside (by decide) hchar)
        have hhead := readBound_readName.2 ⟨hname, hout, bound, w, hbound, hw, rfl⟩
        have hskip : skipBlanks (v ++ (row ++ rest)) = row ++ rest :=
          skipBlanks_append hv (hargs.startsOutside (by decide) hblank)
        simp only [List.append_assoc]
        cases hargs with
        | none =>
          refine ⟨rest, readType_eq_ok.2 ⟨name, _, hhead, .inl ⟨?_, hskip.symm, rfl⟩⟩, ?_⟩
          · intro tail htail
            have hbracket : rest = '<' :: tail := hskip.symm.trans htail
            exact absurd (hrest '<' (by rw [hbracket]; rfl)) (by decide)
          · exact skipBlanks_append blanks_nil hblank
        | @some row w' _ hrow hw' =>
          have hfuel' : 2 * row.length + 1 ≤ fuel := by
            simp only [List.length_append, List.length_cons] at hfuel
            omega
          have hread := ihargs row args (w' ++ rest) hrow hfuel'
          have htail : skipBlanks (v ++ ('<' :: (row ++ '>' :: w') ++ rest)) =
              '<' :: (row ++ '>' :: (w' ++ rest)) := by
            rw [hskip, List.cons_append, List.append_assoc, List.cons_append]
          exact ⟨w' ++ rest, readType_eq_ok.2 ⟨name, _, hhead, .inr ⟨_, args, htail, hread, rfl⟩⟩,
            skipBlanks_append hw' hblank⟩
    · cases hrow with
      | @one _ t hs =>
        have hend : EndsType ('>' :: rest) := fun c hc => .inr (Option.some.inj hc).symm
        obtain ⟨u, hread, hskip⟩ := ihtype row t _ hs (by omega) hend
        exact readArgs_eq_ok.2 ⟨t, u, hread, .inl ⟨hskip, rfl⟩⟩
      | @more s row t args hs hrow =>
        have hend : EndsType (',' :: (row ++ '>' :: rest)) :=
          fun c hc => .inl (Option.some.inj hc).symm
        simp only [List.length_append, List.length_cons] at hfuel
        obtain ⟨u, hread, hskip⟩ := ihtype s t _ hs (by omega) hend
        have hmore := ihargs row args rest hrow (by omega)
        rw [List.append_assoc, List.cons_append]
        exact readArgs_eq_ok.2 ⟨t, u, hread, .inr ⟨_, args, hskip, hmore, rfl⟩⟩

/-- **A text is accepted with a type exactly if it writes that type.** -/
theorem parse_eq_ok_iff {s : String} {t : TypeExpression} :
    TypeExpression.parse s = .ok t ↔ Writes s.toList t := by
  rw [TypeExpression.parse, mapError_ok, TypeExpression.ofChars]
  constructor
  · intro hread
    split at hread
    · cases hread
    · rename_i u rest hu
      split at hread
      · rename_i hrest
        cases hread
        obtain ⟨front, hfront, hs⟩ := (writes_of_read _).1 _ _ _ hu
        obtain ⟨w, hw, hblank⟩ := exists_skipBlanks rest
        rw [hrest, List.append_nil] at hblank
        rw [hs, hblank]
        exact hfront.append_blanks hw
      · cases hread
  · intro hs
    have hend : EndsType [] := fun c hc => nomatch hc
    obtain ⟨u, hread, hskip⟩ :=
      (read_of_writes (2 * s.toList.length + 2)).1 _ t [] hs (Nat.le_add_right _ 2) hend
    rw [List.append_nil] at hread
    rw [hread]
    simp only [hskip]

/-! ## 4. Termination -/

/-- A call of the reader, with the text in front of it. -/
inductive Call where
  | type (s : List Char)
  | args (s : List Char)

/-- **The calls that a call of the reader makes in turn.** What it comes to depends on no others, as
`sameWith_succ` says. -/
inductive Calls : Call → Call → Prop where
  /-- Into the arguments behind a name. -/
  | enter {s u name behind tail : List Char} : readBound s = .ok u →
    readName u = .ok (name, behind) → skipBlanks behind = '<' :: tail → Calls (.args tail) (.type s)
  /-- To the first type of a row. -/
  | first (s : List Char) : Calls (.type s) (.args s)
  /-- To the row behind a comma. -/
  | next {fuel : Nat} {s behind tail : List Char} {t : TypeExpression} :
    readType fuel s = .ok (t, behind) → skipBlanks behind = ',' :: tail →
    Calls (.args tail) (.args s)

/-- The room that a call has for further calls. -/
def Call.room : Call → Nat
  | .type s => 2 * s.length
  | .args s => 2 * s.length + 1

theorem length_lt_of_skipBlanks {s tail : List Char} {c : Char} (hskip : skipBlanks s = c :: tail) :
    tail.length < s.length := by
  have hle : (skipBlanks s).length ≤ s.length := (List.dropWhile_suffix _).length_le
  rwa [hskip] at hle

/-- **Each call leaves less room.** -/
theorem Calls.room_lt {next call : Call} (hcalls : Calls next call) : next.room < call.room := by
  cases hcalls with
  | @enter s u name behind tail hu hname htail =>
    obtain ⟨hname, -, bound, w, -, -, rfl⟩ := readBound_readName.1 ⟨u, hu, hname⟩
    have hpos := List.length_pos_of_ne_nil hname.nonempty
    have hlt := length_lt_of_skipBlanks htail
    simp only [Call.room, List.length_append]
    omega
  | first s => exact Nat.lt_succ_self _
  | @next fuel s behind tail t ht htail =>
    obtain ⟨front, hfront, rfl⟩ := (writes_of_read fuel).1 s t behind ht
    have hlt := length_lt_of_skipBlanks htail
    simp only [Call.room, List.length_append]
    omega

/-- **No text makes the reader call itself without end.** -/
theorem wellFounded_calls : WellFounded Calls :=
  Subrelation.wf Calls.room_lt (measure Call.room).wf

/-- A call comes to the same with two amounts of fuel. -/
def SameWith (m n : Nat) : Call → Prop
  | .type s => readType m s = readType n s
  | .args s => readArgs m s = readArgs n s

/-- A call comes to the same if all calls that it makes do. -/
theorem sameWith_succ {m n : Nat} {call : Call}
    (hcalls : ∀ next, Calls next call → SameWith m n next) : SameWith (m + 1) (n + 1) call := by
  cases call with
  | type s =>
    show readType (m + 1) s = readType (n + 1) s
    rw [readType, readType]
    cases hu : readBound s with
    | error e => rfl
    | ok u =>
      cases hname : readName u with
      | error e => simp only [hname]
      | ok found =>
        obtain ⟨name, behind⟩ := found
        simp only [hname]
        split
        · rename_i tail htail
          have hargs : readArgs m tail = readArgs n tail := hcalls _ (.enter hu hname htail)
          rw [hargs]
        · rfl
  | args s =>
    show readArgs (m + 1) s = readArgs (n + 1) s
    have htype : readType m s = readType n s := hcalls _ (.first s)
    rw [readArgs, readArgs, htype]
    cases ht : readType n s with
    | error e => rfl
    | ok found =>
      obtain ⟨t, behind⟩ := found
      simp only
      split
      · rename_i tail htail
        have hargs : readArgs m tail = readArgs n tail := hcalls _ (.next ht htail)
        rw [hargs]
      · rfl
      · rfl

/-- **How much fuel the reader is given makes no difference**, if it is enough for the text. -/
theorem sameWith_of_room_lt (call : Call) :
    ∀ {m n : Nat}, call.room < m → call.room < n → SameWith m n call := by
  induction call using wellFounded_calls.induction with
  | h call ih =>
    intro m n hm hn
    obtain ⟨m, rfl⟩ := Nat.exists_eq_succ_of_ne_zero (Nat.ne_zero_of_lt hm)
    obtain ⟨n, rfl⟩ := Nat.exists_eq_succ_of_ne_zero (Nat.ne_zero_of_lt hn)
    refine sameWith_succ fun next hnext => ?_
    have hlt := hnext.room_lt
    exact ih next hnext (by omega) (by omega)

/-- **Type expressions are read exactly.** A text is accepted with a type exactly if it writes that
type, and exactly the types with names of the language are read from some text. The reader comes to
an end on every text: its calls cannot go on for ever, and with more fuel it gives the same. -/
theorem reader_exact :
    (∀ s t, TypeExpression.parse s = .ok t ↔ Writes s.toList t) ∧
    (∀ t : TypeExpression, t.WellNamed ↔ ∃ s, TypeExpression.parse s = .ok t) ∧
    WellFounded Calls ∧
    ∀ (s : List Char) (extra : Nat),
      readType (2 * s.length + 2 + extra) s = readType (2 * s.length + 2) s := by
  refine ⟨fun s t => parse_eq_ok_iff, fun t => ?_, wellFounded_calls, fun s extra => ?_⟩
  · rw [wellNamed_iff_exists_writes]
    constructor
    · intro hspelled
      obtain ⟨s, hs⟩ := hspelled
      exact ⟨String.ofList s, parse_eq_ok_iff.2 (by rwa [String.toList_ofList])⟩
    · intro hread
      obtain ⟨s, hs⟩ := hread
      exact ⟨s.toList, parse_eq_ok_iff.1 hs⟩
  · have hroom : (Call.type s).room < 2 * s.length + 2 := Nat.lt_add_of_pos_right (by decide)
    exact sameWith_of_room_lt (.type s) (Nat.lt_add_right extra hroom) hroom

end BuilderGen.Types
