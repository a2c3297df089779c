import BuilderGen.Source.Literal
import Mathlib.Data.List.Basic

/-!
# What a string literal evaluates to

A literal is read from its first quote to the next one that no backslash escapes. In between a
backslash and the character behind it stand for one character, a dollar sign would start a template,
and a line end would be a mistake. The written form of a text is read in full and as this text.

* `decode`: the text that the inside of a literal stands for, with `decode_encode`;
* `EndsInEscape`, `Inside`, `inside_of_decode`: what may stand between the quotes;
* `Evaluates`, `evaluates_encode_iff`: a text is written as a literal that evaluates to it alone.
-/

namespace BuilderGen.Source.Literal

/-! ## 1. Reading the inside -/

/-- The character for which a backslash and the given character stand. -/
def escaped? : Char → Option Char
  | '\\' => some '\\'
  | '"' => some '"'
  | '$' => some '$'
  | 'n' => some '\n'
  | 'r' => some '\r'
  | 't' => some '\t'
  | _ => none

/-- Whether a character stands for itself: it starts no escape and no template, and it ends neither
the literal nor the line. -/
def isPlain (c : Char) : Bool := c != '\\' && c != '"' && c != '$' && c != '\n' && c != '\r'

/-- **The text for which the inside of a literal stands**, if it is the inside of one. -/
def decode : List Char → Option (List Char)
  | [] => some []
  | '\\' :: c :: rest => (escaped? c).bind fun a => (decode rest).map (a :: ·)
  | c :: rest => if isPlain c then (decode rest).map (c :: ·) else none

theorem decode_escape (c : Char) (rest : List Char) :
    decode ('\\' :: c :: rest) = (escaped? c).bind fun a => (decode rest).map (a :: ·) := by
  rw [decode]

theorem decode_plain {c : Char} (hc : isPlain c = true) (rest : List Char) :
    decode (c :: rest) = (decode rest).map (c :: ·) := by
  have hne : c ≠ '\\' := by
    intro e
    rw [e] at hc
    exact absurd hc (by decide)
  rw [decode, if_pos hc]
  intro c' rest' e
  exact absurd e hne

/-- What is written for a character is read as that character. -/
theorem decode_encodeChar (c : Char) (rest : List Char) :
    decode (encodeChar c ++ rest) = (decode rest).map (c :: ·) := by
  unfold encodeChar
  by_cases hbackslash : c = '\\'
  · rw [if_pos hbackslash, hbackslash]
    exact decode_escape '\\' rest
  rw [if_neg hbackslash]
  by_cases hquote : c = '"'
  · rw [if_pos hquote, hquote]
    exact decode_escape '"' rest
  rw [if_neg hquote]
  by_cases hdollar : c = '$'
  · rw [if_pos hdollar, hdollar]
    exact decode_escape '$' rest
  rw [if_neg hdollar]
  by_cases hfeed : c = '\n'
  · rw [if_pos hfeed, hfeed]
    exact decode_escape 'n' rest
  rw [if_neg hfeed]
  by_cases hreturn : c = '\r'
  · rw [if_pos hreturn, hreturn]
    exact decode_escape 'r' rest
  rw [if_neg hreturn]
  by_cases htab : c = '\t'
  · rw [if_pos htab, htab]
    exact decode_escape 't' rest
  rw [if_neg htab]
  have hplain : isPlain c = true := by
    simp [isPlain, hbackslash, hquote, hdollar, hfeed, hreturn]
  exact decode_plain hplain rest

/-- **What is written for a text is read as that text.** -/
theorem decode_encode (s : List Char) : decode (s.flatMap encodeChar) = some s := by
  induction s with
  | nil => rfl
  | cons c rest ih =>
    rw [List.flatMap_cons, decode_encodeChar, ih]
    rfl

/-! ## 2. Between the quotes -/

/-- **What follows is escaped**: an odd number of backslashes stands at the end. -/
def EndsInEscape (front : List Char) : Prop :=
  (front.reverse.takeWhile (· = '\\')).length % 2 = 1

instance (front : List Char) : Decidable (EndsInEscape front) :=
  inferInstanceAs (Decidable (_ = _))

/-- A front that does not escape what follows does not count. -/
theorem endsInEscape_append {front : List Char} (hf : ¬ EndsInEscape front) (w : List Char) :
    EndsInEscape (front ++ w) ↔ EndsInEscape w := by
  unfold EndsInEscape at hf ⊢
  rw [List.reverse_append, List.takeWhile_append]
  split
  · -- The end of `w` reaches its front, and the backslashes of both are counted.
    rename_i hall
    rw [List.length_append, ← hall]
    omega
  · rfl

/-- **What may stand between the quotes of a literal**: each quote and each dollar sign is escaped,
no line ends, and the quote behind it is not escaped. -/
structure Inside (w : List Char) : Prop where
  escaped : ∀ front c back, w = front ++ c :: back → c = '"' ∨ c = '$' → EndsInEscape front
  line : '\n' ∉ w ∧ '\r' ∉ w
  closed : ¬ EndsInEscape w

theorem inside_nil : Inside [] where
  escaped := by
    intro front c back e
    exact absurd e.symm (List.append_ne_nil_of_right_ne_nil _ (List.cons_ne_nil _ _))
  line := ⟨List.not_mem_nil, List.not_mem_nil⟩
  closed := by decide

/-- What may stand between the quotes may stand there side by side. -/
theorem Inside.append {v w : List Char} (hv : Inside v) (hw : Inside w) : Inside (v ++ w) where
  escaped := by
    intro front c back e hc
    rcases List.append_eq_append_iff.1 e with ⟨front', rfl, hrest⟩ | ⟨middle, hfront, hmiddle⟩
    · exact (endsInEscape_append hv.closed front').2 (hw.escaped front' c back hrest hc)
    · cases middle with
      | nil =>
        have hfirst := hw.escaped [] c back hmiddle.symm hc
        exact absurd hfirst (by decide)
      | cons c' middle =>
        obtain ⟨rfl, -⟩ := List.cons.inj hmiddle
        exact hv.escaped front c middle hfront hc
  line := by
    rw [List.mem_append, List.mem_append, not_or, not_or]
    exact ⟨⟨hv.line.1, hw.line.1⟩, hv.line.2, hw.line.2⟩
  closed := fun h => hw.closed ((endsInEscape_append hv.closed w).1 h)

/-- Only the one character of a list stands behind a front. -/
theorem split_singleton {c d : Char} {front back : List Char} (e : [c] = front ++ d :: back) :
    front = [] ∧ d = c := by
  rcases List.singleton_eq_append_iff.1 e with ⟨hfront, hd⟩ | ⟨-, hd⟩
  · exact ⟨hfront, (List.cons.inj hd).1⟩
  · cases hd

theorem inside_plain {c : Char} (hc : isPlain c = true) : Inside [c] := by
  simp only [isPlain, Bool.and_eq_true, bne_iff_ne] at hc
  obtain ⟨⟨⟨⟨hbackslash, hquote⟩, hdollar⟩, hfeed⟩, hreturn⟩ := hc
  refine ⟨fun front d back e hd => ?_, ?_, ?_⟩
  · obtain ⟨-, rfl⟩ := split_singleton e
    exact absurd hd (not_or.2 ⟨hquote, hdollar⟩)
  · exact ⟨by simpa using Ne.symm hfeed, by simpa using Ne.symm hreturn⟩
  · simp [EndsInEscape, hbackslash]

theorem inside_escape {c a : Char} (hc : escaped? c = some a) : Inside ['\\', c] := by
  have hfeed : c ≠ '\n' := by
    intro e
    simp [e, escaped?] at hc
  have hreturn : c ≠ '\r' := by
    intro e
    simp [e, escaped?] at hc
  refine ⟨fun front d back e hd => ?_, ?_, ?_⟩
  · cases front with
    | nil =>
      obtain rfl : '\\' = d := (List.cons.inj e).1
      exact absurd hd (by decide)
    | cons b front =>
      obtain ⟨hb, hrest⟩ := List.cons.inj e
      obtain ⟨hfront, -⟩ := split_singleton hrest
      rw [← hb, hfront]
      decide
  · exact ⟨by simpa using Ne.symm hfeed, by simpa using Ne.symm hreturn⟩
  · by_cases hbackslash : c = '\\'
    · rw [hbackslash]
      decide
    · simp [EndsInEscape, hbackslash]

/-- **What is read as a text may stand between the quotes of a literal.** -/
theorem inside_of_decode {w s : List Char} (hd : decode w = some s) : Inside w := by
  induction w using decode.induct generalizing s with
  | case1 => exact inside_nil
  | case2 c rest ih =>
    rw [decode_escape] at hd
    obtain ⟨a, hc, hrest⟩ := Option.bind_eq_some_iff.1 hd
    obtain ⟨s', hs', -⟩ := Option.map_eq_some_iff.1 hrest
    exact (inside_escape hc).append (ih hs')
  | case3 c rest hne hc ih =>
    rw [decode_plain hc] at hd
    obtain ⟨s', hs', -⟩ := Option.map_eq_some_iff.1 hd
    exact (inside_plain hc).append (ih hs')
  | case4 c rest hne hc =>
    rw [decode, if_neg hc] at hd
    · cases hd
    · exact hne

/-! ## 3. Literals -/

/-- **A literal evaluates to a text**: it starts and ends with a quote, and what stands in between is
read as the text. -/
def Evaluates (literal text : String) : Prop :=
  ∃ w, literal.toList = '"' :: w ++ ['"'] ∧ Inside w ∧ decode w = some text.toList

/-- **The literal for a text evaluates to this text and to no other.** -/
theorem evaluates_encode_iff (s t : String) : Evaluates (encode s) t ↔ t = s := by
  have hliteral : (encode s).toList = '"' :: s.toList.flatMap encodeChar ++ ['"'] := by
    rw [encode, String.toList_ofList, encodeChars]
  have hdecode := decode_encode s.toList
  constructor
  · intro h
    obtain ⟨w, hw, -, hd⟩ := h
    rw [hliteral] at hw
    have hinside : s.toList.flatMap encodeChar = w :=
      List.append_cancel_right (List.cons.inj hw).2
    rw [← hinside, hdecode] at hd
    exact String.toList_injective (Option.some.inj hd).symm
  · intro e
    rw [e]
    exact ⟨_, hliteral, inside_of_decode hdecode, hdecode⟩

end BuilderGen.Source.Literal
